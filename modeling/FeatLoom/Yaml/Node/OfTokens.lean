import FeatLoom.OrderedMap
import FeatLoom.Yaml.Node
import FeatLoom.Yaml.Token

/-!
# From tokens to nodes

A text holds at most one document, which directives may precede. Values carry anchors, by which
aliases refer to them again, even from inside of them. A fault in the tokens counts when the tokens
before it are used up.
-/

namespace FeatLoom.Yaml

structure Composition where
  tokens : List Token
  fault : Option Error := none
  anchors : OrderedMap String Node := OrderedMap.empty
  handles : OrderedMap String String := OrderedMap.empty

abbrev Composing := StateT Composition (Except Error)

namespace Composing

def malformed {α : Type} : Composing α := throw .malformed

/-- The next token; there is none at the end of the text. -/
def peek : Composing (Option Token) := do
  let state ← get
  match state.tokens, state.fault with
  | token :: _, _ => return some token
  | [], some fault => throw fault
  | [], none => return none

def advance : Composing Unit :=
  modify fun state => { state with tokens := state.tokens.tail }

def sees (tokens : List Token) : Composing Bool := return (← peek).any tokens.contains

def take (token : Token) : Composing Bool := do
  if ← sees [token] then
    advance
    return true
  else return false

def require (token : Token) : Composing Unit := do
  if !(← take token) then malformed

/-! ## Properties of values -/

structure Properties where
  anchor : Option String := none
  tag : Option String := none

def takeAnchor : Composing (Option String) := do
  match ← peek with
  | some (.anchor name) => advance; return some name
  | _ => return none

def takeTag : Composing (Option (Option String × String)) := do
  match ← peek with
  | some (.tag handle suffix) => advance; return some (handle, suffix)
  | _ => return none

def fullTag : Option String × String → Composing String
  | (none, suffix) => return suffix
  | (some handle, suffix) => do
    match (← get).handles.get? handle with
    | some stem => return stem ++ suffix
    | none => malformed

def takeProperties : Composing Properties := do
  let first ← takeAnchor
  let tag ← takeTag
  let anchor ← if first.isSome || tag.isNone then pure first else takeAnchor
  return { anchor, tag := ← tag.mapM fullTag }

def usual : String := "!"

def Properties.tagOr (properties : Properties) (default : String) : String :=
  match properties.tag with
  | none => default
  | some tag => if tag = usual then default else tag

/-- A scalar. One that is not plain is a text, unless its tag says otherwise. -/
def Properties.scalar (properties : Properties) (text : String) (isPlain : Bool) : Node :=
  let byLooks := isPlain || properties.tag == some usual
  .scalar (properties.tagOr (if byLooks then Scalar.plainTag text else Tag.text)) text

def outerOf : Option Token → Node
  | some .bracketOpen => .outer false
  | some .listStart => .outer false
  | some .dash => .outer false
  | _ => .outer true

def setAnchor (properties : Properties) (node : Node) : Composing Unit :=
  match properties.anchor with
  | none => return
  | some name => modify fun state => { state with anchors := state.anchors.insert name node }

def checkAnchor (properties : Properties) : Composing Unit := do
  if properties.anchor.any (← get).anchors.contains then malformed

def referTo (name : String) : Composing Node := do
  match (← get).anchors.get? name with
  | some node => return node
  | none => malformed

/-! ## Values -/

/-- Where a value stands: between brackets, in a layout, or after a key in a layout, where a list
may stand no further in than its key. -/
inductive Place where
  | flow
  | block
  | afterKey
  deriving DecidableEq

mutual

def node : Nat → Place → Composing Node
  | 0, _ => malformed
  | fuel + 1, place => do
    match ← peek with
    | some (.alias name) => advance; referTo name
    | _ =>
      let properties ← takeProperties
      let token ← peek
      checkAnchor properties
      setAnchor properties (outerOf token)
      let found ← content fuel place properties token
      setAnchor properties found
      return found

def content : Nat → Place → Properties → Option Token → Composing Node
  | 0, _, _, _ => malformed
  | fuel + 1, place, properties, token => do
    let listTag := properties.tagOr Tag.list
    let mapTag := properties.tagOr Tag.map
    match token, place with
    | some (.scalar text isPlain), _ => advance; return properties.scalar text isPlain
    | some .bracketOpen, _ => advance; return .ofItems listTag (← flowItems fuel true)
    | some .braceOpen, _ => advance; return .ofEntries mapTag (← flowEntries fuel true)
    | some .dash, .afterKey => return .ofItems listTag (← looseItems fuel)
    | some .listStart, .block => advance; return .ofItems listTag (← blockItems fuel)
    | some .listStart, .afterKey => advance; return .ofItems listTag (← blockItems fuel)
    | some .mapStart, .block => advance; return .ofEntries mapTag (← blockEntries fuel)
    | some .mapStart, .afterKey => advance; return .ofEntries mapTag (← blockEntries fuel)
    | _, _ =>
      if properties.anchor.isSome || properties.tag.isSome then return properties.scalar "" true
      else malformed

def nodeUnless : Nat → Place → List Token → Composing Node
  | 0, _, _ => malformed
  | fuel + 1, place, ends => do
    if ← sees ends then return .empty else node fuel place

/-- A key with its value, after the sign of the key; the tokens are those that leave them out. -/
def keyed : Nat → Place → List Token → Composing (Node × Node)
  | 0, _, _ => malformed
  | fuel + 1, place, ends => do
    let key ← nodeUnless fuel place (.colon :: ends)
    let hasValue ← take .colon
    let value ← if hasValue then nodeUnless fuel place ends else pure .empty
    return (key, value)

def flowItems : Nat → Bool → Composing (List Node)
  | 0, _ => malformed
  | fuel + 1, isFirst => do
    if ← take .bracketClose then return []
    if !isFirst then require .comma
    if ← take .bracketClose then return []
    let item ← if ← take .key then do
        pure (.ofEntries Tag.map [← keyed fuel .flow [.comma, .bracketClose]])
      else node fuel .flow
    return item :: (← flowItems fuel false)

def flowEntries : Nat → Bool → Composing (List (Node × Node))
  | 0, _ => malformed
  | fuel + 1, isFirst => do
    if ← take .braceClose then return []
    if !isFirst then require .comma
    if ← take .braceClose then return []
    let entry ← if ← take .key then keyed fuel .flow [.comma, .braceClose]
      else do pure (← node fuel .flow, .empty)
    return entry :: (← flowEntries fuel false)

def blockItems : Nat → Composing (List Node)
  | 0 => malformed
  | fuel + 1 => do
    if ← take .dash then
      let item ← nodeUnless fuel .block [.dash, .blockEnd]
      return item :: (← blockItems fuel)
    else
      require .blockEnd
      return []

def looseItems : Nat → Composing (List Node)
  | 0 => malformed
  | fuel + 1 => do
    if ← take .dash then
      let item ← nodeUnless fuel .block [.dash, .key, .colon, .blockEnd]
      return item :: (← looseItems fuel)
    else return []

def blockEntries : Nat → Composing (List (Node × Node))
  | 0 => malformed
  | fuel + 1 => do
    if ← take .key then
      let entry ← keyed fuel .afterKey [.key, .colon, .blockEnd]
      return entry :: (← blockEntries fuel)
    else
      require .blockEnd
      return []

end

/-! ## Documents -/

def usualHandles : OrderedMap String String :=
  OrderedMap.ofList [("!", "!"), ("!!", Tag.common)]

/-- Takes the directives before a document, given whether one stated the version and what the
handles stand for that others explained. -/
def directives : Nat → Bool → OrderedMap String String → Composing (OrderedMap String String)
  | 0, _, _ => malformed
  | fuel + 1, hasVersion, handles => do
    match ← peek with
    | some (.versionDirective major) =>
      if hasVersion || major ≠ 1 then malformed
      advance
      directives fuel true handles
    | some (.handleDirective handle stem) =>
      if handles.contains handle then malformed
      advance
      directives fuel hasVersion (handles.insert handle stem)
    | some .otherDirective => advance; directives fuel hasVersion handles
    | _ => return handles

def header (fuel : Nat) : Composing Unit := do
  let found ← directives fuel false OrderedMap.empty
  require .documentStart
  modify fun state => { state with
    handles := OrderedMap.ofList (usualHandles.entries ++ found.entries) }

def skipEnds : Nat → Composing Unit
  | 0 => malformed
  | fuel + 1 => do if ← take .documentEnd then skipEnds fuel

def beginsDocument : Token → Bool
  | .versionDirective _ => true
  | .handleDirective .. => true
  | .otherDirective => true
  | .documentStart => true
  | _ => false

def body (fuel : Nat) : Composing Node := do
  match ← peek with
  | none => return .empty
  | some token =>
    if beginsDocument token || token == .documentEnd then return .empty else node fuel .block

/-- The one document of a text. A text without any says nothing. -/
def document (fuel : Nat) : Composing Node := do
  match ← peek with
  | none => return .empty
  | some token =>
    let found ← if beginsDocument token then do
        header fuel
        body fuel
      else node fuel .block
    skipEnds fuel
    if (← peek).isSome then
      header fuel
      malformed
    return found

end Composing

def Node.ofTokens (tokens : List Token) (fault : Option Error) : Except Error Node :=
  let start : Composition := { tokens, fault, handles := Composing.usualHandles }
  (Composing.document (4 * tokens.length + 4)).run' start

end FeatLoom.Yaml
