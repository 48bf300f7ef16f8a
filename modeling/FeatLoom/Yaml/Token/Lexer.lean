import FeatLoom.Yaml.Token.Block
import FeatLoom.Yaml.Token.Quoted
import FeatLoom.Yaml.Token.Tag

/-!
# From text to tokens

A key of a mapping is recognised by the colon after it, so the place where each key may have begun
is kept until its colon turns up, or until it is too far away: on another line, or more than 1024
characters on. Tokens before all such places are certain; when the text cannot be read any further,
only these count.
-/

namespace FeatLoom.Yaml

def keyReach : Nat := 1024

structure KeyStart where
  number : Nat
  level : Nat
  place : Cursor
  isRequired : Bool

structure Lexer where
  cursor : Cursor
  tokens : Array Token := #[]
  level : Nat := 0
  /-- The columns of the layouts around the cursor, innermost first. -/
  columns : List Int := [-1]
  mayBegin : Bool := true
  starts : List KeyStart := []

namespace Lexer

def indent (lexer : Lexer) : Int := lexer.columns.headD (-1)

def push (lexer : Lexer) (token : Token) : Lexer :=
  { lexer with tokens := lexer.tokens.push token }

def column (lexer : Lexer) : Int := lexer.cursor.column

/-! ## Starts of keys -/

def isTooFar (lexer : Lexer) (start : KeyStart) : Bool :=
  start.place.line ≠ lexer.cursor.line || keyReach < lexer.cursor.index - start.place.index

/-- Drops some starts of keys; a required one may not be dropped. -/
def dropStarts (lexer : Lexer) (p : KeyStart → Bool) : Except Error Lexer :=
  if lexer.starts.any fun start => p start && start.isRequired then .error .malformed
  else .ok { lexer with starts := lexer.starts.filter fun start => !p start }

def dropFar (lexer : Lexer) : Except Error Lexer := lexer.dropStarts lexer.isTooFar

def dropHere (lexer : Lexer) : Except Error Lexer :=
  lexer.dropStarts fun start => start.level == lexer.level

def saveStart (lexer : Lexer) : Except Error Lexer :=
  if lexer.mayBegin then do
    let cleared ← lexer.dropHere
    let start : KeyStart := ⟨lexer.tokens.size, lexer.level, lexer.cursor,
      lexer.level == 0 && lexer.indent == lexer.column⟩
    return { cleared with starts := start :: cleared.starts }
  else .ok lexer

def certain (lexer : Lexer) : Nat :=
  lexer.starts.foldl (fun least start => min least start.number) lexer.tokens.size

/-! ## Layouts -/

def unwind (lexer : Lexer) (column : Int) : Lexer :=
  if lexer.level ≠ 0 then lexer
  else
    let ended := lexer.columns.takeWhile (column < ·)
    { lexer with
      columns := lexer.columns.drop ended.length
      tokens := lexer.tokens ++ (ended.map fun _ => Token.blockEnd).toArray }

def openAt (lexer : Lexer) (column : Int) (number : Nat) (token : Token) : Lexer :=
  if lexer.indent < column then
    { lexer with
      columns := column :: lexer.columns
      tokens := lexer.tokens.insertIdxIfInBounds number token }
  else lexer

def openHere (lexer : Lexer) (token : Token) : Except Error Lexer :=
  if lexer.level ≠ 0 then .ok lexer
  else if !lexer.mayBegin then .error .malformed
  else .ok (lexer.openAt lexer.column lexer.tokens.size token)

/-! ## Signs -/

def sign (lexer : Lexer) (token : Token) : Lexer :=
  { lexer.push token with cursor := lexer.cursor.next }

def betweenDocuments (lexer : Lexer) : Except Error Lexer := do
  return { ← (lexer.unwind (-1)).dropHere with mayBegin := false }

def documentMark (lexer : Lexer) (token : Token) : Except Error Lexer := do
  let lexer ← lexer.betweenDocuments
  return { lexer.push token with cursor := lexer.cursor.skip 3 }

def directive (lexer : Lexer) : Except Error Lexer := do
  let lexer ← lexer.betweenDocuments
  let (token, cursor) ← Token.readDirective lexer.cursor
  return { lexer.push token with cursor }

def openBracket (lexer : Lexer) (token : Token) : Except Error Lexer := do
  let lexer ← lexer.saveStart
  return { lexer.sign token with level := lexer.level + 1, mayBegin := true }

def closeBracket (lexer : Lexer) (token : Token) : Except Error Lexer := do
  let lexer ← lexer.dropHere
  return { lexer.sign token with level := lexer.level - 1, mayBegin := false }

def comma (lexer : Lexer) : Except Error Lexer := do
  return { (← lexer.dropHere).sign .comma with mayBegin := true }

def dash (lexer : Lexer) : Except Error Lexer := do
  let lexer ← (← lexer.openHere .listStart).dropHere
  return { lexer.sign .dash with mayBegin := true }

def questionMark (lexer : Lexer) : Except Error Lexer := do
  let lexer ← (← lexer.openHere .mapStart).dropHere
  return { lexer.sign .key with mayBegin := lexer.level == 0 }

/-- Takes a colon: the one after the key that may have begun between the innermost brackets, or else
one that stands alone. -/
def colon (lexer : Lexer) : Except Error Lexer := do
  match lexer.starts.find? fun start => start.level == lexer.level with
  | some start =>
    let starts := lexer.starts.filter fun other => other.level ≠ lexer.level
    let tokens := lexer.tokens.insertIdxIfInBounds start.number .key
    let keyed := { lexer with starts, tokens, mayBegin := false }
    let opened := if lexer.level ≠ 0 then keyed
      else keyed.openAt start.place.column start.number .mapStart
    return opened.sign .colon
  | none =>
    let lexer ← lexer.openHere .mapStart
    return { lexer.sign .colon with mayBegin := lexer.level == 0 }

/-! ## Words -/

def word (lexer : Lexer) (read : Cursor → Except Error (Token × Cursor)) : Except Error Lexer := do
  let lexer ← lexer.saveStart
  let (token, cursor) ← read lexer.cursor
  return { lexer.push token with cursor, mayBegin := false }

def quoted (quote : Char) (lexer : Lexer) : Except Error Lexer :=
  lexer.word fun cursor => do
    let (text, after) ← Quoted.read quote cursor
    return (.scalar text false, after)

def plain (lexer : Lexer) : Except Error Lexer := do
  let lexer ← lexer.saveStart
  let found := Plain.read (lexer.level ≠ 0) (lexer.indent + 1).toNat
    (lexer.cursor.rest.length + 1) lexer.cursor
  return { lexer.push (.scalar (String.ofList found.text) true) with
           cursor := found.after, mayBegin := found.isLast }

def block (isFolded : Bool) (lexer : Lexer) : Except Error Lexer := do
  let lexer ← lexer.dropHere
  let (text, cursor) ← Block.read isFolded lexer.indent lexer.cursor
  return { lexer.push (.scalar text false) with cursor, mayBegin := true }

/-! ## The next token -/

def isAlone (lexer : Lexer) : Bool := Cursor.endsOr isGap lexer.cursor.next.rest

def token (lexer : Lexer) (c : Char) : Except Error Lexer :=
  let inFlow := lexer.level ≠ 0
  let atStart := lexer.cursor.column == 0
  if c == '%' && atStart then lexer.directive
  else if c == '-' && atStart && Cursor.isMark '-' lexer.cursor.rest then
    lexer.documentMark .documentStart
  else if c == '.' && atStart && Cursor.isMark '.' lexer.cursor.rest then
    lexer.documentMark .documentEnd
  else if c == '[' then lexer.openBracket .bracketOpen
  else if c == '\x7b' then lexer.openBracket .braceOpen
  else if c == ']' then lexer.closeBracket .bracketClose
  else if c == '\x7d' then lexer.closeBracket .braceClose
  else if c == ',' then lexer.comma
  else if c == '-' && lexer.isAlone then lexer.dash
  else if c == '?' && (inFlow || lexer.isAlone) then lexer.questionMark
  else if c == ':' && (inFlow || lexer.isAlone) then lexer.colon
  else if c == '*' then lexer.word fun cursor => do
    let (name, after) ← Token.readName cursor
    return (.alias name, after)
  else if c == '&' then lexer.word fun cursor => do
    let (name, after) ← Token.readName cursor
    return (.anchor name, after)
  else if c == '!' then lexer.word Token.readTag
  else if c == '|' && !inFlow then lexer.block false
  else if c == '>' && !inFlow then lexer.block true
  else if c == '\x27' || c == '"' then lexer.quoted c
  else if Plain.starts inFlow lexer.cursor.rest then lexer.plain
  else .error .malformed

def approach (lexer : Lexer) : Except Error Lexer := do
  let cursor := lexer.cursor.toToken
  let begins := lexer.level == 0 && cursor.line ≠ lexer.cursor.line
  let there ← { lexer with cursor, mayBegin := lexer.mayBegin || begins }.dropFar
  return there.unwind there.column

/-- The tokens that are certain, and what keeps the others from being read. A closing bracket
without its partner is the last token. -/
def run : Nat → Lexer → Array Token × Option Error
  | 0, lexer => (lexer.tokens, some .malformed)
  | fuel + 1, lexer =>
    match lexer.dropFar with
    | .error fault => (lexer.tokens, some fault)
    | .ok lexer =>
      let stopped (fault : Error) : Array Token × Option Error :=
        (lexer.tokens.take lexer.certain, some fault)
      match lexer.approach with
      | .error fault => stopped fault
      | .ok there =>
        match there.cursor.rest with
        | [] =>
          match (there.unwind (-1)).dropHere with
          | .error fault => stopped fault
          | .ok ended => (ended.tokens, none)
        | c :: _ =>
          match there.token c with
          | .error fault => stopped fault
          | .ok next =>
            if there.level == 0 && (c == ']' || c == '\x7d') then (next.tokens, some .malformed)
            else run fuel next

end Lexer

def tokens (text : List Char) : List Token × Option Error :=
  let (found, fault) := Lexer.run (text.length + 2) { cursor := { rest := text } }
  (found.toList, fault)

end FeatLoom.Yaml
