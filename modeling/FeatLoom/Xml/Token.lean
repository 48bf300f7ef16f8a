import FeatLoom.Xml.DocumentType.Reader

/-!
# Markup

The text of a document falls into tags, character data and pieces that carry nothing for a
resource: comments, instructions, character data sections and the document type. `tokens?` cuts a
text into these and refuses it where a piece is malformed. An entity stands for the pieces of its
text, in which every tag needs its partner. Whether tags match by name is not its concern.
-/

namespace FeatLoom.Xml

inductive Token where
  /-- A start tag; an empty element is a start tag that closes itself. -/
  | start (name : RawName) (attributes : List (RawName × String)) (closed : Bool)
  | finish (name : RawName)
  | data (blank : Bool)
  | unparsed
  | doctype
  | aside

namespace Token

/-! ## Tags -/

def attribute? (alphabet : Alphabet) (text : List Char) :
    Option ((RawName × List Char) × List Char) := do
  let (name, rest) ← rawName? alphabet text
  match rest.dropWhile isSpace with
  | '=' :: after =>
    match after.dropWhile isSpace with
    | quote :: value =>
      guard (quote == '"' || quote == '\x27')
      match value.dropWhile (· ≠ quote) with
      | _ :: left => some ((name, value.takeWhile (· ≠ quote)), left)
      | [] => none
    | [] => none
  | _ => none

/-- Takes the attributes of a tag and its end; each attribute follows white space. -/
def attributes? (alphabet : Alphabet) :
    Nat → List Char → Option (List (RawName × List Char) × Bool × List Char)
  | 0, _ => none
  | fuel + 1, text =>
    match text.dropWhile isSpace with
    | '>' :: rest => some ([], false, rest)
    | '/' :: '>' :: rest => some ([], true, rest)
    | next => do
      guard (text.head?.any isSpace)
      let (entry, rest) ← attribute? alphabet next
      let (entries, closed, left) ← attributes? alphabet fuel rest
      some (entry :: entries, closed, left)

def startTag? (type : DocumentType) (text : List Char) : Option (Token × List Char) := do
  let (name, rest) ← rawName? type.alphabet text
  let (written, closed, left) ← attributes? type.alphabet rest.length rest
  guard (decide (written.map Prod.fst).Nodup)
  some (start name (← type.attributes? name written) closed, left)

def endTag? (alphabet : Alphabet) (text : List Char) : Option (Token × List Char) := do
  let (name, rest) ← rawName? alphabet text
  match rest.dropWhile isSpace with
  | '>' :: left => some (finish name, left)
  | _ => none

/-! ## Character data -/

def afterSection? : List Char → Option (List Char)
  | ']' :: ']' :: '>' :: rest => some rest
  | _ :: rest => afterSection? rest
  | [] => none

def holdsSectionEnd (text : List Char) : Bool := (afterSection? text).isSome

def areClosed (tokens : List Token) : Bool :=
  let depth := tokens.foldlM (fun (depth : Nat) token =>
    match token with
    | start _ _ closed => some (if closed then depth else depth + 1)
    | finish _ => if depth = 0 then none else some (depth - 1)
    | _ => some depth) 0
  depth == some 0

abbrev EntityReader := DocumentType → List Char → Option (List Token)

/-- The pieces that an entity stands for in a text. Its text is read with the letters of the
standard. -/
def ofEntity? (read : EntityReader) (type : DocumentType) (name : String) :
    Option (List Token) :=
  match standardEntity? name, type.entity? name with
  | some _, _ => some []
  | none, some (.inner inside) =>
    (read { type with alphabet := .strict } inside).filter areClosed
  | none, _ => none

def ofData? (read : EntityReader) (type : DocumentType) (data : List Char) :
    Option (List Token) := do
  guard (!holdsSectionEnd data)
  let pieces ← pieces? type.alphabet data
  let inner ← pieces.mapM fun piece =>
    match piece with
    | .entity name => ofEntity? read type name
    | _ => some []
  return .data (data.all isSpace) :: inner.flatten

/-! ## Documents -/

def front? (read : EntityReader) (type : DocumentType) (text : List Char) :
    Option (List Token × DocumentType × List Char) :=
  match text with
  | '<' :: '!' :: '-' :: '-' :: rest => (afterComment? rest).map ([aside], type, ·)
  | '<' :: '!' :: '[' :: 'C' :: 'D' :: 'A' :: 'T' :: 'A' :: '[' :: rest =>
    (afterSection? rest).map ([unparsed], type, ·)
  | '<' :: '!' :: 'D' :: 'O' :: 'C' :: 'T' :: 'Y' :: 'P' :: 'E' :: rest =>
    (type.read? rest).bind fun found =>
      if found.1.affords found.2 then some ([doctype], found.1, found.2) else none
  | '<' :: '?' :: rest => (afterInstruction? type.alphabet rest).map ([aside], type, ·)
  | '<' :: '/' :: rest => (endTag? type.alphabet rest).map fun found => ([found.1], type, found.2)
  | '<' :: rest => (startTag? type rest).map fun found => ([found.1], type, found.2)
  | _ =>
    (ofData? read type (text.takeWhile (· ≠ '<'))).map
      (·, type, text.dropWhile (· ≠ '<'))

/-- Cuts a text into pieces, given a bound on the steps to take. -/
def tokensWithin? (read : EntityReader) :
    Nat → DocumentType → List Char → Option (List Token)
  | _, _, [] => some []
  | 0, _, _ => none
  | fuel + 1, type, text => do
    let (tokens, grown, rest) ← front? read type text
    let more ← tokensWithin? read fuel grown rest
    some (tokens ++ more)

def tokensAt? : Nat → EntityReader
  | 0, _, _ => none
  | depth + 1, type, text => tokensWithin? (tokensAt? depth) text.length type text

end Token

/-- Cuts a text into pieces. There are fewer entities than characters, so those that lie further
inside of each other lie inside of themselves. -/
def tokens? (type : DocumentType) (text : List Char) : Option (List Token) :=
  Token.tokensAt? (text.length + 1) type text

end FeatLoom.Xml
