import FeatLoom.StatEntry
import FeatLoom.Text.Lines
import FeatLoom.Text.Split

/-!
# Reading stat files

A stat file is read line by line. Every line is judged from its end: it has to close with a quoted
text, and the word before that text says what the line means. A header has to fill its whole line;
on the other lines anything may stand before the word. Lines of no such form are skipped, as are
all lines before the first header. An entry reaches from its header to the next one.

    new entry "Shout_Alert"
    type "SpellData"
    using "Shout_Base"
    data "SpellType" "Shout"
-/

namespace FeatLoom

inductive StatLine where
  | header (name : String)
  | parent (name : String)
  | entryType (name : String)
  | data (key : String) (values : List String)
  | other
  deriving DecidableEq, Inhabited

namespace StatLine

open Text (isBlank)

def quotedAtEnd? (reversed : List Char) : Option (List Char × List Char) :=
  match reversed.dropWhile isBlank with
  | '"' :: inside =>
    match inside.takeWhile (· ≠ '"'), inside.dropWhile (· ≠ '"') with
    | c :: text, _ :: before => some ((c :: text).reverse, before)
    | _, _ => none
  | _ => none

def blanksAtEnd? : List Char → Option (List Char)
  | c :: before => if isBlank c then some (before.dropWhile isBlank) else none
  | [] => none

def wordAtEnd? (word : String) (reversed : List Char) : Option (List Char) :=
  if word.toList.reverse.isPrefixOf reversed then some (reversed.drop word.length) else none

def keywordAtEnd? (word : String) (reversed : List Char) : Option (List Char) :=
  (blanksAtEnd? reversed).bind (wordAtEnd? word)

def header? (reversed : List Char) : Option StatLine := do
  let (name, before) ← quotedAtEnd? reversed
  let before ← keywordAtEnd? "entry" before
  let before ← keywordAtEnd? "new" before
  if before.isEmpty then some (.header (String.ofList name)) else none

def parent? (reversed : List Char) : Option StatLine := do
  let (name, before) ← quotedAtEnd? reversed
  let _ ← keywordAtEnd? "using" before
  some (.parent (String.ofList name))

def entryType? (reversed : List Char) : Option StatLine := do
  let (name, before) ← quotedAtEnd? reversed
  let _ ← keywordAtEnd? "type" before
  some (.entryType (String.ofList name))

def data? (reversed : List Char) : Option StatLine := do
  let (values, before) ← quotedAtEnd? reversed
  let before ← blanksAtEnd? before
  let (key, before) ← match before with
    | '"' :: _ => quotedAtEnd? before
    | _ => none
  let _ ← keywordAtEnd? "data" before
  some (.data (String.ofList key) ((Text.splitOn [';'] values).map String.ofList))

def read (line : List Char) : StatLine :=
  let reversed := line.reverse
  ((header? reversed).or <| (parent? reversed).or <|
    (entryType? reversed).or (data? reversed)).getD .other

def isHeader : StatLine → Bool
  | header _ => true
  | _ => false

def apply (entry : StatEntry) : StatLine → StatEntry
  | parent name => { entry with parent := some name }
  | entryType name => { entry with entryType := name }
  | data key values => entry.extend key values
  | header _ => entry
  | other => entry

end StatLine

namespace StatEntry

def ofLines : List StatLine → List StatEntry
  | [] => []
  | .header name :: rest =>
    (rest.takeWhile fun line => !line.isHeader).foldl StatLine.apply { name } :: ofLines rest
  | _ :: rest => ofLines rest

def readAll (text : List Char) : List StatEntry := ofLines ((Text.lines text).map StatLine.read)

end StatEntry

end FeatLoom
