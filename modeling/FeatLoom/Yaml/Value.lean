import FeatLoom.Binary64.Shortest
import FeatLoom.Text.Quoted
import FeatLoom.Yaml.Timestamp

/-!
# Values of settings documents

What a settings document can hold. Mappings keep the order in which their keys were first met, and
the last value of a key counts; sets are the keys of mappings. As keys, numbers of all kinds are
compared by their value, yes being one and no being zero.
-/

namespace FeatLoom.Yaml

inductive Value where
  | null
  | bool (value : Bool)
  | int (value : Int)
  | decimal (value : Binary64)
  | time (value : Timestamp)
  | text (value : String)
  | binary (bytes : List UInt8)
  | list (items : List Value)
  | map (entries : List (Value × Value))
  | set (items : List Value)
  | pair (first second : Value)
  | outer (isMap : Bool)

namespace Value

instance : Inhabited Value := ⟨null⟩

/-- A value that stands for nothing said: nothing, no, zero, or empty. -/
def isBlank : Value → Bool
  | null => true
  | bool value => !value
  | int value => value == 0
  | decimal value => value.isZero
  | time _ => false
  | text value => value.isEmpty
  | binary bytes => bytes.isEmpty
  | list items => items.isEmpty
  | map entries => entries.isEmpty
  | set items => items.isEmpty
  | pair .. => false
  | outer _ => false

def whole? : Value → Option Int
  | bool value => some (if value then 1 else 0)
  | int value => some value
  | decimal value => value.toInt?
  | _ => none

/-- Whether two values are the same key. Lists, mappings, sets and pairs are no keys. -/
def sameKey : Value → Value → Bool
  | null, null => true
  | text a, text b => a == b
  | binary a, binary b => a == b
  | time a, time b => a == b
  | decimal a, decimal b => a.same b
  | a, b => a.whole?.isSome && a.whole? == b.whole?

def isKey : Value → Bool
  | list _ => false
  | map _ => false
  | set _ => false
  | pair first second => first.isKey && second.isKey
  | outer _ => false
  | _ => true

/-- Writes an entry; a present key keeps its place. -/
def setEntry (key value : Value) : List (Value × Value) → List (Value × Value)
  | [] => [(key, value)]
  | entry :: rest =>
    if sameKey entry.1 key then (entry.1, value) :: rest else entry :: setEntry key value rest

def entry? (name : String) (entries : List (Value × Value)) : Option Value :=
  (entries.find? fun entry => sameKey entry.1 (text name)).map Prod.snd

def binaryText (bytes : List UInt8) : String :=
  let chars := bytes.map fun byte => Char.ofNat byte.toNat
  let quote := Text.quoteMark chars
  let escaped (c : Char) : List Char :=
    if c.toNat < 0x80 then Text.quoteChar quote c else '\\' :: 'x' :: Text.hexField 2 c.toNat
  String.ofList ('b' :: quote :: (chars.flatMap escaped ++ [quote]))

mutual

def inner : Value → String
  | null => "None"
  | bool value => if value then "True" else "False"
  | int value => toString value
  | decimal value => value.toText
  | time value => value.partsText
  | text value => Text.quoted value
  | binary bytes => binaryText bytes
  | list items => "[" ++ ", ".intercalate (innerEach items) ++ "]"
  | map entries => "\x7b" ++ ", ".intercalate (innerEntries entries) ++ "\x7d"
  | set items =>
    if items.isEmpty then "set()" else "\x7b" ++ ", ".intercalate (innerEach items) ++ "\x7d"
  | pair first second => "(" ++ inner first ++ ", " ++ inner second ++ ")"
  | outer isMap => if isMap then "\x7b...\x7d" else "[...]"

def innerEach : List Value → List String
  | [] => []
  | item :: rest => inner item :: innerEach rest

def innerEntries : List (Value × Value) → List String
  | [] => []
  | (key, value) :: rest => (inner key ++ ": " ++ inner value) :: innerEntries rest

end

/-- The written form of a value; a text stands for itself. -/
def shown : Value → String
  | text value => value
  | time value => value.toText
  | other => other.inner

end Value

end FeatLoom.Yaml
