import FeatLoom.Text.Integer
import FeatLoom.Text.Split
import FeatLoom.Yaml.Base64
import FeatLoom.Yaml.Error
import FeatLoom.Yaml.Value

/-!
# Scalars

A scalar has a tag that says what its text denotes. A plain scalar without one gets it from its
looks: nothing, yes or no, an integer in one of several bases, a decimal number, a date, or else a
text. Integers and decimals may be written with underscores and in groups of sixty.
-/

namespace FeatLoom.Yaml

/-! ## Tags -/

namespace Tag

def common : String := "tag:yaml.org,2002:"

def null : String := common ++ "null"

def bool : String := common ++ "bool"

def int : String := common ++ "int"

def decimal : String := common ++ "float"

def time : String := common ++ "timestamp"

def text : String := common ++ "str"

def binary : String := common ++ "binary"

def list : String := common ++ "seq"

def map : String := common ++ "map"

def set : String := common ++ "set"

def pairs : String := common ++ "pairs"

def orderedMap : String := common ++ "omap"

def merge : String := common ++ "merge"

def value : String := common ++ "value"

end Tag

namespace Scalar

def nulls : List String := ["", "~", "null", "Null", "NULL"]

def affirmations : List String :=
  ["yes", "Yes", "YES", "true", "True", "TRUE", "on", "On", "ON"]

def denials : List String :=
  ["no", "No", "NO", "false", "False", "FALSE", "off", "Off", "OFF"]

def isBinary (c : Char) : Bool := c == '0' || c == '1'

def isOctal (c : Char) : Bool := '0' ≤ c && c ≤ '7'

def isDecimal (c : Char) : Bool := '0' ≤ c && c ≤ '9'

def isHex (c : Char) : Bool := isDecimal c || ('a' ≤ c && c ≤ 'f') || ('A' ≤ c && c ≤ 'F')

def hexValue (c : Char) : Nat :=
  if isDecimal c then c.toNat - 48 else if c.toNat < 97 then c.toNat - 55 else c.toNat - 87

def isRun (isDigit : Char → Bool) (text : List Char) : Bool :=
  text ≠ [] && text.all fun c => isDigit c || c == '_'

def unsigned : List Char → List Char
  | '-' :: rest => rest
  | '+' :: rest => rest
  | text => text

def isNegative (text : List Char) : Bool := text.head? == some '-'

def isSixtieth : List Char → Bool
  | [a] => isDecimal a
  | [a, b] => isDecimal a && a ≤ '5' && isDecimal b
  | _ => false

def isHead (run : List Char) : Bool :=
  (run.head?.map isDecimal).getD false && isRun isDecimal run

def isSixties (text : List Char) : Bool :=
  match Text.splitOn [':'] text with
  | first :: second :: rest => isHead first && (second :: rest).all isSixtieth
  | _ => false

def isMagnitude : List Char → Bool
  | ['0'] => true
  | '0' :: 'b' :: digits => isRun isBinary digits
  | '0' :: 'x' :: digits => isRun isHex digits
  | '0' :: digits => isRun isOctal digits
  | text => isHead text || isSixties text

def isInt (text : List Char) : Bool := isMagnitude (unsigned text)

def isPower : List Char → Bool
  | [] => true
  | letter :: sign :: digits =>
    (letter == 'e' || letter == 'E') && (sign == '-' || sign == '+') && digits ≠ [] &&
      digits.all isDecimal
  | [_] => false

def isFractional (c : Char) : Bool := isDecimal c || c == '_'

def isPointed (text : List Char) : Bool :=
  let body := unsigned text
  match body.takeWhile (· ≠ '.'), body.dropWhile (· ≠ '.') with
  | [], '.' :: rest =>
    ["inf", "Inf", "INF"].contains (String.ofList rest) ||
      (text == body && (["nan", "NaN", "NAN"].contains (String.ofList rest) ||
        (isHead (rest.takeWhile isFractional) && isPower (rest.dropWhile isFractional))))
  | whole, '.' :: rest =>
    let after := rest.dropWhile isFractional
    if whole.contains ':' then isSixties whole && after == []
    else isHead whole && isPower after
  | _, _ => false

def plainTag (text : String) : String :=
  if nulls.contains text then Tag.null
  else if affirmations.contains text || denials.contains text then Tag.bool
  else if text = "<<" then Tag.merge
  else if text = "=" then Tag.value
  else if isPointed text.toList then Tag.decimal
  else if isInt text.toList then Tag.int
  else if Timestamp.isPlain text.toList then Tag.time
  else Tag.text

/-! ## Values -/

def bare (text : String) : List Char := text.toList.filter (· ≠ '_')

def inBase? (base : Nat) (isDigit : Char → Bool) (digits : List Char) : Option Nat :=
  if digits ≠ [] && digits.all isDigit then some (Text.ofDigits base (digits.map hexValue))
  else none

def orNoNumber {α : Type} : Option α → Except Error α
  | some value => .ok value
  | none => .error .noNumber

def int (text : String) : Except Error Int := do
  let bareText := bare text
  if bareText.isEmpty then throw .emptyNumber
  let digits := unsigned bareText
  let size ← match digits with
    | [] => throw .emptyNumber
    | '0' :: 'b' :: more => orNoNumber ((inBase? 2 isBinary more).map Int.ofNat)
    | '0' :: 'x' :: more => orNoNumber ((inBase? 16 isHex more).map Int.ofNat)
    | '0' :: more =>
      if more.isEmpty then pure 0 else orNoNumber ((inBase? 8 isOctal more).map Int.ofNat)
    | _ =>
      let groups := Text.splitOn [':'] digits
      groups.foldlM (fun total group => do
        let value ← orNoNumber (Text.toInt? (String.ofList group))
        return total * 60 + value) 0
  return if isNegative bareText then -size else size

def pointed? (text : List Char) : Option Binary64 := do
  let isMantissa (c : Char) : Bool := isDecimal c || c == '.'
  let mantissa := text.takeWhile isMantissa
  let whole := mantissa.takeWhile (· ≠ '.')
  let fraction := (mantissa.dropWhile (· ≠ '.')).drop 1
  let digits := whole ++ fraction
  guard (digits ≠ [] && digits.all isDecimal)
  let power ← match text.dropWhile isMantissa with
    | [] => some (0 : Int)
    | 'e' :: sign => (inBase? 10 isDecimal (unsigned sign)).map fun (n : Nat) =>
        if isNegative sign then -(n : Int) else n
    | _ => none
  some (Binary64.ofDigits false (Text.ofDigits 10 (digits.map hexValue)) (power - fraction.length))

def sixties (weight : Nat) : List Binary64 → Binary64 → Binary64
  | [], total => total
  | group :: rest, total =>
    sixties (weight * 60) rest (total.add (group.mul (Binary64.ofNat weight)))

def decimal (text : String) : Except Error Binary64 := do
  let bareText := (bare text).map Char.toLower
  if bareText.isEmpty then throw .emptyNumber
  let body := unsigned bareText
  let size ← match String.ofList body with
    | ".inf" => pure (Binary64.infinite false)
    | ".nan" => pure Binary64.notANumber
    | _ =>
      if body.contains ':' then do
        let groups ← (Text.splitOn [':'] body).mapM fun group => orNoNumber (pointed? group)
        pure (sixties 1 groups.reverse Binary64.zero)
      else orNoNumber (pointed? body)
  return if isNegative bareText then size.negate else size

def bool (text : String) : Except Error Bool :=
  let lowered := String.ofList (text.toList.map Char.toLower)
  if affirmations.contains lowered then .ok true
  else if denials.contains lowered then .ok false
  else .error .noBool

def time (text : String) : Except Error Timestamp :=
  match Timestamp.ofText? text.toList with
  | none => .error .noDate
  | some stamp => if stamp.isInCalendar then .ok stamp else .error .notInCalendar

def binary (text : String) : Except Error (List UInt8) :=
  match Base64.bytes? text with
  | some bytes => .ok bytes
  | none => .error .malformed

/-- What a text denotes by a tag. Merging and the value of a mapping are no values of their own, and
no scalar denotes a list. -/
def value (tag text : String) : Except Error Value :=
  if tag = Tag.null then .ok .null
  else if tag = Tag.bool then (bool text).map .bool
  else if tag = Tag.int then (int text).map .int
  else if tag = Tag.decimal then (decimal text).map .decimal
  else if tag = Tag.time then (time text).map .time
  else if tag = Tag.text then .ok (.text text)
  else if tag = Tag.binary then (binary text).map .binary
  else .error .malformed

end Scalar

end FeatLoom.Yaml
