import FeatLoom.Xml.Character

/-!
# Names as written

A name may have a part before a colon, which says by way of a namespace what the name means.
-/

namespace FeatLoom.Xml

structure RawName where
  prefixed : Option String
  base : String
  deriving DecidableEq, Inhabited

def simpleName? (alphabet : Alphabet) : List Char → Option (String × List Char)
  | c :: rest =>
    if isNameStart alphabet c then
      some (String.ofList (c :: rest.takeWhile (isNameChar alphabet)),
        rest.dropWhile (isNameChar alphabet))
    else none
  | [] => none

def rawName? (alphabet : Alphabet) (text : List Char) : Option (RawName × List Char) := do
  let (first, rest) ← simpleName? alphabet text
  match rest with
  | ':' :: after =>
    let (base, left) ← simpleName? alphabet after
    some (⟨some first, base⟩, left)
  | _ => some (⟨none, first⟩, rest)

end FeatLoom.Xml
