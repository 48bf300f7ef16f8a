import FeatLoom.Xml.Name

/-!
# Comments and instructions

Pieces of a document that carry nothing for those who read its elements.
-/

namespace FeatLoom.Xml

/-- The text after a comment whose opening mark has been read; two hyphens have to end it. -/
def afterComment? : List Char → Option (List Char)
  | '-' :: '-' :: rest =>
    match rest with
    | '>' :: left => some left
    | _ => none
  | _ :: rest => afterComment? rest
  | [] => none

def afterMark? : List Char → Option (List Char)
  | '?' :: '>' :: rest => some rest
  | _ :: rest => afterMark? rest
  | [] => none

/-- The text after an instruction whose `<?` has been read. The target `xml` is reserved in every
case. -/
def afterInstruction? (alphabet : Alphabet) (text : List Char) : Option (List Char) := do
  let (target, rest) ← simpleName? alphabet text
  guard (target.toLower != "xml")
  match rest with
  | '?' :: '>' :: left => some left
  | c :: more =>
    guard (isSpace c)
    afterMark? more
  | [] => none

end FeatLoom.Xml
