import FeatLoom.Text.Integer
import FeatLoom.Text.Split

/-!
# Localized strings

Feat descriptions point at localization handles rather than carrying text. A reference is a handle,
or a handle and a string version with a semicolon between them.
-/

namespace FeatLoom

structure LocalizedString where
  handle : String
  version : Option Int := none
  deriving DecidableEq, Inhabited

namespace LocalizedString

/-- Reads a reference; there is none when the text after the first semicolon is no integer. -/
def read? (text : String) : Option LocalizedString :=
  match Text.cutAt ';' text.toList with
  | (_, none) => some ⟨text, none⟩
  | (handle, some version) =>
    (Text.readInteger? 10 version).map fun n => ⟨String.ofList handle, some n⟩

instance : ToString LocalizedString where
  toString reference :=
    match reference.version with
    | none => reference.handle
    | some version => reference.handle ++ ";" ++ toString version

end LocalizedString

end FeatLoom
