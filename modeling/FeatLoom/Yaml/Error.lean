/-!
# What can be wrong with a document

A document may break the rules of its format; then it is malformed. It may also keep them and ask
for a value that there is not.
-/

namespace FeatLoom.Yaml

inductive Error where
  | malformed
  | noCharacter
  | hugeCharacter
  | noNumber
  | emptyNumber
  | noBool
  | noDate
  | notInCalendar
  deriving DecidableEq

end FeatLoom.Yaml
