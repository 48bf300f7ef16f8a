/-!
# Tokens

The signs and words of a document, in order. Where lists and mappings are laid out by indentation,
the places where they begin and end are tokens as well.
-/

namespace FeatLoom.Yaml

inductive Token where
  | versionDirective (major : Nat)
  | handleDirective (handle stem : String)
  | otherDirective
  | documentStart
  | documentEnd
  | listStart
  | mapStart
  | blockEnd
  | bracketOpen
  | bracketClose
  | braceOpen
  | braceClose
  | dash
  | comma
  | key
  | colon
  | alias (name : String)
  | anchor (name : String)
  /-- A tag after a handle; one without a handle stands for itself. -/
  | tag (handle : Option String) (suffix : String)
  | scalar (text : String) (isPlain : Bool)
  deriving DecidableEq, Inhabited

end FeatLoom.Yaml
