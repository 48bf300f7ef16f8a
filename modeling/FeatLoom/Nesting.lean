/-!
# How deep calls may nest

Documents are converted and trees grow by calls inside of calls, one for every level, and there is
a bound on how many calls may stand inside of one another. It comes from the surroundings of a run.
What is counted are levels, and not the calls within a level.
-/

namespace FeatLoom

/-- How many levels calls can go down before they nest too deep. -/
class Nesting where
  /-- The levels of nodes in a document. -/
  nodes : Nat
  /-- The picks of a feat. -/
  picks : Nat

/-- A thousand calls, less those that a run is inside of anyway. -/
instance (priority := low) Nesting.usual : Nesting := ⟨988, 988⟩

end FeatLoom
