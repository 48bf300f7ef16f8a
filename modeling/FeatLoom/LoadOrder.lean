import FeatLoom.Module
import FeatLoom.OrderedMap

/-!
# Load order

The anchor modules load first, whatever they depend on. Then, again and again, the first module in
the given order loads whose dependencies have all been placed. When no module is ready, the rest
cannot be ordered. A module that is listed under another name than its own can never be taken off
the list once it is ready, so it has no place in any order.
-/

namespace FeatLoom

inductive LoadOrderError where
  /-- The modules left with their dependencies that are not placed, and the names of those that
  are. -/
  | unresolved (waiting : List (String × List String)) (placed : List (Option String))
  | misnamed (key : String)
  deriving DecidableEq

namespace LoadOrderError

def waitingText (entry : String × List String) : String :=
  let names := ", ".intercalate entry.2
  entry.1 ++ " (waiting on " ++ (if names = "" then "nothing" else names) ++ ")"

def message : LoadOrderError → String
  | unresolved waiting _ => "Cannot order modules: " ++ ", ".intercalate (waiting.map waitingText)
  | misnamed key => key

end LoadOrderError

namespace LoadOrder

def defaultAnchors : List String := ["Shared", "SharedDev"]

/-- The modules placed so far, the names that count as placed, and the modules that remain. -/
structure Placement where
  ordered : List Module := []
  names : List String := []
  remaining : OrderedMap String Module

def Placement.anchor (placement : Placement) (name : String) : Placement :=
  match placement.remaining.get? name with
  | none => placement
  | some m =>
    { ordered := placement.ordered ++ [m]
      names := placement.names ++ [name]
      remaining := placement.remaining.erase name }

def placeAnchors (modules : OrderedMap String Module) (anchors : List String) : Placement :=
  anchors.foldl Placement.anchor { remaining := modules }

def missingAnchors (modules : OrderedMap String Module) : List String → List String
  | [] => []
  | name :: rest =>
    if modules.contains name then missingAnchors (modules.erase name) rest
    else name :: missingAnchors modules rest

def missingAnchorWarning (name : String) : String := "Anchor module " ++ name ++ " was not found"

def isReady (names : List String) (m : Module) : Bool :=
  m.dependencyNames.all names.contains

def takeReady? (names : List String) :
    List (String × Module) → Option ((String × Module) × List (String × Module))
  | [] => none
  | entry :: rest =>
    if isReady names entry.2 then some (entry, rest)
    else (takeReady? names rest).map fun found => (found.1, entry :: found.2)

theorem length_of_takeReady? {names : List String} {entries rest : List (String × Module)}
    {entry : String × Module} (taken : takeReady? names entries = some (entry, rest)) :
    rest.length < entries.length := by
  induction entries generalizing rest with
  | nil => simp [takeReady?] at taken
  | cons first others ih =>
    simp only [takeReady?] at taken
    split at taken
    · simp only [Option.some.injEq, Prod.mk.injEq] at taken
      simp [taken.2]
    · simp only [Option.map_eq_some_iff, Prod.mk.injEq] at taken
      obtain ⟨⟨found, left⟩, more, rfl, rfl⟩ := taken
      simpa using ih more

def waiting (names : List String) (entry : String × Module) : String × List String :=
  (entry.1, entry.2.dependencyNames.filter fun name => !names.contains name)

def arrange (ordered : List Module) (names : List String) (remaining : List (String × Module)) :
    Except LoadOrderError (List Module) :=
  match _taken : takeReady? names remaining with
  | some ((key, m), rest) =>
    if m.name = some key then arrange (ordered ++ [m]) (key :: names) rest
    else .error (.misnamed key)
  | none =>
    if remaining.isEmpty then .ok ordered
    else .error (.unresolved (remaining.map (waiting names)) (ordered.map fun m => m.name))
termination_by remaining.length
decreasing_by exact length_of_takeReady? _taken

end LoadOrder

/-- Orders modules so that each one comes after its dependencies, anchors first. -/
def loadOrder (modules : OrderedMap String Module) (anchors : List String) :
    Except LoadOrderError (List Module) :=
  let placement := LoadOrder.placeAnchors modules anchors
  LoadOrder.arrange placement.ordered placement.names placement.remaining.entries

end FeatLoom
