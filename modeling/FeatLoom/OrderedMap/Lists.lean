import FeatLoom.OrderedMap

/-!
# Maps of lists

Items that each belong to a key are appended to the lists at their keys. New keys come in the order
in which the items name them first.
-/

namespace FeatLoom.OrderedMap

universe u v

variable {κ : Type u} {ν : Type v} [DecidableEq κ]

def itemsAt (key : κ) (items : List (κ × ν)) : List ν :=
  items.filterMap fun item => if item.1 = key then some item.2 else none

def appendAll (m : OrderedMap κ (List ν)) (items : List (κ × ν)) : OrderedMap κ (List ν) :=
  (items.map Prod.fst).eraseDups.foldl
    (fun grown key => grown.alter key fun present => present.getD [] ++ itemsAt key items) m

def itemCount (m : OrderedMap κ (List ν)) : Nat :=
  m.values.foldr (fun items count => items.length + count) 0

example :
    (appendAll empty [("a", 1), ("b", 2), ("a", 3)]).entries = [("a", [1, 3]), ("b", [2])] := by
  decide

end FeatLoom.OrderedMap
