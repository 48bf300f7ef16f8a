import FeatLoom.Proofs.OrderedMap.Gather
import FeatLoom.Proofs.Resource.Nesting
import Mathlib.Algebra.Ring.Nat

/-!
# Nothing is lost on the way from elements to nodes

Where every node element has one `children` element at most, the first one is all there is, and the
nodes of a region are the node elements nested in its first node element, each of them once and all
in document order. Grouped by name, the children of a node are neither more nor fewer.
-/

namespace FeatLoom.Resource

open Xml (Element)

def nameOf (e : Element) : String := e.id?.getD ""

def attributeElements (e : Element) (id : String) : List Element :=
  e.children.filter fun child => child.isNamed "attribute" && child.id? == some id

def regionElements (root : Element) (id : String) : List Element :=
  (elementsWithin root).filter fun e => e.isNamed "region" && e.id? == some id

def topNodes (region : Element) : List Element :=
  region.children.filter fun child => child.isNamed "node"

def HasOneHolder (e : Element) : Prop :=
  (e.children.filter fun child => child.isNamed "children").length ≤ 1

instance (e : Element) : Decidable (HasOneHolder e) := Nat.decLe _ _

/-- A node has what its element says: the last attribute of each identifier, and the children of
each name, which all together are the inner nodes of the element. -/
structure Reflects (e : Element) (node : Node) : Prop where
  name : node.name = nameOf e
  attributes : ∀ id, id ≠ "" →
    node.attributes.get? id = (attributeElements e id).getLast?.map attributeOf
  unnamed : node.attributes.get? "" = none
  children : ∀ id,
    node.childrenNamed id = (e.innerNodes.filter fun inner => nameOf inner == id).map nodeOf
  groups : node.childGroups =
    ((e.innerNodes.map fun inner => (nameOf inner, nodeOf inner)).foldl OrderedMap.append
      OrderedMap.empty).entries
  count : node.childCount = e.innerNodes.length
  total : node.childCount = (node.childGroups.map fun group => group.2.length).sum

/-! ## Identifiers -/

/-- Of the elements with an identifier, those that have some proper one give what they denote. -/
theorem itemsAt_properId {ν : Type} (denoted : String → Element → ν) (elements : List Element)
    (id : String) :
    OrderedMap.itemsAt id
        (elements.filterMap fun e => (properId? e).map fun own => (own, denoted own e)) =
      if id = "" then [] else (elements.filter fun e => e.id? == some id).map (denoted id) := by
  induction elements with
  | nil => simp [OrderedMap.itemsAt]
  | cons e elements ih =>
    cases own : e.id? with
    | none =>
      have improper : properId? e = none := by rw [properId?, own]; rfl
      rw [List.filterMap_cons_none (by rw [improper]; rfl), ih,
        List.filter_cons_of_neg (by simp [own])]
    | some title =>
      by_cases empty : title = ""
      · subst empty
        have improper : properId? e = none := by rw [properId?, own]; rfl
        rw [List.filterMap_cons_none (by rw [improper]; rfl), ih]
        by_cases none : id = ""
        · rw [if_pos none, if_pos none]
        · rw [List.filter_cons_of_neg (by simp [own, Ne.symm none])]
      · have proper : properId? e = some title := by
          rw [properId?, own, Option.filter_some, if_pos (by simpa using empty)]
        rw [List.filterMap_cons_some (by rw [proper]; rfl), OrderedMap.itemsAt_cons, ih]
        by_cases same : title = id
        · subst same
          rw [if_pos rfl, if_neg empty, if_neg empty, List.filter_cons_of_pos (by simp [own])]
          rfl
        · rw [if_neg same, List.filter_cons_of_neg (by simp [own, same])]
          rfl

theorem get?_attributesOf (e : Element) (id : String) :
    (attributesOf e.children).get? id =
      if id = "" then none else (attributeElements e id).getLast?.map attributeOf := by
  rw [attributesOf, OrderedMap.get?_ofList, itemsAt_properId fun _ => attributeOf]
  split
  · rfl
  · rw [List.getLast?_map, List.filter_filter]
    simp only [attributeElements, Bool.and_comm]

theorem region?_ofElement (root : Element) (id : String) :
    (ofElement root).region? id =
      if id = "" then none else (regionElements root id).getLast?.map (regionRoot id) := by
  rw [region?, ofElement, regionsWithin, OrderedMap.get?_ofList, itemsAt_properId regionRoot]
  split
  · rfl
  · rw [List.getLast?_map, List.filter_filter]
    simp only [regionElements, Bool.and_comm]

/-! ## Nodes -/

theorem nodesAmong_eq (elements : List Element) :
    nodesAmong elements = (elements.filter fun child => child.isNamed "node").map nodeOf := by
  induction elements with
  | nil => rfl
  | cons e elements ih =>
    rw [nodesAmong, List.filter_cons, ih]
    split
    · rfl
    · rfl

theorem childNodes_eq (elements : List Element) :
    childNodes elements = ((elements.filter fun child => child.isNamed "children").take 1).flatMap
      fun holder => nodesAmong holder.children := by
  induction elements with
  | nil => rfl
  | cons e elements ih =>
    obtain ⟨title, others, inner⟩ := e
    rw [childNodes, ih, List.filter_cons]
    simp only [Element.isNamed_iff]
    by_cases holds : title = { base := "children" }
    · rw [if_pos holds, if_pos holds, List.take_succ_cons, List.take_zero, List.flatMap_singleton]
    · rw [if_neg holds, if_neg holds]

@[simp] theorem name_nodeOf (e : Element) : (nodeOf e).name = nameOf e := by
  obtain ⟨name, entries, children⟩ := e
  rfl

theorem attributes_nodeOf (e : Element) : (nodeOf e).attributes = attributesOf e.children := by
  obtain ⟨name, entries, children⟩ := e
  rfl

/-- With one holder at most, the children are the inner nodes. -/
theorem children_nodeOf {e : Element} (single : HasOneHolder e) :
    (nodeOf e).children = e.innerNodes.map nodeOf := by
  have first : (nodeOf e).children = childNodes e.children := by
    obtain ⟨name, entries, children⟩ := e
    rfl
  rw [first, childNodes_eq, List.take_of_length_le single, Element.innerNodes, List.map_flatMap]
  exact List.flatMap_congr fun holder _ => nodesAmong_eq holder.children

theorem within_nodeOf {e : Element} (single : ∀ inner ∈ e.nested, HasOneHolder inner) :
    (nodeOf e).within = e.nested.map nodeOf := by
  induction e using Element.induction_innerNodes with
  | step e ih =>
    rw [Element.nested_eq, List.forall_mem_cons] at single
    have inner : (e.innerNodes.map nodeOf).flatMap Node.within =
        (e.innerNodes.flatMap Element.nested).map nodeOf := by
      rw [List.flatMap_map, List.map_flatMap]
      apply List.flatMap_congr
      intro below member
      exact ih below member fun deeper nested =>
        single.2 deeper (List.mem_flatMap.2 ⟨below, member, nested⟩)
    rw [Node.within_eq, Element.nested_eq, List.map_cons, ← inner, children_nodeOf single.1]

theorem childGroups_eq (node : Node) :
    node.childGroups = (OrderedMap.empty.appendAll
      (node.children.map fun child => (child.name, child))).entries := by
  have grouped (name : String) : node.childrenNamed name =
      OrderedMap.itemsAt name (node.children.map fun child => (child.name, child)) := by
    rw [Node.childrenNamed, OrderedMap.itemsAt, List.filterMap_map, ← List.filterMap_eq_filter]
    apply List.filterMap_congr
    intro child _
    simp [Option.guard]
  rw [OrderedMap.entries_appendAll_empty, List.map_map]
  exact List.map_congr_left fun name _ => congrArg (Prod.mk name) (grouped name)

theorem childCount_eq_sum (node : Node) :
    node.childCount = (node.childGroups.map fun group => group.2.length).sum := by
  have all := OrderedMap.gather_appendAll_perm (fun _ child => [child]) OrderedMap.empty
    (node.children.map fun child => (child.name, child))
  have count := all.length_eq
  rw [OrderedMap.gather, ← childGroups_eq, List.length_flatMap, List.length_append,
    List.length_flatMap, List.map_map] at count
  simpa [Node.childCount, OrderedMap.gather, Function.comp_def] using count.symm

theorem reflects_nodeOf {e : Element} (single : HasOneHolder e) : Reflects e (nodeOf e) where
  name := name_nodeOf e
  attributes id some := by rw [attributes_nodeOf, get?_attributesOf, if_neg some]
  unnamed := by rw [attributes_nodeOf, get?_attributesOf, if_pos rfl]
  children id := by
    rw [Node.childrenNamed, children_nodeOf single, List.filter_map]
    simp only [Function.comp_def, name_nodeOf]
  groups := by
    rw [childGroups_eq, children_nodeOf single, OrderedMap.appendAll_eq_foldl, List.map_map]
    simp only [Function.comp_def, name_nodeOf]
  count := by rw [Node.childCount, children_nodeOf single, List.length_map]
  total := childCount_eq_sum (nodeOf e)

/-- Documents lose no node on the way. Of the regions with one identifier the last counts, and an
empty root stands for a region without nodes. The nodes of any other region are the elements nested
in its first node element, each of them once and in document order, and every node has what its
element says. -/
theorem ofElement_loses_nothing {root : Element}
    (single : ∀ e ∈ elementsWithin root, e.isNamed "node" = true → HasOneHolder e) :
    (ofElement root).region? "" = none ∧ ∀ id, id ≠ "" →
      (regionElements root id = [] → (ofElement root).region? id = none) ∧
      ∀ region, (regionElements root id).getLast? = some region →
        (topNodes region = [] → (ofElement root).region? id = some ⟨id, OrderedMap.empty, []⟩) ∧
        ∀ top others, topNodes region = top :: others →
          (ofElement root).region? id = some (nodeOf top) ∧
          (nodeOf top).within = top.nested.map nodeOf ∧
          ∀ e ∈ top.nested, Reflects e (nodeOf e) := by
  refine ⟨by rw [region?_ofElement, if_pos rfl], fun id some => ?_⟩
  rw [region?_ofElement, if_neg some]
  refine ⟨fun none => by rw [none]; rfl, fun region last => ?_⟩
  rw [last, Option.map_some, regionRoot, ← List.head?_filter, ← topNodes]
  refine ⟨fun none => by rw [none]; rfl, fun top others first => ?_⟩
  have member : region ∈ regionElements root id := List.mem_of_getLast? last
  have child : top ∈ topNodes region := first ▸ List.mem_cons_self
  obtain ⟨below, node⟩ := List.mem_filter.1 child
  have inside : top ∈ elementsWithin root :=
    mem_elementsWithin_of_mem_children (List.mem_filter.1 member).1 below
  have nested := forall_mem_nested inside node
  have holders : ∀ e ∈ top.nested, HasOneHolder e :=
    fun e member => single e (nested e member).1 (nested e member).2
  exact ⟨by rw [first]; rfl, within_nodeOf holders,
    fun e member => reflects_nodeOf (holders e member)⟩

/-- A region comes twice, an attribute too, and a foreign element stands between the nodes. -/
theorem ofElement_loses_nothing_repeated :
    let field (id value : String) : Element :=
      ⟨⟨"", "attribute"⟩, [(⟨"", "id"⟩, id), (⟨"", "value"⟩, value)], []⟩
    let node (id : String) (children : List Element) : Element :=
      ⟨⟨"", "node"⟩, [(⟨"", "id"⟩, id)], children⟩
    let region (children : List Element) : Element :=
      ⟨⟨"", "region"⟩, [(⟨"", "id"⟩, "Feats")], children⟩
    let alert :=
      node "Feat" [field "Name" "Tough", field "" "Odd", field "Name" "Alert"]
    let plain := node "Feat" []
    let top := node "root" [⟨⟨"", "children"⟩, [], [alert, ⟨⟨"", "other"⟩, [], [plain]⟩,
      node "List" [], plain]⟩]
    let root : Element := ⟨⟨"", "save"⟩, [], [region [plain], region [top, plain]]⟩
    (∀ e ∈ elementsWithin root, e.isNamed "node" = true → HasOneHolder e) ∧
      (ofElement root).region? "Feats" = some (nodeOf top) ∧
      (nodeOf top).within = [top, alert, node "List" [], plain].map nodeOf ∧
      (nodeOf top).childrenNamed "Feat" = [nodeOf alert, nodeOf plain] ∧
      (nodeOf top).childCount = 3 ∧
      (nodeOf alert).attributes.get? "Name" = some { valueType := "", value := some "Alert" } := by
  intro field node region alert plain top root
  have single : ∀ e ∈ elementsWithin root, e.isNamed "node" = true → HasOneHolder e := by decide
  have feats := (ofElement_loses_nothing single).2 "Feats" (by decide)
  obtain ⟨found, within, reflects⟩ := (feats.2 (region [top, plain]) rfl).2 top [plain] rfl
  have ofTop := reflects top (by rw [Element.nested_eq]; exact List.mem_cons_self)
  have ofAlert := reflects alert (.tail _ (.head _))
  exact ⟨single, found, within, ofTop.children "Feat", ofTop.count,
    ofAlert.attributes "Name" (by decide)⟩

end FeatLoom.Resource
