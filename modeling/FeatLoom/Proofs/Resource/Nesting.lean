import FeatLoom.Resource.OfXml

/-!
# Elements and nodes in their trees

The nodes of a resource come from elements that are nested through `children` elements, any number
of them in one element. `nested` lists such elements and `Node.within` the nodes of a tree, each
before those inside of it, so with repetitions. The equations here say how the lists are made up
from those one level below, and inductions over trees go level by level as well.
-/

namespace FeatLoom

namespace Xml.Element

theorem isNamed_iff {e : Element} {base : String} :
    e.isNamed base = true ↔ e.name = { base } := beq_iff_eq

def innerNodes (e : Element) : List Element :=
  (e.children.filter fun child => child.isNamed "children").flatMap fun inner =>
    inner.children.filter fun child => child.isNamed "node"

mutual

def nested : Element → List Element
  | ⟨name, entries, children⟩ => ⟨name, entries, children⟩ :: nestedBelow children

def nestedBelow : List Element → List Element
  | [] => []
  | ⟨name, _, inner⟩ :: rest =>
    if name = { base := "children" } then nestedAmong inner ++ nestedBelow rest
    else nestedBelow rest

def nestedAmong : List Element → List Element
  | [] => []
  | element :: rest =>
    if element.isNamed "node" then nested element ++ nestedAmong rest else nestedAmong rest

end

@[elab_as_elim] theorem induction {motive : Element → Prop}
    (step : ∀ e, (∀ child ∈ e.children, motive child) → motive e) (e : Element) : motive e :=
  step e fun child _ => induction step child
termination_by sizeOf e
decreasing_by
  obtain ⟨name, entries, children⟩ := e
  have smaller := List.sizeOf_lt_of_mem ‹child ∈ children›
  rw [mk.sizeOf_spec]
  omega

theorem mem_innerNodes {e inner : Element} : inner ∈ e.innerNodes ↔
    ∃ holder ∈ e.children, holder.isNamed "children" = true ∧ inner ∈ holder.children ∧
      inner.isNamed "node" = true := by
  simp only [innerNodes, List.mem_flatMap, List.mem_filter, and_assoc]

/-- The inner nodes are two levels below, so the step to them goes over two levels. -/
@[elab_as_elim] theorem induction_innerNodes {motive : Element → Prop}
    (step : ∀ e, (∀ inner ∈ e.innerNodes, motive inner) → motive e) (e : Element) : motive e := by
  have both : motive e ∧ ∀ child ∈ e.children, motive child := by
    induction e using induction with
    | step e ih =>
      refine ⟨step e fun inner member => ?_, fun child member => (ih child member).1⟩
      obtain ⟨holder, below, -, inside, -⟩ := mem_innerNodes.1 member
      exact (ih holder below).2 inner inside
  exact both.1

theorem nestedAmong_eq (elements : List Element) :
    nestedAmong elements = (elements.filter fun child => child.isNamed "node").flatMap nested := by
  induction elements with
  | nil => rfl
  | cons e elements ih =>
    rw [nestedAmong, List.filter_cons, ih]
    split
    · rfl
    · rfl

theorem nested_eq (e : Element) : e.nested = e :: e.innerNodes.flatMap nested := by
  obtain ⟨name, entries, children⟩ := e
  have below : nestedBelow children =
      ((children.filter fun child => child.isNamed "children").flatMap fun inner =>
        inner.children.filter fun child => child.isNamed "node").flatMap nested := by
    induction children with
    | nil => rfl
    | cons child children ih =>
      obtain ⟨title, others, inner⟩ := child
      rw [nestedBelow, ih, nestedAmong_eq, List.filter_cons]
      simp only [isNamed_iff]
      by_cases holds : title = { base := "children" }
      · rw [if_pos holds, if_pos holds, List.flatMap_cons, List.flatMap_append]
      · rw [if_neg holds, if_neg holds]
  rw [nested, below]
  rfl

end Xml.Element

namespace Resource

open Xml (Element)

mutual

def Node.within : Node → List Node
  | ⟨name, attributes, children⟩ => ⟨name, attributes, children⟩ :: withinAll children

def withinAll : List Node → List Node
  | [] => []
  | node :: rest => node.within ++ withinAll rest

end

theorem Node.within_eq (node : Node) : node.within = node :: node.children.flatMap Node.within := by
  obtain ⟨name, attributes, children⟩ := node
  have all : withinAll children = children.flatMap Node.within := by
    induction children with
    | nil => rfl
    | cons child children ih => rw [withinAll, ih, List.flatMap_cons]
  rw [Node.within, all]

theorem elementsWithin_eq (e : Element) :
    elementsWithin e = e :: e.children.flatMap elementsWithin := by
  obtain ⟨name, entries, children⟩ := e
  have among : elementsAmong children = children.flatMap elementsWithin := by
    induction children with
    | nil => rfl
    | cons child children ih => rw [elementsAmong, ih, List.flatMap_cons]
  rw [elementsWithin, among]

theorem mem_elementsWithin_self (e : Element) : e ∈ elementsWithin e := by
  rw [elementsWithin_eq]
  exact List.mem_cons_self

theorem mem_elementsWithin_of_mem_children {root e child : Element}
    (inside : e ∈ elementsWithin root) (below : child ∈ e.children) :
    child ∈ elementsWithin root := by
  induction root using Element.induction with
  | step root ih =>
    rw [elementsWithin_eq, List.mem_cons, List.mem_flatMap] at inside ⊢
    right
    obtain rfl | ⟨branch, member, within⟩ := inside
    · exact ⟨child, below, mem_elementsWithin_self child⟩
    · exact ⟨branch, member, ih branch member within⟩

theorem forall_mem_nested {root top : Element} (inside : top ∈ elementsWithin root)
    (node : top.isNamed "node" = true) :
    ∀ e ∈ top.nested, e ∈ elementsWithin root ∧ e.isNamed "node" = true := by
  induction top using Element.induction_innerNodes with
  | step top ih =>
    rw [Element.nested_eq, List.forall_mem_cons]
    refine ⟨⟨inside, node⟩, fun e member => ?_⟩
    obtain ⟨inner, below, nested⟩ := List.mem_flatMap.1 member
    obtain ⟨holder, child, -, grandchild, named⟩ := Element.mem_innerNodes.1 below
    have within := mem_elementsWithin_of_mem_children
      (mem_elementsWithin_of_mem_children inside child) grandchild
    exact ih inner below within named e nested

end Resource

end FeatLoom
