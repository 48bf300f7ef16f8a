import FeatLoom.Proofs.Xml.Plain
import FeatLoom.Resource.OfXml

/-!
# Nested documents

A document in which nodes stand inside of one another, as far as one likes, is read like any other:
the reader of documents keeps the elements that are open in a list and has no bound on their number.
Converting its nodes goes as deep as they are nested.
-/

namespace FeatLoom

namespace Xml

/-- A node with a number of nodes inside of one another below it, through `children` elements. -/
def nestedNode : Nat → Element
  | 0 => ⟨{ base := "node" }, [], []⟩
  | levels + 1 => ⟨{ base := "node" }, [], [⟨{ base := "children" }, [], [nestedNode levels]⟩]⟩

def between {α : Type} (before after inner : List α) : Nat → List α
  | 0 => inner
  | levels + 1 => before ++ (between before after inner levels ++ after)

def nestedText : Nat → List Char :=
  between ("<node>".toList ++ "<children>".toList) ("</children>".toList ++ "</node>".toList)
    "<node/>".toList

def nestedTokens : Nat → List Token :=
  between [.start ⟨none, "node"⟩ [] false, .start ⟨none, "children"⟩ [] false]
    [.finish ⟨none, "children"⟩, .finish ⟨none, "node"⟩] [.start ⟨none, "node"⟩ [] true]

def nestedDocument (levels : Nat) : List Char :=
  "<region id='Feats'>".toList ++ (nestedText levels ++ "</region>".toList)

def nestedRoot (levels : Nat) : Element :=
  ⟨{ base := "region" }, [({ base := "id" }, "Feats")], [nestedNode levels]⟩

/-! ## Its pieces -/

namespace Token

variable {read : EntityReader} {type : DocumentType} {text rest : List Char} {token : Token}
  {tokens : List Token}

/-- A text is cut into pieces whenever the steps that are allowed suffice for its length. -/
def Cuts (read : EntityReader) (type : DocumentType) (text : List Char) (tokens : List Token) :
    Prop :=
  ∀ steps, text.length ≤ steps → tokensWithin? read steps type text = some tokens

theorem cuts_nil : Cuts read type [] [] := by
  intro steps _
  rw [tokensWithin?]

theorem cuts_cons (front : front? read type text = some ([token], type, rest))
    (shorter : rest.length < text.length) (cuts : Cuts read type rest tokens) :
    Cuts read type text (token :: tokens) := by
  intro steps enough
  cases steps with
  | zero => omega
  | succ steps =>
    have more := cuts steps (by omega)
    rw [tokensWithin?, front]
    · change (tokensWithin? read steps type rest >>= fun more => some ([token] ++ more)) = _
      rw [more]
      rfl
    · rintro rfl
      cases shorter

theorem cuts_tag (tag : String) (isTag : 0 < tag.toList.length)
    (front : front? read type (tag.toList ++ rest) = some ([token], type, rest))
    (cuts : Cuts read type rest tokens) : Cuts read type (tag.toList ++ rest) (token :: tokens) := by
  refine cuts_cons front ?_ cuts
  rw [List.length_append]
  omega

theorem cuts_nestedText {allowance : Nat} (levels : Nat)
    (cuts : Cuts read { allowance } rest tokens) :
    Cuts read { allowance } (nestedText levels ++ rest) (nestedTokens levels ++ tokens) := by
  unfold nestedText nestedTokens
  induction levels generalizing rest tokens with
  | zero => exact cuts_tag "<node/>" (by decide) rfl cuts
  | succ levels ih =>
    simp only [between, List.append_assoc, List.cons_append, List.nil_append]
    refine cuts_tag "<node>" (by decide) rfl (cuts_tag "<children>" (by decide) rfl (ih ?_))
    exact cuts_tag "</children>" (by decide) rfl (cuts_tag "</node>" (by decide) rfl cuts)

end Token

theorem tokens?_nestedDocument (allowance levels : Nat) :
    tokens? { allowance } (nestedDocument levels) =
      some (.start ⟨none, "region"⟩ [(⟨none, "id"⟩, "Feats")] false ::
        (nestedTokens levels ++ [.finish ⟨none, "region"⟩])) := by
  have last (read : Token.EntityReader) :
      Token.Cuts read { allowance } ("</region>".toList ++ []) [.finish ⟨none, "region"⟩] :=
    Token.cuts_tag "</region>" (by decide) rfl Token.cuts_nil
  exact Token.cuts_tag "<region id='Feats'>" (by decide) rfl
    (Token.cuts_nestedText levels (last _)) _ (Nat.le_refl _)

/-! ## Its elements -/

namespace Partial

def IsUnscoped (doc : Partial) : Prop := ∃ frame ∈ doc.frames.head?, frame.scope = Scope.initial

variable {doc : Partial}

def opened (doc : Partial) (base : String) : Partial :=
  { doc with frames := ⟨⟨none, base⟩, { base }, .initial, [], []⟩ :: doc.frames }

theorem enter?_of_isUnscoped (unscoped : doc.IsUnscoped) (base : String) :
    doc.enter? ⟨none, base⟩ [] = some (doc.opened base) := by
  obtain ⟨frames, root, typed⟩ := doc
  obtain ⟨frame, first, initial⟩ := unscoped
  cases frames with
  | nil => cases first
  | cons head outer =>
    cases first
    obtain ⟨raw, name, scope, attributes, children⟩ := frame
    obtain rfl : scope = Scope.initial := initial
    rfl

theorem step?_start_of_isUnscoped (unscoped : doc.IsUnscoped) (base : String) :
    doc.step? (.start ⟨none, base⟩ [] false) = some (doc.opened base) := by
  rw [step?, enter?_of_isUnscoped unscoped]
  rfl

theorem foldlM_nestedTokens (levels : Nat) (unscoped : doc.IsUnscoped) :
    (nestedTokens levels).foldlM step? doc = some (doc.place (nestedNode levels)) := by
  unfold nestedTokens
  induction levels generalizing doc with
  | zero =>
    rw [between, List.foldlM_cons, step?, enter?_of_isUnscoped unscoped]
    rfl
  | succ levels ih =>
    have inNode : (doc.opened "node").IsUnscoped := ⟨_, rfl, rfl⟩
    have inChildren : ((doc.opened "node").opened "children").IsUnscoped := ⟨_, rfl, rfl⟩
    rw [between, List.cons_append, List.foldlM_cons, step?_start_of_isUnscoped unscoped]
    dsimp only [Option.bind_eq_bind, Option.bind_some]
    rw [List.cons_append, List.foldlM_cons, step?_start_of_isUnscoped inNode]
    dsimp only [Option.bind_eq_bind, Option.bind_some, List.nil_append]
    rw [List.foldlM_append, ih inChildren]
    rfl

end Partial

theorem isPlain_nestedDocument (levels : Nat) : isPlain (nestedDocument levels) = true := by
  have inside : (nestedText levels).all (fun c => c.toNat < 0x80 && isDocumentChar c) = true := by
    unfold nestedText
    induction levels with
    | zero => decide +kernel
    | succ levels ih =>
      rw [between, List.all_append, List.all_append, List.all_append, ih]
      decide +kernel
  have whole : (nestedDocument levels).all
      (fun c => c.toNat < 0x80 && isDocumentChar c) = true := by
    unfold nestedDocument
    rw [List.all_append, List.all_append, inside]
    decide +kernel
  have tag : "<region id='Feats'>".toList = '<' :: 'r' :: "egion id='Feats'>".toList := by
    decide +kernel
  unfold nestedDocument at whole ⊢
  rw [tag] at whole ⊢
  exact whole

/-- A nested document is read, whatever the number of its levels. -/
theorem read_nestedDocument (levels : Nat) :
    read (String.ofList (nestedDocument levels)).toUTF8 = .ok (nestedRoot levels) := by
  let region : Partial := { frames := [⟨⟨none, "region"⟩, { base := "region" }, .initial,
    [({ base := "id" }, "Feats")], []⟩] }
  have first : Partial.step? {} (.start ⟨none, "region"⟩ [(⟨none, "id"⟩, "Feats")] false) =
      some region := rfl
  have unscoped : region.IsUnscoped := ⟨_, rfl, rfl⟩
  rw [read_ofList (isPlain_nestedDocument levels), rootOf?]
  change orMalformed (tokens? { allowance := _ } (nestedDocument levels) >>= fun tokens =>
    tokens.foldlM Partial.step? {} >>= Partial.finish?) = _
  rw [tokens?_nestedDocument]
  dsimp only [Option.bind_eq_bind, Option.bind_some]
  rw [List.foldlM_cons, first]
  dsimp only [Option.bind_eq_bind, Option.bind_some]
  rw [List.foldlM_append, Partial.foldlM_nestedTokens levels unscoped]
  rfl

end Xml

/-! ## Its nodes -/

namespace Resource

open Xml (nestedNode nestedRoot nestedDocument)

theorem height_nodeOf_nestedNode (levels : Nat) :
    (nodeOf (nestedNode levels)).height = levels + 1 := by
  induction levels with
  | zero => rfl
  | succ levels ih =>
    have inner : (nodeOf (nestedNode (levels + 1))).children = [nodeOf (nestedNode levels)] := by
      cases levels <;> rfl
    have step (node : Node) : node.height = Node.heightAmong node.children + 1 := by
      cases node
      rfl
    rw [step, inner]
    simp [Node.heightAmong, ih]

theorem filter_region_nestedNode (levels : Nat) :
    ((elementsWithin (nestedNode levels)).filter fun element => element.isNamed "region") = [] := by
  induction levels with
  | zero => rfl
  | succ levels ih =>
    rw [nestedNode]
    simp only [elementsWithin, elementsAmong, List.append_nil]
    exact ih

theorem depth_nestedRoot (levels : Nat) : depth (nestedRoot levels) = levels + 1 := by
  have only : regionsWithin (nestedRoot levels) = [("Feats", nodeOf (nestedNode levels))] := by
    rw [regionsWithin, nestedRoot, elementsWithin, elementsAmong, elementsAmong, List.append_nil,
      List.filter_cons_of_pos (by rfl), filter_region_nestedNode]
    cases levels <;> rfl
  rw [depth, only, ← height_nodeOf_nestedNode levels]
  exact Nat.max_eq_left (Nat.zero_le _)

/-- Whatever the bound is, some documents are beyond it. -/
theorem read_nestedDocument [Nesting] {levels : Nat} (deep : Nesting.nodes ≤ levels) :
    read (String.ofList (nestedDocument levels)).toUTF8 = .error .tooDeep := by
  rw [read, Xml.read_nestedDocument]
  dsimp only
  rw [depth_nestedRoot, if_neg (Nat.not_le_of_gt (Nat.lt_succ_of_le deep))]

end Resource

end FeatLoom
