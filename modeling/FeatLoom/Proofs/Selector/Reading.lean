import FeatLoom.Proofs.Selector.Form

/-!
# Reading selectors

The name of a function can be told from its call, so no text has two forms, and the order in which
the forms are tried does not matter. The reader therefore accepts the grammar, and whatever denotes
nothing is kept as an unknown selector.
-/

namespace FeatLoom.Selector

open Text (isBlank)

/-! ## Telling the forms apart -/

def letters : List Char := "abcdefghijklmnopqrstuvwxyz".toList

def isNameChar (c : Char) : Bool := c.toLower ∈ letters || c.toNat == 0x212A

def nameLetterOf (c : Char) : Char := if c.toNat = 0x212A then 'k' else c.toLower

theorem isNameChar_of_isBlank {c : Char} (blank : isBlank c = true) : isNameChar c = false :=
  forall_isBlank (p := fun c => isNameChar c = false) (by decide) blank

theorem NameLetter.known {letter c : Char} (fits : NameLetter letter c)
    (known : letter.toLower ∈ letters) :
    isNameChar c = true ∧ nameLetterOf c = letter.toLower := by
  unfold isNameChar nameLetterOf
  obtain same | ⟨same, kelvin⟩ := fits
  · have plain : c.toNat ≠ 0x212A := by
      intro kelvin
      have equal : c = Char.ofNat 0x212A := by rw [← kelvin, Char.ofNat_toNat]
      rw [← same, equal] at known
      exact absurd known (by decide)
    rw [same, if_neg plain]
    exact ⟨by simp [known], rfl⟩
  · rw [if_pos kelvin, same]
    exact ⟨by simp [kelvin], rfl⟩

theorem Call.letters_eq {name : String} {list : Guid} {count : Nat} {next : List Char → Prop}
    {text : List Char} (call : Call name list count next text)
    (known : name.toList.all (·.toLower ∈ letters) = true) :
    (text.takeWhile isNameChar).map nameLetterOf = name.toList.map Char.toLower := by
  obtain ⟨start, rest, spelled, rfl, bracket⟩ := call
  have ends : ∀ c ∈ rest.head?, isNameChar c = false :=
    halts_symbol (fun _ => isNameChar_of_isBlank) (by decide) rest bracket
  have stop : rest.takeWhile isNameChar = [] := by
    cases rest with
    | nil => rfl
    | cons c rest => exact List.takeWhile_cons_of_neg (by simp [ends c rfl])
  generalize name.toList = word at spelled known
  have named : (∀ c ∈ start, isNameChar c = true) ∧
      start.map nameLetterOf = word.map Char.toLower := by
    clear bracket ends stop
    induction spelled with
    | nil => exact ⟨fun c member => absurd member List.not_mem_nil, rfl⟩
    | @cons letter c word start fit _ ih =>
      rw [List.all_cons, Bool.and_eq_true, decide_eq_true_eq] at known
      have one := fit.known known.1
      have others := ih known.2
      exact ⟨List.forall_mem_cons.2 ⟨one.1, others.1⟩,
        by rw [List.map_cons, List.map_cons, one.2, others.2]⟩
  rw [List.takeWhile_append_of_pos named.1, stop, List.append_nil, named.2]

def functionLetters : SelectorKind → List Char
  | .ability => "selectabilities".toList
  | .skill => "selectskills".toList
  | .expertise => "selectskillsexpertise".toList
  | .passive => "selectpassives".toList
  | .spell | .unknown => []

theorem Denotes.letters_eq {selector : Selector} {text : List Char}
    (denotes : Denotes selector text) :
    (text.takeWhile isNameChar).map nameLetterOf = functionLetters selector.kind := by
  cases denotes with
  | ability call => exact call.letters_eq (by decide)
  | skill call => exact call.letters_eq (by decide)
  | expertise call => exact call.letters_eq (by decide)
  | passive call => exact call.letters_eq (by decide)

def formKinds : List SelectorKind := [.ability, .skill, .expertise, .passive]

theorem Denotes.kind_mem {selector : Selector} {text : List Char}
    (denotes : Denotes selector text) : selector.kind ∈ formKinds := by
  cases denotes with
  | ability => exact List.mem_cons_self
  | skill | expertise | passive => simp [formKinds, kind]

theorem Denotes.kind_unique {first second : Selector} {text : List Char}
    (one : Denotes first text) (two : Denotes second text) : first.kind = second.kind := by
  have distinct : ∀ kind ∈ formKinds, ∀ other ∈ formKinds,
      functionLetters kind = functionLetters other → kind = other := by decide
  exact distinct _ one.kind_mem _ two.kind_mem (one.letters_eq.symm.trans two.letters_eq)

/-! ## Trying the forms -/

def form? : SelectorKind → List Char → Option Selector
  | .ability => ability?
  | .skill => skill?
  | .expertise => expertise?
  | .passive => passive?
  | .spell | .unknown => fun _ => none

theorem form?_eq_some_iff {kind : SelectorKind} {selector : Selector} {text : List Char} :
    form? kind text = some selector ↔ selector.kind = kind ∧ Denotes selector text := by
  cases kind with
  | ability => exact ability?_eq_some_iff
  | skill => exact skill?_eq_some_iff
  | expertise => exact expertise?_eq_some_iff
  | passive => exact passive?_eq_some_iff
  | spell | unknown =>
    constructor
    · exact fun none => nomatch none
    · rintro ⟨kind, denotes⟩
      have known := denotes.kind_mem
      rw [kind] at known
      exact absurd known (by decide)

theorem Denotes.unique {first second : Selector} {text : List Char}
    (one : Denotes first text) (two : Denotes second text) : first = second := by
  have read := form?_eq_some_iff.2 ⟨rfl, one⟩
  have again := form?_eq_some_iff.2 ⟨(one.kind_unique two).symm, two⟩
  exact Option.some.inj (read.symm.trans again)

/-- Whatever the order, the first form that is read is the only one. -/
theorem findSome?_eq_some_iff {order : List (List Char → Option Selector)}
    (perm : order.Perm (formKinds.map form?)) {selector : Selector} {text : List Char} :
    order.findSome? (fun form => form text) = some selector ↔ Denotes selector text := by
  have sound {form : List Char → Option Selector} (member : form ∈ order) {other : Selector}
      (read : form text = some other) : Denotes other text := by
    obtain ⟨kind, -, rfl⟩ := List.mem_map.1 (perm.mem_iff.1 member)
    exact (form?_eq_some_iff.1 read).2
  constructor
  · intro found
    obtain ⟨form, member, read⟩ := List.exists_of_findSome?_eq_some found
    exact sound member read
  · intro denotes
    have member : form? selector.kind ∈ order :=
      perm.mem_iff.2 (List.mem_map_of_mem denotes.kind_mem)
    have read : form? selector.kind text = some selector := form?_eq_some_iff.2 ⟨rfl, denotes⟩
    cases found : order.findSome? (fun form => form text) with
    | none =>
      have missed := List.findSome?_eq_none_iff.1 found _ member
      cases missed.symm.trans read
    | some other =>
      obtain ⟨form, member, again⟩ := List.exists_of_findSome?_eq_some found
      rw [(sound member again).unique denotes]

theorem ofChars?_eq_some_iff {selector : Selector} {text : List Char} :
    ofChars? text = some selector ↔ Denotes selector text := by
  have tried : ofChars? text = (formKinds.map form?).findSome? (fun form => form text) := by
    simp only [ofChars?, formKinds, form?, List.map_cons, List.map_nil, List.findSome?_cons,
      List.findSome?_nil]
    cases ability? text <;> cases skill? text <;> cases expertise? text <;>
      cases passive? text <;> rfl
  rw [tried]
  exact findSome?_eq_some_iff (List.Perm.refl _)

/-- The reader accepts exactly the grammar. A selector of one of the four forms is read from the
texts that denote it, every other text is kept as an unknown selector, no text denotes two
selectors, and the forms may be tried in any order. -/
theorem read_eq_iff_denotes (text : String) :
    let call := Text.trim text.toList
    (∀ selector, selector.kind ≠ .unknown → (read text = selector ↔ Denotes selector call)) ∧
      ((∀ selector, ¬ Denotes selector call) →
        read text = .unknown (some (String.ofList call))) ∧
      (∀ first second, Denotes first call → Denotes second call → first = second) ∧
      ∀ order : List (List Char → Option Selector),
        order.Perm [ability?, skill?, expertise?, passive?] →
          order.findSome? (fun form => form call) = ofChars? call := by
  intro call
  refine ⟨fun selector known => ⟨fun found => ?_, fun denotes => ?_⟩, fun nothing => ?_,
    fun _ _ one two => one.unique two, fun order perm => ?_⟩
  · change (ofChars? call).getD _ = selector at found
    cases read : ofChars? call with
    | none =>
      rw [read] at found
      exact absurd (congrArg kind found.symm) known
    | some other =>
      rw [read] at found
      exact ofChars?_eq_some_iff.1 (read.trans (congrArg some found))
  · change (ofChars? call).getD _ = selector
    rw [ofChars?_eq_some_iff.2 denotes, Option.getD_some]
  · have none : ofChars? call = none :=
      Option.eq_none_iff_forall_ne_some.2 fun selector read =>
        nothing selector (ofChars?_eq_some_iff.1 read)
    change (ofChars? call).getD _ = _
    rw [none]
    rfl
  · ext selector
    rw [findSome?_eq_some_iff perm, ofChars?_eq_some_iff]

example : read " SELECTSKILLS ( 0000000000000000-0000-00000000000A , 12 )" =
    .skill (Guid.ofNat 10) 12 none := by decide

end FeatLoom.Selector
