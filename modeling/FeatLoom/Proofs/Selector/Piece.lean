import FeatLoom.Proofs.Selector.Character
import Mathlib.Data.List.Induction
import Mathlib.Data.List.TakeWhile
import Mathlib.Tactic.Ring

/-!
# Reading the pieces of selectors

Each reader takes the pieces of its kind and nothing else. A run of digits or label characters is
taken as a whole, so it is read where no such character follows; the other pieces are of known
length and are read wherever they stand.
-/

namespace FeatLoom.Selector

open Text (isBlank isDigit digitValue? ofDigits)

/-! ## Blanks -/

theorem exists_blanks (text : List Char) :
    ∃ blanks, (∀ c ∈ blanks, isBlank c = true) ∧ text = blanks ++ Text.trimLeft text :=
  ⟨text.takeWhile isBlank, fun _ member => List.mem_takeWhile_imp member,
    List.takeWhile_append_dropWhile.symm⟩

theorem trimLeft_append_cons {blanks text : List Char} {c : Char}
    (blank : ∀ c ∈ blanks, isBlank c = true) (visible : isBlank c = false) :
    Text.trimLeft (blanks ++ c :: text) = c :: text := by
  rw [Text.trimLeft, List.dropWhile_append_of_pos blank]
  exact List.dropWhile_cons_of_neg (by simp [visible])

/-- A class that has no blanks is a class of visible characters. -/
theorem visible_of_mem (member : Char → Bool)
    (visible : ∀ c, isBlank c = true → member c = false) {c : Char} (inside : member c = true) :
    isBlank c = false := by
  by_contra hidden
  have outside := visible c (by simpa using hidden)
  exact Bool.false_ne_true (outside.symm.trans inside)

/-! ## Taking a piece -/

/-- A reader takes a piece after blanks, exactly where no character that goes on with it
follows. -/
structure Takes {α : Type} (take? : List Char → Option (α × List Char))
    (piece : α → List Char → Prop) (goesOn : Char → Bool) : Prop where
  sound {text rest : List Char} {value : α} (taken : take? text = some (value, rest)) :
    ∃ blanks start, (∀ c ∈ blanks, isBlank c = true) ∧ piece value start ∧
      text = blanks ++ (start ++ rest)
  complete {blanks start rest : List Char} {value : α} (blank : ∀ c ∈ blanks, isBlank c = true)
    (given : piece value start) (ended : ∀ c ∈ rest.head?, goesOn c = false) :
    take? (blanks ++ (start ++ rest)) = some (value, rest)

/-- What comes next never goes on with the piece before it. -/
def Halts (goesOn : Char → Bool) (next : List Char → Prop) : Prop :=
  ∀ rest, next rest → ∀ c ∈ rest.head?, goesOn c = false

theorem Takes.spaced_iff {α : Type} {take? : List Char → Option (α × List Char)}
    {piece : α → List Char → Prop} {goesOn : Char → Bool} (takes : Takes take? piece goesOn)
    {next : List Char → Prop} (halts : Halts goesOn next) {value : α} {text : List Char} :
    (∃ rest, take? text = some (value, rest) ∧ next rest) ↔ Spaced (piece value) next text := by
  constructor
  · rintro ⟨rest, taken, after⟩
    obtain ⟨blanks, start, blank, given, rfl⟩ := takes.sound taken
    exact ⟨blanks, start, rest, blank, given, after, rfl⟩
  · rintro ⟨blanks, start, rest, blank, given, after, rfl⟩
    exact ⟨rest, takes.complete blank given (halts rest after), after⟩

theorem symbol?_eq_some_iff {symbol : Char} (visible : isBlank symbol = false)
    {text rest : List Char} : symbol? symbol text = some rest ↔
      ∃ blanks, (∀ c ∈ blanks, isBlank c = true) ∧ text = blanks ++ symbol :: rest := by
  constructor
  · intro taken
    obtain ⟨blanks, blank, split⟩ := exists_blanks text
    unfold symbol? at taken
    split at taken
    · next c after same =>
      split at taken
      · next equal =>
        cases taken
        exact ⟨blanks, blank, by rw [split, same, equal]⟩
      · cases taken
    · cases taken
  · rintro ⟨blanks, blank, rfl⟩
    rw [symbol?, trimLeft_append_cons blank visible]
    exact if_pos rfl

theorem spaced_symbol_iff {symbol : Char} (visible : isBlank symbol = false)
    {next : List Char → Prop} {text : List Char} :
    (∃ rest, symbol? symbol text = some rest ∧ next rest) ↔
      Spaced (Symbol symbol) next text := by
  simp only [symbol?_eq_some_iff visible]
  constructor
  · rintro ⟨rest, ⟨blanks, blank, rfl⟩, after⟩
    exact ⟨blanks, [symbol], rest, blank, rfl, after, rfl⟩
  · rintro ⟨blanks, _, rest, blank, rfl, after, rfl⟩
    exact ⟨rest, ⟨blanks, blank, rfl⟩, after⟩

theorem halts_symbol {goesOn : Char → Bool} {symbol : Char} {next : List Char → Prop}
    (blanksEnd : ∀ c, isBlank c = true → goesOn c = false) (symbolEnds : goesOn symbol = false) :
    Halts goesOn (Spaced (Symbol symbol) next) := by
  rintro _ ⟨blanks, _, rest, blank, rfl, -, rfl⟩ c head
  cases blanks with
  | nil =>
    cases head
    exact symbolEnds
  | cons first blanks =>
    obtain rfl : first = c := Option.some.inj head
    exact blanksEnd first (blank first List.mem_cons_self)

/-! ## Runs of characters -/

theorem takes_run {member : Char → Bool} (visible : ∀ c, isBlank c = true → member c = false) :
    Takes (run? member) (fun run start => start = run ∧ run ≠ [] ∧ ∀ c ∈ run, member c = true)
      member where
  sound := by
    intro text rest run taken
    obtain ⟨blanks, blank, split⟩ := exists_blanks text
    simp only [run?] at taken
    split at taken
    · cases taken
    · next some =>
      cases taken
      refine ⟨blanks, _, blank, ⟨rfl, some, fun c inside => List.mem_takeWhile_imp inside⟩, ?_⟩
      rw [List.takeWhile_append_dropWhile]
      exact split
  complete := by
    rintro blanks _ rest run blank ⟨rfl, some, members⟩ ended
    obtain ⟨c, more, rfl⟩ := List.exists_cons_of_ne_nil some
    have seen : isBlank c = false := visible_of_mem member visible (members c List.mem_cons_self)
    have stop : rest.takeWhile member = [] ∧ rest.dropWhile member = rest := by
      cases rest with
      | nil => exact ⟨rfl, rfl⟩
      | cons next others =>
        have out : ¬ member next = true := by simp [ended next rfl]
        exact ⟨List.takeWhile_cons_of_neg out, List.dropWhile_cons_of_neg out⟩
    have taken : (c :: more ++ rest).takeWhile member = c :: more := by
      rw [List.takeWhile_append_of_pos members, stop.1, List.append_nil]
    have left : (c :: more ++ rest).dropWhile member = rest := by
      rw [List.dropWhile_append_of_pos members, stop.2]
    rw [List.cons_append] at taken left ⊢
    simp only [run?, trimLeft_append_cons blank seen, taken, left]

theorem takes_label : Takes label? IsLabel isLabelChar where
  sound := by
    intro text rest label taken
    simp only [label?, Option.bind_eq_bind, Option.bind_eq_some_iff] at taken
    obtain ⟨⟨run, after⟩, found, same⟩ := taken
    cases same
    obtain ⟨blanks, start, blank, ⟨rfl, some, members⟩, split⟩ :=
      (takes_run fun _ => isLabelChar_of_isBlank).sound found
    exact ⟨blanks, start, blank,
      ⟨some, fun c inside => isLabelChar_iff.1 (members c inside), rfl⟩, split⟩
  complete := by
    rintro blanks start rest label blank ⟨some, members, rfl⟩ ended
    have found := (takes_run fun _ => isLabelChar_of_isBlank).complete blank
      ⟨rfl, some, fun c inside => isLabelChar_iff.2 (members c inside)⟩ ended
    rw [label?, found]
    rfl

theorem ofDigits_eq (base : Nat) (digits : List Nat) :
    ofDigits base digits = Nat.ofDigits base digits.reverse := by
  induction digits using List.reverseRecOn with
  | nil => rfl
  | append_singleton digits digit ih =>
    rw [ofDigits, List.foldl_append, ← ofDigits, ih, List.reverse_append, List.reverse_singleton,
      List.singleton_append, Nat.ofDigits_cons, List.foldl_cons, List.foldl_nil]
    ring

theorem forall₂_digitValue? {piece : List Char} {values : List Nat} :
    List.Forall₂ (fun c value => digitValue? c = some value) piece values ↔
      (∀ c ∈ piece, isDigit c = true) ∧ piece.filterMap digitValue? = values := by
  induction piece generalizing values with
  | nil =>
    rw [List.forall₂_nil_left_iff]
    exact ⟨fun none => ⟨fun c member => absurd member List.not_mem_nil, none.symm⟩,
      fun both => both.2.symm⟩
  | cons c piece ih =>
    constructor
    · intro spelled
      cases spelled with
      | cons digit spelled =>
        obtain ⟨members, rfl⟩ := ih.1 spelled
        have member : isDigit c = true := by rw [isDigit, digit]; rfl
        exact ⟨List.forall_mem_cons.2 ⟨member, members⟩, List.filterMap_cons_some digit⟩
    · rintro ⟨members, rfl⟩
      rw [List.forall_mem_cons] at members
      obtain ⟨value, digit⟩ := Option.isSome_iff_exists.1 members.1
      rw [List.filterMap_cons_some digit]
      exact .cons digit (ih.2 ⟨members.2, rfl⟩)

theorem takes_number : Takes number? IsNumber isDigit where
  sound := by
    intro text rest n taken
    simp only [number?, Option.bind_eq_bind, Option.bind_eq_some_iff] at taken
    obtain ⟨⟨run, after⟩, found, same⟩ := taken
    cases same
    obtain ⟨blanks, start, blank, ⟨rfl, some, members⟩, split⟩ :=
      (takes_run fun _ => isDigit_of_isBlank).sound found
    exact ⟨blanks, start, blank,
      ⟨some, _, forall₂_digitValue?.2 ⟨members, rfl⟩, ofDigits_eq ..⟩, split⟩
  complete := by
    rintro blanks start rest n blank ⟨some, values, spelled, rfl⟩ ended
    obtain ⟨members, rfl⟩ := forall₂_digitValue?.1 spelled
    have found := (takes_run fun _ => isDigit_of_isBlank).complete blank
      ⟨rfl, some, members⟩ ended
    rw [number?, found, ← ofDigits_eq]
    rfl

/-! ## Identifiers -/

theorem hexDigits?_eq_some_iff {width : Nat} {text rest : List Char} {values : List Nat} :
    hexDigits? width text = some (values, rest) ↔
      ∃ digits, digits.length = width ∧ List.Forall₂ HexDigit digits values ∧
        text = digits ++ rest := by
  induction width generalizing text values with
  | zero => simp [hexDigits?, List.length_eq_zero_iff, eq_comm, and_comm]
  | succ width ih =>
    constructor
    · intro taken
      cases text with
      | nil => cases taken
      | cons c text =>
        simp only [hexDigits?, Option.bind_eq_bind, Option.bind_eq_some_iff] at taken
        obtain ⟨value, digit, ⟨more, left⟩, others, same⟩ := taken
        cases same
        obtain ⟨digits, length, spelled, rfl⟩ := ih.1 others
        exact ⟨c :: digits, by rw [List.length_cons, length],
          .cons (hexValue?_eq_some_iff.1 digit) spelled, rfl⟩
    · rintro ⟨digits, length, spelled, rfl⟩
      cases spelled with
      | nil => cases length
      | @cons c value digits values digit spelled =>
        have others := ih.2 ⟨digits, Nat.succ.inj length, spelled, rfl⟩
        simp only [hexDigits?, List.cons_append, hexValue?_eq_some_iff.2 digit, others,
          Option.bind_eq_bind, Option.bind_some]

theorem HexGroups.head {sizes values : List Nat} {text : List Char}
    (groups : HexGroups sizes values text) (positive : ∀ size ∈ sizes, 0 < size) :
    ∃ c more value, text = c :: more ∧ HexDigit c value := by
  cases groups with
  | last spelled =>
    have some := positive _ List.mem_cons_self
    cases spelled with
    | nil => cases some
    | cons digit _ => exact ⟨_, _, _, rfl, digit⟩
  | group spelled _ _ =>
    have some := positive _ List.mem_cons_self
    cases spelled with
    | nil => cases some
    | cons digit _ => exact ⟨_, _, _, rfl, digit⟩

theorem skipHyphen_append {hyphen text : List Char} (optional : hyphen = [] ∨ hyphen = ['-'])
    (started : ∀ c ∈ text.head?, c ≠ '-') : skipHyphen (hyphen ++ text) = text := by
  obtain rfl | rfl := optional
  · rw [List.nil_append]
    unfold skipHyphen
    split
    · next rest => exact absurd rfl (started '-' rfl)
    · rfl
  · rfl

theorem hexGroups?_of_hexGroups {sizes values : List Nat} {start : List Char}
    (groups : HexGroups sizes values start) (positive : ∀ size ∈ sizes, 0 < size)
    (rest : List Char) : hexGroups? sizes (start ++ rest) = some (values, rest) := by
  induction groups with
  | last spelled => exact hexDigits?_eq_some_iff.2 ⟨_, rfl, spelled, rfl⟩
  | @group size sizes values more digits hyphen text spelled optional others ih =>
    rw [List.forall_mem_cons] at positive
    obtain ⟨c, tail, value, rfl, digit⟩ := others.head positive.2
    have started : ∀ first ∈ (c :: tail ++ rest).head?, first ≠ '-' := by
      rintro _ ⟨⟩ rfl
      have none : hexValue? '-' = none := rfl
      rw [hexValue?_eq_some_iff.2 digit] at none
      cases none
    have taken : hexDigits? digits.length (digits ++ (hyphen ++ (c :: tail ++ rest))) =
        some (values, hyphen ++ (c :: tail ++ rest)) :=
      hexDigits?_eq_some_iff.2 ⟨digits, rfl, spelled, rfl⟩
    rw [List.append_assoc, List.append_assoc, hexGroups?, taken]
    simp only [Option.bind_eq_bind, Option.bind_some, skipHyphen_append optional started,
      ih positive.2]
    simp

theorem hexGroups_of_hexGroups? {size : Nat} {sizes values : List Nat} {text rest : List Char}
    (taken : hexGroups? (size :: sizes) text = some (values, rest)) :
    ∃ start, HexGroups (size :: sizes) values start ∧ text = start ++ rest := by
  induction sizes generalizing size text values with
  | nil =>
    obtain ⟨digits, rfl, spelled, split⟩ := hexDigits?_eq_some_iff.1 taken
    exact ⟨digits, .last spelled, split⟩
  | cons next sizes ih =>
    simp only [hexGroups?, Option.bind_eq_bind, Option.bind_eq_some_iff] at taken
    obtain ⟨⟨first, after⟩, one, ⟨more, left⟩, others, same⟩ := taken
    cases same
    obtain ⟨digits, rfl, spelled, rfl⟩ := hexDigits?_eq_some_iff.1 one
    obtain ⟨start, groups, split⟩ := ih others
    have hyphen : ∃ hyphen, (hyphen = [] ∨ hyphen = ['-']) ∧
        after = hyphen ++ skipHyphen after := by
      unfold skipHyphen
      split
      · exact ⟨['-'], .inr rfl, rfl⟩
      · exact ⟨[], .inl rfl, rfl⟩
    obtain ⟨hyphen, optional, skipped⟩ := hyphen
    refine ⟨digits ++ (hyphen ++ start), .group spelled optional groups, ?_⟩
    rw [skipped, split, List.append_assoc, List.append_assoc]

theorem takes_guid : Takes guid? IsGuid fun _ => false where
  sound := by
    intro text rest list taken
    simp only [guid?, Option.bind_eq_bind, Option.bind_eq_some_iff] at taken
    obtain ⟨⟨values, after⟩, found, same⟩ := taken
    cases same
    obtain ⟨blanks, blank, split⟩ := exists_blanks text
    obtain ⟨start, groups, trimmed⟩ := hexGroups_of_hexGroups? found
    exact ⟨blanks, start, blank, ⟨values, groups, congrArg Guid.ofNat (ofDigits_eq ..)⟩,
      by rw [← trimmed, ← split]⟩
  complete := by
    rintro blanks start rest list blank ⟨values, groups, rfl⟩ -
    have positive : ∀ size ∈ [8, 4, 4, 4, 12], 0 < size := by decide
    obtain ⟨c, more, value, rfl, digit⟩ := groups.head positive
    have seen : isBlank c = false :=
      visible_of_mem (fun c => (hexValue? c).isSome)
        (fun c blank => by rw [hexValue?_of_isBlank blank]; rfl)
        (by rw [hexValue?_eq_some_iff.2 digit]; rfl)
    have taken := hexGroups?_of_hexGroups groups positive rest
    rw [List.cons_append] at taken ⊢
    rw [guid?, trimLeft_append_cons blank seen, guidGroups, taken, ← ofDigits_eq]
    rfl

/-! ## Words -/

theorem word?_eq_some_iff {fits : Char → Char → Bool} {letters text rest : List Char} :
    word? fits letters text = some rest ↔
      ∃ start, List.Forall₂ (fun letter c => fits letter c = true) letters start ∧
        text = start ++ rest := by
  induction letters generalizing text with
  | nil =>
    constructor
    · intro taken
      exact ⟨[], .nil, Option.some.inj taken⟩
    · rintro ⟨_, spelled, rfl⟩
      cases spelled
      rfl
  | cons letter letters ih =>
    constructor
    · intro taken
      cases text with
      | nil => cases taken
      | cons c text =>
        rw [word?] at taken
        split at taken
        · next fit =>
          obtain ⟨start, spelled, rfl⟩ := ih.1 taken
          exact ⟨c :: start, .cons fit spelled, rfl⟩
        · cases taken
    · rintro ⟨_, spelled, rfl⟩
      cases spelled with
      | cons fit spelled =>
        rw [List.cons_append, word?, if_pos fit]
        exact ih.2 ⟨_, spelled, rfl⟩

theorem isFlag_iff {flag : Bool} {start : List Char} : IsFlag flag start ↔
    List.Forall₂ (fun letter c => fitsFlagLetter letter c = true)
      (if flag then "true" else "false").toList start :=
  ⟨fun spelled => spelled.imp fun _ _ => fitsFlagLetter_iff.2,
    fun spelled => spelled.imp fun _ _ => fitsFlagLetter_iff.1⟩

theorem takes_flag : Takes flag? IsFlag fun _ => false where
  sound := by
    intro text rest flag taken
    obtain ⟨blanks, blank, split⟩ := exists_blanks text
    simp only [flag?] at taken
    cases yes : word? fitsFlagLetter "true".toList (Text.trimLeft text) with
    | some after =>
      rw [yes] at taken
      cases taken
      obtain ⟨start, spelled, trimmed⟩ := word?_eq_some_iff.1 yes
      exact ⟨blanks, start, blank, isFlag_iff.2 spelled, by rw [← trimmed, ← split]⟩
    | none =>
      rw [yes] at taken
      obtain ⟨after, no, same⟩ := Option.map_eq_some_iff.1 taken
      cases same
      obtain ⟨start, spelled, trimmed⟩ := word?_eq_some_iff.1 no
      exact ⟨blanks, start, blank, isFlag_iff.2 spelled, by rw [← trimmed, ← split]⟩
  complete := by
    rintro blanks start rest flag blank spelled -
    rw [isFlag_iff] at spelled
    have taken : word? fitsFlagLetter (if flag then "true" else "false").toList (start ++ rest) =
        some rest := word?_eq_some_iff.2 ⟨start, spelled, rfl⟩
    have trueLetters : "true".toList = ['t', 'r', 'u', 'e'] := rfl
    have falseLetters : "false".toList = ['f', 'a', 'l', 's', 'e'] := rfl
    cases flag with
    | true =>
      rw [if_pos rfl] at spelled taken
      rw [trueLetters] at spelled
      obtain ⟨c, more, fit, -, rfl⟩ := List.forall₂_cons_left_iff.1 spelled
      have seen : isBlank c = false := visible_of_mem (fitsFlagLetter 't')
        (fun c => forall_isBlank (p := fun c => fitsFlagLetter 't' c = false) (by decide)) fit
      rw [List.cons_append] at taken ⊢
      simp only [flag?, trimLeft_append_cons blank seen, taken]
    | false =>
      rw [if_neg Bool.false_ne_true] at spelled taken
      rw [falseLetters] at spelled
      obtain ⟨c, more, fit, -, rfl⟩ := List.forall₂_cons_left_iff.1 spelled
      have seen : isBlank c = false := visible_of_mem (fitsFlagLetter 'f')
        (fun c => forall_isBlank (p := fun c => fitsFlagLetter 'f' c = false) (by decide)) fit
      have lower : c.toLower = 'f' := by simpa [fitsFlagLetter] using fit
      have unfit : fitsFlagLetter 't' c = false := by simp [fitsFlagLetter, lower]
      rw [List.cons_append] at taken ⊢
      have other : word? fitsFlagLetter "true".toList (c :: (more ++ rest)) = none := by
        rw [trueLetters, word?, unfit, if_neg Bool.false_ne_true]
      simp only [flag?, trimLeft_append_cons blank seen, other, taken]
      rfl

end FeatLoom.Selector
