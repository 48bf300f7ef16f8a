import FeatLoom.Proofs.Selector.Piece

/-!
# Reading the forms of selectors

Each form is read from the texts that denote a selector of its kind and from no others. What follows
a number or a label never goes on with it, because it starts with a blank, a comma or a bracket.
-/

namespace FeatLoom.Selector

open Text (isBlank isDigit)

/-! ## The end of a call -/

theorem close?_eq_some_iff {text : List Char} : close? text = some () ↔ Closed text := by
  rw [Closed, ← spaced_symbol_iff (by decide)]
  simp only [close?, Option.bind_eq_bind, Option.bind_eq_some_iff]
  refine exists_congr fun rest => and_congr_right fun _ => ?_
  cases rest <;> simp

theorem symbol?_unique {first second : Char} {text rest others : List Char}
    (one : symbol? first text = some rest) (two : symbol? second text = some others) :
    first = second := by
  cases start : Text.trimLeft text with
  | nil =>
    simp only [symbol?, start] at one
    cases one
  | cons c after =>
    simp only [symbol?, start, Option.ite_none_right_eq_some] at one two
    exact one.1.symm.trans two.1

theorem lastArgument?_eq_some_iff {α : Type} {argument? : List Char → Option (α × List Char)}
    {piece : α → List Char → Prop} {goesOn : Char → Bool} (takes : Takes argument? piece goesOn)
    (halts : Halts goesOn Closed) {value : Option α} {text : List Char} :
    lastArgument? argument? text = some value ↔ LastArgument piece value text := by
  constructor
  · intro taken
    unfold lastArgument? at taken
    split at taken
    · obtain ⟨_, closed, rfl⟩ := Option.map_eq_some_iff.1 taken
      exact close?_eq_some_iff.1 closed
    · next rest comma =>
      simp only [Option.bind_eq_bind, Option.bind_eq_some_iff] at taken
      obtain ⟨⟨argument, after⟩, found, _, closed, same⟩ := taken
      cases same
      have read : Spaced (piece argument) Closed rest :=
        (takes.spaced_iff halts).1 ⟨after, found, close?_eq_some_iff.1 closed⟩
      exact (spaced_symbol_iff (by decide)).1 ⟨rest, comma, read⟩
  · intro last
    cases value with
    | none =>
      obtain ⟨after, bracket, -⟩ := (spaced_symbol_iff (by decide)).2 last
      have noComma : symbol? ',' text = none := by
        by_contra comma
        obtain ⟨rest, found⟩ := Option.ne_none_iff_exists'.1 comma
        exact absurd (symbol?_unique found bracket) (by decide)
      rw [lastArgument?, noComma]
      exact congrArg (Option.map _) (close?_eq_some_iff.2 last)
    | some value =>
      obtain ⟨rest, comma, argument⟩ := (spaced_symbol_iff (by decide)).2 last
      obtain ⟨after, found, closed⟩ := (takes.spaced_iff halts).2 argument
      rw [lastArgument?, comma]
      simp only [found, close?_eq_some_iff.2 closed, Option.bind_eq_bind, Option.bind_some]

theorem halts_lastArgument {α : Type} {piece : α → List Char → Prop} {goesOn : Char → Bool}
    (blanksEnd : ∀ c, isBlank c = true → goesOn c = false) (bracketEnds : goesOn ')' = false)
    (commaEnds : goesOn ',' = false) (value : Option α) :
    Halts goesOn (LastArgument piece value) := by
  cases value with
  | none => exact halts_symbol blanksEnd bracketEnds
  | some value => exact halts_symbol blanksEnd commaEnds

/-! ## The four forms -/

theorem halts_label_closed : Halts isLabelChar Closed :=
  halts_symbol (fun _ => isLabelChar_of_isBlank) (by decide)

theorem halts_never (next : List Char → Prop) : Halts (fun _ => false) next := fun _ _ _ _ => rfl

theorem listAndCount?_iff {name : String} {list : Guid} {count : Nat} {next : List Char → Prop}
    (halts : Halts isDigit next) {text : List Char} :
    (∃ rest, listAndCount? name text = some (list, count, rest) ∧ next rest) ↔
      Call name list count next text := by
  constructor
  · rintro ⟨rest, taken, after⟩
    simp only [listAndCount?, Option.bind_eq_bind, Option.bind_eq_some_iff] at taken
    obtain ⟨called, named, opened, bracket, ⟨_, listed⟩, found, separated, comma, ⟨_, counted⟩,
      number, same⟩ := taken
    cases same
    obtain ⟨start, spelled, rfl⟩ := word?_eq_some_iff.1 named
    have numbered := (takes_number.spaced_iff halts).1 ⟨_, number, after⟩
    have listing := (takes_guid.spaced_iff (halts_never _)).1
      ⟨listed, found, (spaced_symbol_iff (by decide)).1 ⟨separated, comma, numbered⟩⟩
    exact ⟨start, called, spelled.imp fun _ _ => fitsNameLetter_iff.1, rfl,
      (spaced_symbol_iff (by decide)).1 ⟨opened, bracket, listing⟩⟩
  · rintro ⟨start, called, spelled, rfl, opening⟩
    have named : word? fitsNameLetter name.toList (start ++ called) = some called :=
      word?_eq_some_iff.2 ⟨start, spelled.imp fun _ _ => fitsNameLetter_iff.2, rfl⟩
    obtain ⟨opened, bracket, listing⟩ := (spaced_symbol_iff (by decide)).2 opening
    obtain ⟨listed, found, separating⟩ := (takes_guid.spaced_iff (halts_never _)).2 listing
    obtain ⟨separated, comma, numbered⟩ := (spaced_symbol_iff (by decide)).2 separating
    obtain ⟨rest, number, after⟩ := (takes_number.spaced_iff halts).2 numbered
    refine ⟨rest, ?_, after⟩
    simp only [listAndCount?, named, bracket, found, comma, number, Option.bind_eq_bind,
      Option.bind_some]

theorem ability?_eq_some_iff {selector : Selector} {text : List Char} :
    ability? text = some selector ↔ selector.kind = .ability ∧ Denotes selector text := by
  have digitsEnd {next : List Char → Prop} : Halts isDigit (Spaced (Symbol ',') next) :=
    halts_symbol (fun _ => isDigit_of_isBlank) (by decide)
  constructor
  · intro taken
    simp only [ability?, Option.bind_eq_bind, Option.bind_eq_some_iff] at taken
    obtain ⟨⟨list, count, rest⟩, called, first, comma, ⟨max, counted⟩, number, second, again,
      ⟨label, labelled⟩, found, _, closed, same⟩ := taken
    cases same
    have labels := (takes_label.spaced_iff halts_label_closed).1
      ⟨labelled, found, close?_eq_some_iff.1 closed⟩
    have numbers := (takes_number.spaced_iff digitsEnd).1
      ⟨counted, number, (spaced_symbol_iff (by decide)).1 ⟨second, again, labels⟩⟩
    exact ⟨rfl, .ability ((listAndCount?_iff digitsEnd).1
      ⟨rest, called, (spaced_symbol_iff (by decide)).1 ⟨first, comma, numbers⟩⟩)⟩
  · rintro ⟨kind, denotes⟩
    cases denotes with
    | ability call =>
      obtain ⟨rest, called, arguments⟩ := (listAndCount?_iff digitsEnd).2 call
      obtain ⟨first, comma, numbers⟩ := (spaced_symbol_iff (by decide)).2 arguments
      obtain ⟨counted, number, labelling⟩ := (takes_number.spaced_iff digitsEnd).2 numbers
      obtain ⟨second, again, labels⟩ := (spaced_symbol_iff (by decide)).2 labelling
      obtain ⟨labelled, found, closed⟩ := (takes_label.spaced_iff halts_label_closed).2 labels
      simp only [ability?, called, comma, number, again, found, close?_eq_some_iff.2 closed,
        Option.bind_eq_bind, Option.bind_some]
    | skill | expertise | passive => cases kind

theorem lastArgumentForm_iff {α : Type} {name : String} (mk : Guid → Nat → Option α → Selector)
    {argument? : List Char → Option (α × List Char)} {piece : α → List Char → Prop}
    {goesOn : Char → Bool} (takes : Takes argument? piece goesOn) (halts : Halts goesOn Closed)
    {selector : Selector} {text : List Char} :
    ((listAndCount? name text).bind fun called =>
        (lastArgument? argument? called.2.2).bind fun value =>
          some (mk called.1 called.2.1 value)) = some selector ↔
      ∃ list count value, selector = mk list count value ∧
        Call name list count (LastArgument piece value) text := by
  have digitsEnd (value : Option α) : Halts isDigit (LastArgument piece value) :=
    halts_lastArgument (fun _ => isDigit_of_isBlank) (by decide) (by decide) value
  simp only [Option.bind_eq_some_iff]
  constructor
  · rintro ⟨⟨list, count, rest⟩, called, value, last, same⟩
    cases same
    exact ⟨list, count, value, rfl, (listAndCount?_iff (digitsEnd value)).1
      ⟨rest, called, (lastArgument?_eq_some_iff takes halts).1 last⟩⟩
  · rintro ⟨list, count, value, rfl, call⟩
    obtain ⟨rest, called, last⟩ := (listAndCount?_iff (digitsEnd value)).2 call
    exact ⟨(list, count, rest), called, value, (lastArgument?_eq_some_iff takes halts).2 last, rfl⟩

theorem skill?_eq_some_iff {selector : Selector} {text : List Char} :
    skill? text = some selector ↔ selector.kind = .skill ∧ Denotes selector text := by
  refine (lastArgumentForm_iff .skill takes_label halts_label_closed).trans ⟨?_, ?_⟩
  · rintro ⟨list, count, label, rfl, call⟩
    exact ⟨rfl, .skill call⟩
  · rintro ⟨kind, denotes⟩
    cases denotes with
    | skill call => exact ⟨_, _, _, rfl, call⟩
    | ability | expertise | passive => cases kind

theorem expertise?_eq_some_iff {selector : Selector} {text : List Char} :
    expertise? text = some selector ↔ selector.kind = .expertise ∧ Denotes selector text := by
  refine (lastArgumentForm_iff .expertise takes_flag (halts_never _)).trans ⟨?_, ?_⟩
  · rintro ⟨list, count, flag, rfl, call⟩
    exact ⟨rfl, .expertise call⟩
  · rintro ⟨kind, denotes⟩
    cases denotes with
    | expertise call => exact ⟨_, _, _, rfl, call⟩
    | ability | skill | passive => cases kind

theorem passive?_eq_some_iff {selector : Selector} {text : List Char} :
    passive? text = some selector ↔ selector.kind = .passive ∧ Denotes selector text := by
  refine (lastArgumentForm_iff .passive takes_label halts_label_closed).trans ⟨?_, ?_⟩
  · rintro ⟨list, count, category, rfl, call⟩
    exact ⟨rfl, .passive call⟩
  · rintro ⟨kind, denotes⟩
    cases denotes with
    | passive call => exact ⟨_, _, _, rfl, call⟩
    | ability | skill | expertise => cases kind

end FeatLoom.Selector
