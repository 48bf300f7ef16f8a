import FeatLoom.Proofs.Package.Change
import FeatLoom.Proofs.Selector.Printing
import FeatLoom.Proofs.Selector.Reading
import FeatLoom.Proofs.Text.Items

/-!
# Chains of selectors

A chain is read piece by piece, and blanks around its pieces and blank pieces among them do not
matter. No text of a selector holds the semicolon that stands between two pieces or has blanks at
its ends, so the selectors that are written into a chain are read from it again. A feat is supported
when each piece of its chain is a choice of abilities.
-/

namespace FeatLoom.Selector

open Text (isBlank items trim)

/-! ## No selector holds the separator -/

theorem not_mem_of_forall₂ {α : Type} {fits : α → Char → Prop} {c : Char} {values : List α}
    {text : List Char} (fit : List.Forall₂ fits values text)
    (never : ∀ value ∈ values, ¬ fits value c) : c ∉ text := by
  induction fit with
  | nil => exact List.not_mem_nil
  | @cons value first values text one _ ih =>
    rw [List.forall_mem_cons] at never
    have differs : c ≠ first := fun same => never.1 (same ▸ one)
    exact List.not_mem_cons_of_ne_of_not_mem differs (ih never.2)

theorem Spaced.not_mem_semicolon {piece next : List Char → Prop} {text : List Char}
    (spaced : Spaced piece next text) (own : ∀ start, piece start → ';' ∉ start)
    (after : ∀ rest, next rest → ';' ∉ rest) : ';' ∉ text := by
  obtain ⟨blanks, start, rest, blank, isPiece, isNext, rfl⟩ := spaced
  have noBlank : ';' ∉ blanks := Text.not_mem_of_blank (by decide) blank
  simp [noBlank, own start isPiece, after rest isNext]

theorem not_mem_of_symbol {c : Char} (other : ';' ≠ c) (piece : List Char)
    (symbol : Symbol c piece) : ';' ∉ piece := by
  rw [Symbol] at symbol
  simp [symbol, other]

theorem HexGroups.not_mem_semicolon {sizes values : List Nat} {text : List Char}
    (groups : HexGroups sizes values text) : ';' ∉ text := by
  have each : ∀ value < 16, ¬ (';' = Nat.digitChar value ∨
      ';' = (Nat.digitChar value).toUpper) := by decide
  have never (value : Nat) : ¬ HexDigit ';' value := fun digit => each value digit.1 digit.2
  have spelled {digits : List Char} {values : List Nat}
      (fit : List.Forall₂ HexDigit digits values) : ';' ∉ digits :=
    not_mem_of_forall₂ fit.flip fun value _ => never value
  induction groups with
  | last fit => exact spelled fit
  | group fit optional _ ih => rcases optional with rfl | rfl <;> simp [spelled fit, ih]

theorem IsNumber.not_mem_semicolon {n : Nat} {piece : List Char} (number : IsNumber n piece) :
    ';' ∉ piece := by
  obtain ⟨-, values, fit, -⟩ := number
  have noDigit : Text.digitValue? ';' = none := by decide
  exact not_mem_of_forall₂ fit.flip fun value _ => by simp [noDigit]

theorem IsLabel.not_mem_semicolon {label : String} {piece : List Char}
    (named : IsLabel label piece) : ';' ∉ piece := by
  have noLabel : ¬ LabelChar ';' := by
    unfold LabelChar
    decide
  exact fun member => noLabel (named.2.1 ';' member)

theorem IsFlag.not_mem_semicolon {flag : Bool} {piece : List Char} (isFlag : IsFlag flag piece) :
    ';' ∉ piece := by
  have each : (if flag then "true" else "false").toList.all (·.toLower != ';') = true := by
    cases flag <;> decide
  refine not_mem_of_forall₂ isFlag fun letter member fits => ?_
  have other := List.all_eq_true.1 each letter member
  rcases fits with same | ⟨-, long⟩
  · rw [← same] at other
    exact absurd other (by decide)
  · exact absurd long (by decide)

theorem Closed.not_mem_semicolon {text : List Char} (closed : Closed text) : ';' ∉ text :=
  Spaced.not_mem_semicolon closed (not_mem_of_symbol (by decide)) fun rest none => by simp [none]

theorem LastArgument.not_mem_semicolon {α : Type} {argument : α → List Char → Prop}
    {value : Option α} {text : List Char} (last : LastArgument argument value text)
    (own : ∀ one piece, argument one piece → ';' ∉ piece) : ';' ∉ text := by
  cases value with
  | none => exact Closed.not_mem_semicolon last
  | some one =>
    refine Spaced.not_mem_semicolon last (not_mem_of_symbol (by decide)) fun rest spaced => ?_
    exact spaced.not_mem_semicolon (own one) fun _ => Closed.not_mem_semicolon

theorem Call.not_mem_semicolon {name : String} {list : Guid} {count : Nat}
    {next : List Char → Prop} {text : List Char} (call : Call name list count next text)
    (known : name.toList.all (·.toLower ∈ letters) = true)
    (after : ∀ rest, next rest → ';' ∉ rest) : ';' ∉ text := by
  obtain ⟨start, rest, spelled, rfl, bracket⟩ := call
  have noStart : ';' ∉ start := not_mem_of_forall₂ spelled fun letter member fits => by
    have letterKnown := List.all_eq_true.1 known letter member
    have named := (fits.known (by simpa using letterKnown)).1
    exact absurd named (by decide)
  have noRest : ';' ∉ rest := by
    have noList (piece : List Char) (isGuid : IsGuid list piece) : ';' ∉ piece := by
      obtain ⟨_, groups, _⟩ := isGuid
      exact groups.not_mem_semicolon
    refine bracket.not_mem_semicolon (not_mem_of_symbol (by decide)) fun rest first => ?_
    refine first.not_mem_semicolon noList fun rest comma => ?_
    refine comma.not_mem_semicolon (not_mem_of_symbol (by decide)) fun rest number => ?_
    exact number.not_mem_semicolon (fun _ => IsNumber.not_mem_semicolon) after
  simp [noStart, noRest]

theorem Denotes.not_mem_semicolon {selector : Selector} {text : List Char}
    (denotes : Denotes selector text) : ';' ∉ text := by
  cases denotes with
  | ability call =>
    refine call.not_mem_semicolon (by decide) fun rest comma => ?_
    refine comma.not_mem_semicolon (not_mem_of_symbol (by decide)) fun rest number => ?_
    refine number.not_mem_semicolon (fun _ => IsNumber.not_mem_semicolon) fun rest comma => ?_
    refine comma.not_mem_semicolon (not_mem_of_symbol (by decide)) fun rest label => ?_
    exact label.not_mem_semicolon (fun _ => IsLabel.not_mem_semicolon)
      fun _ => Closed.not_mem_semicolon
  | skill call | passive call =>
    exact call.not_mem_semicolon (by decide) fun _ last =>
      last.not_mem_semicolon fun _ _ => IsLabel.not_mem_semicolon
  | expertise call =>
    exact call.not_mem_semicolon (by decide) fun _ last =>
      last.not_mem_semicolon fun _ _ => IsFlag.not_mem_semicolon

/-! ## No selector has blanks at its ends -/

def EndsCall (text : List Char) : Prop := ∃ inner, text = inner ++ [')']

theorem Spaced.endsCall {piece next : List Char → Prop} {text : List Char}
    (spaced : Spaced piece next text) (after : ∀ rest, next rest → EndsCall rest) :
    EndsCall text := by
  obtain ⟨blanks, start, rest, -, -, isNext, rfl⟩ := spaced
  obtain ⟨inner, rfl⟩ := after rest isNext
  exact ⟨blanks ++ (start ++ inner), by simp⟩

theorem Closed.endsCall {text : List Char} (closed : Closed text) : EndsCall text := by
  obtain ⟨blanks, start, rest, -, rfl, rfl, rfl⟩ := closed
  exact ⟨blanks, by simp⟩

theorem LastArgument.endsCall {α : Type} {argument : α → List Char → Prop} {value : Option α}
    {text : List Char} (last : LastArgument argument value text) : EndsCall text := by
  cases value with
  | none => exact Closed.endsCall last
  | some one => exact Spaced.endsCall last fun _ spaced => spaced.endsCall fun _ => Closed.endsCall

theorem Call.trim_eq {name : String} {list : Guid} {count : Nat} {next : List Char → Prop}
    {text : List Char} (call : Call name list count next text) (named : name.toList ≠ [])
    (known : name.toList.all (·.toLower ∈ letters) = true)
    (after : ∀ rest, next rest → EndsCall rest) : trim text = text := by
  obtain ⟨start, rest, spelled, rfl, bracket⟩ := call
  have ends : EndsCall rest := by
    refine bracket.endsCall fun _ list => list.endsCall fun _ comma => ?_
    exact comma.endsCall fun _ number => number.endsCall after
  obtain ⟨inner, rfl⟩ := ends
  generalize name.toList = word at spelled named known
  cases spelled with
  | nil => exact absurd rfl named
  | @cons letter first word others fits _ =>
    rw [List.all_cons, Bool.and_eq_true, decide_eq_true_eq] at known
    have seen : isBlank first = false := by
      by_contra blank
      have noName := isNameChar_of_isBlank (Bool.not_eq_false _ ▸ blank)
      cases (fits.known known.1).1.symm.trans noName
    rw [List.cons_append, ← List.append_assoc]
    exact Text.trim_of_visible seen (by decide) _

theorem Denotes.trim_eq {selector : Selector} {text : List Char} (denotes : Denotes selector text) :
    trim text = text := by
  cases denotes with
  | ability call =>
    refine call.trim_eq (by decide) (by decide) fun _ comma => comma.endsCall fun _ number => ?_
    exact number.endsCall fun _ comma => comma.endsCall fun _ label =>
      label.endsCall fun _ => Closed.endsCall
  | skill call | expertise call | passive call =>
    exact call.trim_eq (by decide) (by decide) fun _ => LastArgument.endsCall

/-! ## Pieces of a chain -/

theorem readChain_eq (text : String) : readChain (some text) =
    (items [';'] text.toList).map fun item => read (String.ofList item) := by
  rw [readChain, Text.itemsOf, List.map_map]
  rfl

theorem readChain_append (first second : String) :
    readChain (some (first ++ ";" ++ second)) =
      readChain (some first) ++ readChain (some second) := by
  have split : (first ++ ";" ++ second).toList = first.toList ++ ';' :: second.toList := by simp
  rw [readChain_eq, split, Text.items_append, List.map_append, ← readChain_eq, ← readChain_eq]

theorem readChain_intercalate (texts : List String) :
    readChain (some (";".intercalate texts)) = texts.flatMap fun text => readChain (some text) := by
  induction texts with
  | nil => decide
  | cons text texts ih =>
    cases texts with
    | nil => rw [String.intercalate_singleton, List.flatMap_singleton]
    | cons next others =>
      rw [String.intercalate_cons_cons, readChain_append, ih]
      rfl

/-- A chain with blanks put around pieces and with blank pieces put in. -/
inductive Padded : List String → List String → Prop where
  | nil : Padded [] []
  | piece {before after : String} (text : String) {texts padded : List String}
      (blankBefore : ∀ c ∈ before.toList, isBlank c = true)
      (blankAfter : ∀ c ∈ after.toList, isBlank c = true) (others : Padded texts padded) :
      Padded (text :: texts) ((before ++ text ++ after) :: padded)
  | blank {text : String} {texts padded : List String}
      (blank : ∀ c ∈ text.toList, isBlank c = true) (others : Padded texts padded) :
      Padded texts (text :: padded)

theorem Padded.readChain_eq {texts padded : List String} (pad : Padded texts padded) :
    readChain (some (";".intercalate padded)) = readChain (some (";".intercalate texts)) := by
  rw [readChain_intercalate, readChain_intercalate]
  induction pad with
  | nil => rfl
  | @piece before after text texts padded blankBefore blankAfter _ ih =>
    have split : (before ++ text ++ after).toList =
        before.toList ++ (text.toList ++ after.toList) := by simp
    have same : readChain (some (before ++ text ++ after)) = readChain (some text) := by
      rw [Selector.readChain_eq, split, Text.items_padded (by decide) blankBefore blankAfter,
        ← Selector.readChain_eq]
    rw [List.flatMap_cons, List.flatMap_cons, same, ih]
  | @blank text texts padded blank _ ih =>
    have nothing : readChain (some text) = [] := by
      rw [Selector.readChain_eq, Text.items_of_blank (by decide) blank, List.map_nil]
    rw [List.flatMap_cons, nothing, List.nil_append, ih]

/-! ## Reading back what was written -/

theorem Denotes.read_eq {selector : Selector} {text : String}
    (denotes : Denotes selector text.toList) : read text = selector := by
  rw [read, denotes.trim_eq, ofChars?_eq_some_iff.2 denotes, Option.getD_some]

theorem Denotes.readChain_eq {selector : Selector} {text : String}
    (denotes : Denotes selector text.toList) : readChain (some text) = [selector] := by
  have some : text.toList ≠ [] := by
    intro none
    have letters := denotes.letters_eq
    rw [none] at letters
    have named : ∀ kind ∈ formKinds, [] ≠ functionLetters kind := by decide
    exact named _ denotes.kind_mem letters
  rw [Selector.readChain_eq, Text.items_of_unseparated denotes.not_mem_semicolon, denotes.trim_eq,
    if_neg some, List.map_singleton, String.ofList_toList, denotes.read_eq]

theorem readChain_of_denotes {selectors : List Selector} {texts : List String}
    (denote : List.Forall₂ (fun selector text => Denotes selector text.toList) selectors texts) :
    readChain (some (";".intercalate texts)) = selectors := by
  rw [readChain_intercalate]
  induction denote with
  | nil => rfl
  | cons one _ ih => rw [List.flatMap_cons, one.readChain_eq, ih, List.singleton_append]

theorem exists_toText?_all {selectors : List Selector}
    (writable : ∀ selector ∈ selectors, selector.IsWritable) :
    ∃ texts, selectors.map toText? = texts.map some ∧
      List.Forall₂ (fun selector text => Denotes selector text.toList) selectors texts := by
  induction selectors with
  | nil => exact ⟨[], rfl, .nil⟩
  | cons selector selectors ih =>
    rw [List.forall_mem_cons] at writable
    obtain ⟨text, written, one⟩ := exists_toText? writable.1
    obtain ⟨texts, all, others⟩ := ih writable.2
    exact ⟨text :: texts, by rw [List.map_cons, written, all, List.map_cons], .cons one others⟩

/-! ## Supported feats -/

theorem isAbility_read_iff (text : String) : (read text).isAbility = true ↔
    ∃ choice, Denotes (.ability choice) (trim text.toList) := by
  rw [read]
  constructor
  · intro isAbility
    cases found : ofChars? (trim text.toList) with
    | none => rw [found] at isAbility; cases isAbility
    | some selector =>
      rw [found] at isAbility
      cases selector with
      | ability choice => exact ⟨choice, ofChars?_eq_some_iff.1 found⟩
      | skill | expertise | passive | spell | unknown => cases isAbility
  · rintro ⟨choice, denotes⟩
    rw [ofChars?_eq_some_iff.2 denotes]
    rfl

theorem all_isAbility_readChain_iff (text : String) :
    (∀ selector ∈ readChain (some text), selector.isAbility = true) ↔
      ∀ piece ∈ Text.splitOn [';'] text.toList, trim piece ≠ [] →
        ∃ choice, Denotes (.ability choice) (trim piece) := by
  have item (piece : List Char) : (read (String.ofList (trim piece))).isAbility = true ↔
      ∃ choice, Denotes (.ability choice) (trim piece) := by
    rw [isAbility_read_iff, String.toList_ofList, Text.trim_trim]
  rw [readChain_eq, List.forall_mem_map]
  constructor
  · intro all piece member some
    exact (item piece).1 (all _ (Text.mem_items_iff.2 ⟨piece, member, rfl, some⟩))
  · intro all text member
    obtain ⟨piece, isPiece, rfl, some⟩ := Text.mem_items_iff.1 member
    exact (item piece).2 (all piece isPiece some)

theorem isSupported_iff {node : Resource.Node} {feat : Feat} (read : Feat.ofNode node = .ok feat) :
    feat.isSupported = true ↔ ∀ text ∈ node.text? "Selectors",
      ∀ piece ∈ Text.splitOn [';'] text.toList, trim piece ≠ [] →
        ∃ choice, Denotes (.ability choice) (trim piece) := by
  obtain ⟨id, -, read⟩ := exists_ok_of_bind read
  obtain ⟨name, -, read⟩ := exists_ok_of_bind read
  cases read
  rw [Feat.isSupported, List.all_eq_true]
  cases node.text? "Selectors" with
  | none => simp [readChain]
  | some text => simpa using all_isAbility_readChain_iff text

/-! ## The whole chain -/

/-- A chain of two chains is read as the first chain and then the second one, blanks around pieces
and blank pieces change nothing, and selectors that are written into a chain are read from it again.
A feat is supported exactly when each piece of its chain is blank or a choice of abilities. -/
theorem readChain_piece_by_piece :
    (∀ first second, readChain (some (first ++ ";" ++ second)) =
        readChain (some first) ++ readChain (some second)) ∧
      (∀ texts padded, Padded texts padded →
        readChain (some (";".intercalate padded)) = readChain (some (";".intercalate texts))) ∧
      (∀ selectors : List Selector, (∀ selector ∈ selectors, selector.IsWritable) →
        ∃ texts, selectors.map toText? = texts.map some ∧
          readChain (some (";".intercalate texts)) = selectors) ∧
      ∀ node feat, Feat.ofNode node = .ok feat →
        (feat.isSupported = true ↔ ∀ text ∈ node.text? "Selectors",
          ∀ piece ∈ Text.splitOn [';'] text.toList, trim piece ≠ [] →
            ∃ choice, Denotes (.ability choice) (trim piece)) := by
  refine ⟨readChain_append, fun _ _ pad => pad.readChain_eq, fun selectors writable => ?_,
    fun _ _ read => isSupported_iff read⟩
  obtain ⟨texts, written, denote⟩ := exists_toText?_all writable
  exact ⟨texts, written, readChain_of_denotes denote⟩

theorem readChain_piece_by_piece_two :
    let selectors := [skill (Guid.ofNat 2) 1 none, passive (Guid.ofNat 4) 0 (some "Pact_1")]
    (∀ selector ∈ selectors, selector.IsWritable) ∧
      ∃ texts, selectors.map toText? = texts.map some ∧
        readChain (some (";".intercalate texts)) = selectors := by
  intro selectors
  have labelled : IsLabel "Pact_1" "Pact_1".toList := by
    have all : "Pact_1".toList.all isLabelChar = true := by decide
    exact ⟨by decide, fun c member => isLabelChar_iff.1 (List.all_eq_true.1 all c member), by decide⟩
  have writable : ∀ selector ∈ selectors, selector.IsWritable := by
    simpa [selectors, IsWritable] using labelled
  exact ⟨writable, readChain_piece_by_piece.2.2.1 selectors writable⟩

example : readChain (some " ;SelectSkills(00000000-0000-0000-0000-00000000000a,2) ;") =
    [skill (Guid.ofNat 10) 2 none] := by decide

end FeatLoom.Selector
