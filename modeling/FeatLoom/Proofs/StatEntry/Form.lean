import FeatLoom.Proofs.StatEntry.Grammar
import FeatLoom.Proofs.Text.Pieces

/-!
# Reading the forms of stat lines

Lines are read from their ends, so every piece is looked for in the reversed line. The character at
the end of the word, or the quote that stands there on a line of data, tells the forms apart, so a
line has one form at most.
-/

namespace FeatLoom.StatLine

open Text (isBlank)

def mark? (reversed : List Char) : Option Char :=
  (quotedAtEnd? reversed).bind fun found => (found.2.dropWhile isBlank).head?

/-! ## Pieces -/

theorem dropWhile_isBlank {blanks rest : List Char} {c : Char} (blank : AreBlank blanks)
    (visible : isBlank c = false) : (blanks ++ c :: rest).dropWhile isBlank = c :: rest := by
  rw [List.dropWhile_append_of_pos blank, List.dropWhile_cons_of_neg (by simp [visible])]

theorem quotedAtEnd?_eq_some_iff {reversed text before : List Char} :
    quotedAtEnd? reversed = some (text, before) ↔ ∃ after, AreBlank after ∧ IsQuotable text ∧
      reversed = after ++ '"' :: (text.reverse ++ '"' :: before) := by
  constructor
  · intro found
    unfold quotedAtEnd? at found
    split at found
    · next inside opened =>
      split at found
      · next c shown x rest taken left =>
        cases found
        have quote : x = '"' := by
          have stops := List.head?_dropWhile_not (fun d : Char => decide (d ≠ '"')) inside
          rw [left, List.head?_cons] at stops
          simpa using stops
        have unquoted : '"' ∉ (c :: shown).reverse := by
          rw [List.mem_reverse, ← taken]
          intro member
          simpa using List.mem_takeWhile_imp member
        have whole : inside = (c :: shown) ++ '"' :: before := by
          rw [← quote, ← left, ← taken, List.takeWhile_append_dropWhile]
        refine ⟨reversed.takeWhile isBlank, fun d member => List.mem_takeWhile_imp member,
          ⟨by simp, unquoted⟩, ?_⟩
        rw [List.reverse_reverse, ← whole, ← opened, List.takeWhile_append_dropWhile]
      · cases found
    · cases found
  · rintro ⟨after, blank, ⟨some, unquoted⟩, rfl⟩
    have inside : ∀ c ∈ text.reverse, decide (c ≠ '"') = true := fun c member =>
      decide_eq_true fun same => unquoted (same ▸ List.mem_reverse.1 member)
    have taken : (text.reverse ++ '"' :: before).takeWhile (· ≠ '"') = text.reverse := by
      rw [List.takeWhile_append_of_pos inside, List.takeWhile_cons_of_neg (by decide),
        List.append_nil]
    have left : (text.reverse ++ '"' :: before).dropWhile (· ≠ '"') = '"' :: before := by
      rw [List.dropWhile_append_of_pos inside, List.dropWhile_cons_of_neg (by decide)]
    obtain ⟨c, shown, same⟩ := List.exists_cons_of_ne_nil (mt List.reverse_eq_nil_iff.1 some)
    unfold quotedAtEnd?
    rw [dropWhile_isBlank blank (by decide)]
    simp only [taken, left]
    rw [same]
    dsimp only
    rw [← same, List.reverse_reverse]

theorem blanksAtEnd?_eq_some_iff {reversed before : List Char} :
    blanksAtEnd? reversed = some before ↔ ∃ gap, IsGap gap ∧ reversed = gap ++ before ∧
      ∀ c ∈ before.head?, isBlank c = false := by
  constructor
  · intro found
    cases reversed with
    | nil => cases found
    | cons c rest =>
      rw [blanksAtEnd?, Option.ite_none_right_eq_some, Option.some_inj] at found
      obtain ⟨blank, rfl⟩ := found
      refine ⟨c :: rest.takeWhile isBlank, ⟨by simp, ?_⟩, ?_, ?_⟩
      · exact List.forall_mem_cons.2 ⟨blank, fun d member => List.mem_takeWhile_imp member⟩
      · rw [List.cons_append, List.takeWhile_append_dropWhile]
      · intro d first
        have visible := List.head?_dropWhile_not isBlank rest
        rw [first] at visible
        simpa using visible
  · rintro ⟨gap, ⟨some, blank⟩, rfl, visible⟩
    obtain ⟨c, gap, rfl⟩ := List.exists_cons_of_ne_nil some
    obtain ⟨first, others⟩ := List.forall_mem_cons.1 blank
    rw [List.cons_append, blanksAtEnd?, if_pos first, List.dropWhile_append_of_pos others]
    cases before with
    | nil => rfl
    | cons d before => rw [List.dropWhile_cons_of_neg (by simp [visible d rfl])]

theorem wordAtEnd?_eq_some_iff {word : String} {reversed before : List Char} :
    wordAtEnd? word reversed = some before ↔ reversed = word.toList.reverse ++ before := by
  rw [wordAtEnd?, Option.ite_none_right_eq_some, List.isPrefixOf_iff_prefix, Option.some_inj]
  have size : word.length = word.toList.reverse.length := by
    rw [List.length_reverse, String.length_toList]
  constructor
  · rintro ⟨⟨rest, rfl⟩, rfl⟩
    rw [size, List.drop_left]
  · rintro rfl
    exact ⟨List.prefix_append _ _, by rw [size, List.drop_left]⟩

section Word

variable {word : String} (last : Char) (ends : word.toList.getLast? = some last)
  (visible : isBlank last = false) {reversed text start : List Char}

include ends visible

theorem keywordAtEnd?_eq_some_iff : keywordAtEnd? word reversed = some start ↔
    ∃ gap, IsGap gap ∧ reversed = gap ++ (word.toList.reverse ++ start) := by
  rw [keywordAtEnd?, Option.bind_eq_some_iff]
  constructor
  · rintro ⟨rest, blanks, found⟩
    obtain ⟨gap, apart, rfl, _⟩ := blanksAtEnd?_eq_some_iff.1 blanks
    exact ⟨gap, apart, by rw [wordAtEnd?_eq_some_iff.1 found]⟩
  · rintro ⟨gap, apart, rfl⟩
    refine ⟨word.toList.reverse ++ start, blanksAtEnd?_eq_some_iff.2 ⟨gap, apart, rfl, ?_⟩,
      wordAtEnd?_eq_some_iff.2 rfl⟩
    rw [List.head?_append, List.head?_reverse, ends]
    intro c first
    obtain rfl : last = c := Option.some.inj first
    exact visible

theorem exists_phrase_iff : (∃ middle, quotedAtEnd? reversed = some (text, middle) ∧
      keywordAtEnd? word middle = some start) ↔
    ∃ after line, AreBlank after ∧ Phrase word text after line ∧
      reversed.reverse = start.reverse ++ line := by
  simp only [keywordAtEnd?_eq_some_iff last ends visible, quotedAtEnd?_eq_some_iff]
  constructor
  · rintro ⟨_, ⟨after, blank, given, rfl⟩, gap, apart, rfl⟩
    exact ⟨after.reverse, _, blank.reverse, ⟨gap.reverse, apart.reverse, given, rfl⟩,
      by simp [inQuotes]⟩
  · rintro ⟨after, _, blank, ⟨gap, apart, given, rfl⟩, whole⟩
    refine ⟨_, ⟨after.reverse, blank.reverse, given, ?_⟩, gap.reverse, apart.reverse, rfl⟩
    rw [← List.reverse_reverse reversed, whole]
    simp [inQuotes]

theorem phraseForm_iff (mk : String → StatLine) {line : List Char} {said : StatLine} :
    (∃ found, quotedAtEnd? line.reverse = some found ∧ ∃ start,
      keywordAtEnd? word found.2 = some start ∧ some (mk (String.ofList found.1)) = some said) ↔
      ∃ text before after phrased, said = mk (String.ofList text) ∧ line = before ++ phrased ∧
        AreBlank after ∧ Phrase word text after phrased := by
  constructor
  · rintro ⟨⟨text, middle⟩, found, start, named, same⟩
    cases same
    obtain ⟨after, phrased, blank, phrase, whole⟩ :=
      (exists_phrase_iff last ends visible).1 ⟨middle, found, named⟩
    rw [List.reverse_reverse] at whole
    exact ⟨text, start.reverse, after, phrased, rfl, whole, blank, phrase⟩
  · rintro ⟨text, before, after, phrased, rfl, rfl, blank, phrase⟩
    have whole : (before ++ phrased).reverse.reverse = before.reverse.reverse ++ phrased := by simp
    obtain ⟨middle, found, named⟩ := (exists_phrase_iff last ends visible).2
      ⟨after, phrased, blank, phrase, whole⟩
    exact ⟨(text, middle), found, before.reverse, named, rfl⟩

/-- The phrase shows in the last letter of its word, which stands before the quoted text. -/
theorem mark?_of_phrase {middle : List Char} (found : quotedAtEnd? reversed = some (text, middle))
    (named : keywordAtEnd? word middle = some start) : mark? reversed = some last := by
  obtain ⟨gap, apart, rfl⟩ := (keywordAtEnd?_eq_some_iff last ends visible).1 named
  rw [mark?, found, Option.bind_some, List.dropWhile_append_of_pos apart.2]
  have first : (word.toList.reverse ++ start).head? = some last := by
    rw [List.head?_append, List.head?_reverse, ends]
    rfl
  cases rest : word.toList.reverse ++ start with
  | nil =>
    rw [rest] at first
    cases first
  | cons c others =>
    rw [rest] at first
    cases first
    rw [List.dropWhile_cons_of_neg (by simp [visible])]
    rfl

end Word

/-! ## Forms -/

variable {line : List Char} {said : StatLine}

theorem header?_eq_some_iff : header? line.reverse = some said ↔
    (∃ name, said = .header name) ∧ HasForm said line := by
  simp only [header?, Option.bind_eq_bind, Option.bind_eq_some_iff]
  constructor
  · rintro ⟨⟨text, middle⟩, found, start, named, before, new, same⟩
    rw [Option.ite_none_right_eq_some, List.isEmpty_iff] at same
    obtain ⟨rfl, same⟩ := same
    cases same
    obtain ⟨after, phrased, blank, phrase, whole⟩ :=
      (exists_phrase_iff 'y' (by decide) (by decide)).1 ⟨middle, found, named⟩
    obtain ⟨gap, apart, rfl⟩ := (keywordAtEnd?_eq_some_iff 'w' (by decide) (by decide)).1 new
    refine ⟨⟨_, rfl⟩, ?_⟩
    rw [List.reverse_reverse] at whole
    rw [whole]
    simpa using HasForm.header apart.reverse blank phrase
  · rintro ⟨⟨title, rfl⟩, formed⟩
    cases formed with
    | @header text gap after phrased apart blank phrase =>
      have start : keywordAtEnd? "new" (gap.reverse ++ "new".toList.reverse) = some [] :=
        (keywordAtEnd?_eq_some_iff 'w' (by decide) (by decide)).2
          ⟨gap.reverse, apart.reverse, by rw [List.append_nil]⟩
      have whole : ("new".toList ++ (gap ++ phrased)).reverse.reverse =
          (gap.reverse ++ "new".toList.reverse).reverse ++ phrased := by simp
      obtain ⟨middle, found, named⟩ := (exists_phrase_iff 'y' (by decide) (by decide)).2
        ⟨after, phrased, blank, phrase, whole⟩
      exact ⟨(text, middle), found, _, named, [], start, rfl⟩

theorem parent?_eq_some_iff : parent? line.reverse = some said ↔
    (∃ name, said = .parent name) ∧ HasForm said line := by
  simp only [parent?, Option.bind_eq_bind, Option.bind_eq_some_iff]
  refine (phraseForm_iff 'g' (by decide) (by decide) .parent).trans ⟨?_, ?_⟩
  · rintro ⟨text, before, after, phrased, rfl, rfl, blank, phrase⟩
    exact ⟨⟨_, rfl⟩, .parent blank phrase⟩
  · rintro ⟨⟨name, rfl⟩, formed⟩
    cases formed with
    | parent blank phrase => exact ⟨_, _, _, _, rfl, rfl, blank, phrase⟩

theorem entryType?_eq_some_iff : entryType? line.reverse = some said ↔
    (∃ name, said = .entryType name) ∧ HasForm said line := by
  simp only [entryType?, Option.bind_eq_bind, Option.bind_eq_some_iff]
  refine (phraseForm_iff 'e' (by decide) (by decide) .entryType).trans ⟨?_, ?_⟩
  · rintro ⟨text, before, after, phrased, rfl, rfl, blank, phrase⟩
    exact ⟨⟨_, rfl⟩, .entryType blank phrase⟩
  · rintro ⟨⟨name, rfl⟩, formed⟩
    cases formed with
    | entryType blank phrase => exact ⟨_, _, _, _, rfl, rfl, blank, phrase⟩

theorem data?_eq_some_iff_parts : data? line.reverse = some said ↔
    ∃ values middle rest key before start, quotedAtEnd? line.reverse = some (values, middle) ∧
      blanksAtEnd? middle = some rest ∧ rest.head? = some '"' ∧
      quotedAtEnd? rest = some (key, before) ∧ keywordAtEnd? "data" before = some start ∧
      said = .data (String.ofList key) ((values.splitOn ';').map String.ofList) := by
  simp only [data?, Option.bind_eq_bind, Option.bind_eq_some_iff, Text.splitOn_singleton]
  constructor
  · rintro ⟨⟨values, middle⟩, found, rest, blanks, read⟩
    split at read
    · next others =>
      simp only [Option.bind_eq_some_iff] at read
      obtain ⟨⟨key, before⟩, keyed, start, named, same⟩ := read
      cases same
      exact ⟨values, middle, _, key, before, start, found, blanks, rfl, keyed, named, rfl⟩
    · cases read
  · rintro ⟨values, middle, rest, key, before, start, found, blanks, first, keyed, named, rfl⟩
    obtain ⟨others, rfl⟩ := List.head?_eq_some_iff.1 first
    refine ⟨(values, middle), found, _, blanks, ?_⟩
    simp only [keyed, named, Option.bind_some]

theorem data?_eq_some_iff : data? line.reverse = some said ↔
    (∃ key values, said = .data key values) ∧ HasForm said line := by
  rw [data?_eq_some_iff_parts]
  constructor
  · rintro ⟨values, middle, rest, key, before, start, found, blanks, -, keyed, named, rfl⟩
    obtain ⟨after, blank, given, whole⟩ := quotedAtEnd?_eq_some_iff.1 found
    obtain ⟨gap, apart, rfl, -⟩ := blanksAtEnd?_eq_some_iff.1 blanks
    obtain ⟨between, phrased, blankBetween, phrase, split⟩ :=
      (exists_phrase_iff 'a' (by decide) (by decide)).1 ⟨before, keyed, named⟩
    refine ⟨⟨_, _, rfl⟩, ?_⟩
    have wide : IsGap (between ++ gap.reverse) :=
      ⟨by simp [apart.1], blankBetween.append apart.2.reverse⟩
    have extended := phrase.append (gap.reverse ++ (inQuotes values ++ after.reverse))
    rw [← List.append_assoc] at extended
    have forward : line = start.reverse ++
        (phrased ++ (gap.reverse ++ (inQuotes values ++ after.reverse))) := by
      rw [← List.append_assoc start.reverse, ← split, ← List.reverse_reverse line, whole]
      simp [inQuotes]
    exact forward ▸ .data wide given blank.reverse extended
  · rintro ⟨⟨key, values, rfl⟩, formed⟩
    cases formed with
    | @data key values before gap after phrased apart given blank phrase =>
      obtain ⟨inner, innerApart, keyGiven, rfl⟩ := phrase
      let keyed := "data".toList ++ (inner ++ (inQuotes key ++ []))
      let rest := (before ++ keyed).reverse
      have first : rest.head? = some '"' := by simp [rest, keyed, inQuotes]
      have phrase : Phrase "data" key [] keyed := ⟨inner, innerApart, keyGiven, rfl⟩
      have whole : rest.reverse = before.reverse.reverse ++ keyed := by simp [rest]
      obtain ⟨middle, found, named⟩ := (exists_phrase_iff 'a' (by decide) (by decide)).2
        ⟨[], keyed, areBlank_nil, phrase, whole⟩
      have blanks : blanksAtEnd? (gap.reverse ++ rest) = some rest :=
        blanksAtEnd?_eq_some_iff.2 ⟨gap.reverse, apart.reverse, rfl, by simp [first, isBlank]⟩
      refine ⟨values, gap.reverse ++ rest, rest, key, middle, before.reverse, ?_, blanks, first,
        found, named, rfl⟩
      refine quotedAtEnd?_eq_some_iff.2 ⟨after.reverse, blank.reverse, given, ?_⟩
      simp [rest, keyed, inQuotes]

/-! ## Lines -/

theorem mark?_of_header (found : header? line.reverse = some said) :
    mark? line.reverse = some 'y' := by
  simp only [header?, Option.bind_eq_bind, Option.bind_eq_some_iff] at found
  obtain ⟨⟨text, middle⟩, quoted, start, named, -⟩ := found
  exact mark?_of_phrase 'y' (by decide) (by decide) quoted named

theorem mark?_of_parent (found : parent? line.reverse = some said) :
    mark? line.reverse = some 'g' := by
  simp only [parent?, Option.bind_eq_bind, Option.bind_eq_some_iff] at found
  obtain ⟨⟨text, middle⟩, quoted, start, named, -⟩ := found
  exact mark?_of_phrase 'g' (by decide) (by decide) quoted named

theorem mark?_of_entryType (found : entryType? line.reverse = some said) :
    mark? line.reverse = some 'e' := by
  simp only [entryType?, Option.bind_eq_bind, Option.bind_eq_some_iff] at found
  obtain ⟨⟨text, middle⟩, quoted, start, named, -⟩ := found
  exact mark?_of_phrase 'e' (by decide) (by decide) quoted named

theorem mark?_of_data (found : data? line.reverse = some said) :
    mark? line.reverse = some '"' := by
  obtain ⟨values, middle, rest, key, before, start, quoted, blanks, first, -⟩ :=
    data?_eq_some_iff_parts.1 found
  obtain ⟨gap, apart, rfl, -⟩ := blanksAtEnd?_eq_some_iff.1 blanks
  obtain ⟨others, rfl⟩ := List.head?_eq_some_iff.1 first
  rw [mark?, quoted, Option.bind_some, dropWhile_isBlank apart.2 (by decide)]
  rfl

theorem HasForm.read_eq (formed : HasForm said line) : read line = said := by
  have none {reader : Option StatLine} {own other : Char} (different : own ≠ other)
      (seen : mark? line.reverse = some own)
      (shows : ∀ found, reader = some found → mark? line.reverse = some other) :
      reader = Option.none := by
    rw [Option.eq_none_iff_forall_ne_some]
    intro found present
    exact different (Option.some.inj (seen.symm.trans (shows found present)))
  cases said with
  | header name =>
    have found := header?_eq_some_iff.2 ⟨⟨name, rfl⟩, formed⟩
    rw [read, found]
    rfl
  | parent name =>
    have found := parent?_eq_some_iff.2 ⟨⟨name, rfl⟩, formed⟩
    have seen := mark?_of_parent found
    rw [read, found, none (by decide) seen fun _ => mark?_of_header]
    rfl
  | entryType name =>
    have found := entryType?_eq_some_iff.2 ⟨⟨name, rfl⟩, formed⟩
    have seen := mark?_of_entryType found
    rw [read, found, none (by decide) seen fun _ => mark?_of_header,
      none (by decide) seen fun _ => mark?_of_parent]
    rfl
  | data key values =>
    have found := data?_eq_some_iff.2 ⟨⟨key, values, rfl⟩, formed⟩
    have seen := mark?_of_data found
    rw [read, found, none (by decide) seen fun _ => mark?_of_header,
      none (by decide) seen fun _ => mark?_of_parent,
      none (by decide) seen fun _ => mark?_of_entryType]
    rfl
  | other => cases formed

theorem hasForm_read (some : read line ≠ .other) : HasForm (read line) line := by
  have whole : read line = ((header? line.reverse).or <| (parent? line.reverse).or <|
      (entryType? line.reverse).or (data? line.reverse)).getD .other := rfl
  cases header : header? line.reverse with
  | some said =>
    rw [whole, header]
    exact (header?_eq_some_iff.1 header).2
  | none =>
    cases parent : parent? line.reverse with
    | some said =>
      rw [whole, header, parent]
      exact (parent?_eq_some_iff.1 parent).2
    | none =>
      cases entryType : entryType? line.reverse with
      | some said =>
        rw [whole, header, parent, entryType]
        exact (entryType?_eq_some_iff.1 entryType).2
      | none =>
        cases data : data? line.reverse with
        | some said =>
          rw [whole, header, parent, entryType, data]
          exact (data?_eq_some_iff.1 data).2
        | none =>
          have silent : read line = .other := by
            rw [whole, header, parent, entryType, data]
            rfl
          exact absurd silent some

/-- Every line means one thing, which is what is read. -/
theorem means_iff : Means line said ↔ read line = said := by
  constructor
  · intro means
    obtain formed | ⟨rfl, formless⟩ := means
    · exact formed.read_eq
    · by_contra some
      exact formless _ (hasForm_read some)
  · rintro rfl
    by_cases other : read line = .other
    · refine .inr ⟨other, fun form formed => ?_⟩
      have same := formed.read_eq
      rw [other] at same
      subst same
      cases formed
    · exact .inl (hasForm_read other)

theorem HasForm.quote_mem (formed : HasForm said line) : '"' ∈ line := by
  have inPhrase {word : String} {text rest phrased : List Char}
      (phrase : Phrase word text rest phrased) : '"' ∈ phrased := by
    obtain ⟨gap, -, -, rfl⟩ := phrase
    simp [inQuotes]
  cases formed with
  | header _ _ phrase =>
    exact List.mem_append_right _ (List.mem_append_right _ (inPhrase phrase))
  | parent _ phrase | entryType _ phrase | data _ _ _ phrase =>
    exact List.mem_append_right _ (inPhrase phrase)

theorem read_of_blank (blank : AreBlank line) : read line = .other := by
  by_contra some
  have quote : isBlank '"' = true := blank _ (hasForm_read some).quote_mem
  exact absurd quote (by decide)

end FeatLoom.StatLine
