import FeatLoom.Proofs.StatEntry.Form
import FeatLoom.Proofs.StatEntry.Recovery
import FeatLoom.Proofs.Text.Lines

/-!
# Entries and the lines they are made of

Every header starts an entry, and the lines up to the next header are its body. What the entry is
follows from its header and its body alone: the last type and the last parent that are named there,
and for each key the values that the lines give it, one line after the other. Lines without a form
give nothing, so neither they nor the kind of line breaks change an entry.
-/

namespace FeatLoom

open Text (IsLineEnd IsLined isSeen seenLines)

namespace StatLine

def headerName? : StatLine → Option String
  | header name => some name
  | _ => none

def parentName? : StatLine → Option String
  | parent name => some name
  | _ => none

def typeName? : StatLine → Option String
  | entryType name => some name
  | _ => none

/-- The values that a line gives to a key; empty ones do not count. -/
def given (key : String) : StatLine → List String
  | data filled values => if filled = key then values.filter (· ≠ "") else []
  | _ => []

def filledKey? : StatLine → Option String
  | data key values => if values.filter (· ≠ "") = [] then none else some key
  | _ => none

theorem forall₂_means_iff {rows : List (List Char)} {said : List StatLine} :
    List.Forall₂ Means rows said ↔ said = rows.map read := by
  induction rows generalizing said with
  | nil => simp
  | cons row rows ih =>
    rw [List.forall₂_cons_left_iff]
    constructor
    · rintro ⟨line, others, means, more, rfl⟩
      rw [List.map_cons, means_iff.1 means, ih.1 more]
    · rintro rfl
      exact ⟨_, _, means_iff.2 rfl, ih.2 rfl, rfl⟩

theorem read_of_unseen {row : List Char} (unseen : isSeen row = false) : read row = .other :=
  read_of_blank (Text.isSeen_eq_false_iff.1 unseen)

end StatLine

namespace StatEntry

/-! ## What an entry is made of -/

/-- An entry as its header and the lines up to the next header make it. -/
structure IsMadeOf (name : String) (body : List StatLine) (entry : StatEntry) : Prop where
  name : entry.name = name
  entryType : entry.entryType = (body.filterMap StatLine.typeName?).getLast?.getD ""
  parent : entry.parent = (body.filterMap StatLine.parentName?).getLast?
  keys : entry.data.keys = (body.filterMap StatLine.filledKey?).eraseDups
  values : ∀ key, entry.valuesOf key = body.flatMap (StatLine.given key)

variable {name : String} {body said : List StatLine} {entry other : StatEntry}

theorem IsMadeOf.keys_apply (made : IsMadeOf name body entry) (line : StatLine) :
    (StatLine.apply entry line).data.keys =
      ((body ++ [line]).filterMap StatLine.filledKey?).eraseDups := by
  rw [List.filterMap_append]
  cases line with
  | data key values =>
    have known : key ∈ entry.data.keys ↔ key ∈ body.filterMap StatLine.filledKey? := by
      rw [made.keys, List.mem_eraseDups]
    rw [StatLine.apply, keys_extend]
    by_cases empty : values.filter (· ≠ "") = []
    · have nothing : [StatLine.data key values].filterMap StatLine.filledKey? = [] :=
        List.filterMap_cons_none (if_pos empty)
      rw [if_pos (.inl empty), nothing, List.append_nil, made.keys]
    · have filled : [StatLine.data key values].filterMap StatLine.filledKey? = [key] :=
        List.filterMap_cons_some (if_neg empty)
      rw [filled, OrderedMap.eraseDups_concat, ← made.keys]
      simp only [empty, false_or, known]
  | header | parent | entryType | other =>
    exact made.keys.trans (congrArg List.eraseDups (List.append_nil _).symm)

theorem IsMadeOf.apply (made : IsMadeOf name body entry) (line : StatLine) :
    IsMadeOf name (body ++ [line]) (StatLine.apply entry line) where
  name := by cases line <;> simp [StatLine.apply, made.name]
  entryType := by
    rw [List.filterMap_append]
    cases line <;> simp [StatLine.apply, StatLine.typeName?, made.entryType]
  parent := by
    rw [List.filterMap_append]
    cases line <;> simp [StatLine.apply, StatLine.parentName?, made.parent]
  keys := made.keys_apply line
  values asked := by
    rw [List.flatMap_append, List.flatMap_singleton, ← made.values]
    cases line with
    | data key values => exact valuesOf_extend ..
    | header | parent | entryType | other => exact (List.append_nil _).symm

theorem isMadeOf_new (name : String) : IsMadeOf name [] { name } where
  name := rfl
  entryType := rfl
  parent := rfl
  keys := rfl
  values _ := rfl

theorem isMadeOf_foldl (name : String) (body : List StatLine) :
    IsMadeOf name body (body.foldl StatLine.apply { name }) := by
  induction body using List.reverseRecOn with
  | nil => exact isMadeOf_new name
  | append_singleton body line ih =>
    rw [List.foldl_append, List.foldl_cons, List.foldl_nil]
    exact ih.apply line

theorem IsMadeOf.eq (made : IsMadeOf name body entry) (too : IsMadeOf name body other) :
    entry = other := by
  have keys : entry.data.keys = other.data.keys := made.keys.trans too.keys.symm
  have values (key : String) : entry.valuesOf key = other.valuesOf key :=
    (made.values key).trans (too.values key).symm
  have data : entry.data = other.data := by
    refine OrderedMap.eq_of_keys_of_get? keys fun key => ?_
    by_cases present : key ∈ entry.data.keys
    · obtain ⟨one, found⟩ := Option.ne_none_iff_exists'.1 fun none =>
        (entry.data.get?_eq_none_iff key).1 none present
      obtain ⟨two, foundToo⟩ := Option.ne_none_iff_exists'.1 fun none =>
        (other.data.get?_eq_none_iff key).1 none (keys ▸ present)
      have same := values key
      rw [valuesOf, valuesOf, get?, get?, found, foundToo] at same
      rw [found, foundToo]
      exact congrArg some same
    · rw [(entry.data.get?_eq_none_iff key).2 present,
        (other.data.get?_eq_none_iff key).2 (keys ▸ present)]
  exact eq_of_fields (made.name.trans too.name.symm) (made.entryType.trans too.entryType.symm)
    (made.parent.trans too.parent.symm) (congrArg OrderedMap.entries data)

/-! ## Where entries begin and end -/

/-- Lines that a header follows, or nothing, are read for themselves. -/
theorem ofLines_append (first : List StatLine) {rest : List StatLine}
    (opens : ∀ line ∈ rest.head?, line.isHeader = true) :
    ofLines (first ++ rest) = ofLines first ++ ofLines rest := by
  have stops : rest.takeWhile (fun line => !line.isHeader) = [] := by
    cases rest with
    | nil => rfl
    | cons line rest => exact List.takeWhile_cons_of_neg (by simp [opens line rfl])
  induction first with
  | nil => rfl
  | cons line first ih =>
    cases line with
    | header name =>
      have body : (first ++ rest).takeWhile (fun line => !line.isHeader) =
          first.takeWhile fun line => !line.isHeader := by
        rw [List.takeWhile_append, stops, List.append_nil]
        split
        · next whole => exact (List.takeWhile_prefix _).eq_of_length whole |>.symm
        · rfl
      rw [List.cons_append, ofLines, ofLines, body, ih, List.cons_append]
    | parent | entryType | data | other => exact ih

theorem ofLines_entry (noHeader : ∀ line ∈ body, line.isHeader = false) :
    ofLines (.header name :: body) = [body.foldl StatLine.apply { name }] := by
  have whole : body.takeWhile (fun line => !line.isHeader) = body :=
    List.takeWhile_eq_self_iff.2 fun line member => by rw [noHeader line member]; rfl
  have none : ofLines body = [] := by
    rw [← List.append_nil body, ofLines_append_of_body noHeader]
    rfl
  rw [ofLines, whole, none]

theorem map_name_ofLines (said : List StatLine) :
    (ofLines said).map StatEntry.name = said.filterMap StatLine.headerName? := by
  induction said with
  | nil => rfl
  | cons line said ih =>
    cases line with
    | header name =>
      rw [ofLines, List.map_cons, ih, (isMadeOf_foldl name _).name]
      rfl
    | parent | entryType | data | other => exact ih

theorem length_ofLines (said : List StatLine) :
    (ofLines said).length = said.countP StatLine.isHeader := by
  induction said with
  | nil => rfl
  | cons line said ih =>
    cases line with
    | header name =>
      rw [ofLines, List.length_cons, ih, List.countP_cons_of_pos rfl]
    | parent | entryType | data | other => exact ih

/-- Lines that say nothing can be left out. -/
theorem ofLines_filter (said : List StatLine) :
    ofLines (said.filter (· ≠ .other)) = ofLines said := by
  have body (entry : StatEntry) (said : List StatLine) :
      ((said.filter (· ≠ .other)).takeWhile fun line => !line.isHeader).foldl StatLine.apply entry =
        (said.takeWhile fun line => !line.isHeader).foldl StatLine.apply entry := by
    induction said generalizing entry with
    | nil => rfl
    | cons line said ih =>
      cases line with
      | header => rfl
      | other => exact ih entry
      | parent | entryType | data => exact ih _
  induction said with
  | nil => rfl
  | cons line said ih =>
    cases line with
    | header name =>
      rw [List.filter_cons_of_pos (by simp), ofLines, ofLines, body, ih]
    | parent | entryType | data | other => exact ih

/-! ## Texts -/

variable {text : List Char} {rows : List (List Char)}

/-- Lines on which nothing is seen can be left out. -/
theorem ofLines_map_read (rows : List (List Char)) :
    ofLines ((rows.filter isSeen).map StatLine.read) = ofLines (rows.map StatLine.read) := by
  have heard : ((rows.filter isSeen).map StatLine.read).filter (· ≠ .other) =
      (rows.map StatLine.read).filter (· ≠ .other) := by
    induction rows with
    | nil => rfl
    | cons row rows ih =>
      cases seen : isSeen row with
      | true => rw [List.filter_cons_of_pos seen, List.map_cons, List.map_cons, List.filter_cons,
          List.filter_cons, ih]
      | false =>
        rw [List.filter_cons_of_neg (by simp [seen]), ih, List.map_cons,
          StatLine.read_of_unseen seen]
        rfl
  rw [← ofLines_filter, heard, ofLines_filter]

theorem readAll_eq_seenLines (text : List Char) :
    readAll text = ofLines ((seenLines text).map StatLine.read) :=
  (ofLines_map_read (Text.lines text)).symm

theorem readAll_of_isLined (lined : IsLined rows text) :
    readAll text = ofLines (rows.map StatLine.read) := by
  rw [readAll_eq_seenLines, lined.seenLines_eq, ofLines_map_read]

/-- A text that a header line opens can be put after any other text. -/
theorem readAll_append {mark row : List Char} (ends : IsLineEnd mark) (first : List Char)
    (lined : IsLined rows text) (opens : rows.find? isSeen = some row)
    (header : StatLine.HasForm (.header name) row) :
    readAll (first ++ (mark ++ text)) = readAll first ++ readAll text := by
  have opened : ∀ line ∈ ((seenLines text).map StatLine.read).head?, line.isHeader = true := by
    rw [lined.seenLines_eq, List.head?_map, List.head?_filter, opens]
    intro line same
    cases same
    rw [header.read_eq]
    rfl
  rw [readAll_eq_seenLines, Text.seenLines_append ends, List.map_append, ofLines_append _ opened,
    ← readAll_eq_seenLines, ← readAll_eq_seenLines]

/-- Between what is read before a header and what is read after its body stands its entry. -/
theorem getElem?_ofLines_eq_some_iff {before after : List StatLine}
    (noHeader : ∀ line ∈ body, line.isHeader = false)
    (opens : ∀ line ∈ after.head?, line.isHeader = true) :
    (ofLines (before ++ .header name :: (body ++ after)))[before.countP StatLine.isHeader]? =
      some entry ↔ IsMadeOf name body entry := by
  have headed : ∀ line ∈ (StatLine.header name :: (body ++ after)).head?,
      line.isHeader = true := by
    intro line same
    cases same
    rfl
  have one : ofLines (.header name :: (body ++ after)) =
      body.foldl StatLine.apply { name } :: ofLines after := by
    rw [← List.cons_append, ofLines_append _ opens, ofLines_entry noHeader, List.singleton_append]
  rw [ofLines_append _ headed, ← length_ofLines, List.getElem?_append_right (Nat.le_refl _),
    Nat.sub_self, one, List.getElem?_cons_zero, Option.some_inj]
  constructor
  · rintro rfl
    exact isMadeOf_foldl name body
  · exact (isMadeOf_foldl name body).eq

/-- Stat files are read entry by entry. A text that a header line opens can be put after any text.
However a text is cut into rows, and whatever stands on them, its entries are its headers in their
order, and each entry is made of the rows between its own header and the next one. -/
theorem readAll_entry_by_entry :
    (∀ (first mark text row : List Char) (rows : List (List Char)) (name : String),
      IsLineEnd mark → IsLined rows text → rows.find? isSeen = some row →
      StatLine.HasForm (.header name) row →
        readAll (first ++ (mark ++ text)) = readAll first ++ readAll text) ∧
    (∀ text, IsLined (Text.lines text) text) ∧
    (∀ rows, ∃! said, List.Forall₂ StatLine.Means rows said) ∧
    ∀ text rows said, IsLined rows text → List.Forall₂ StatLine.Means rows said →
      (readAll text).length = said.countP StatLine.isHeader ∧
      (readAll text).map StatEntry.name = said.filterMap StatLine.headerName? ∧
      ∀ before name body after, said = before ++ .header name :: (body ++ after) →
        (∀ line ∈ body, line.isHeader = false) → (∀ line ∈ after.head?, line.isHeader = true) →
          ∀ entry, (readAll text)[before.countP StatLine.isHeader]? = some entry ↔
            IsMadeOf name body entry := by
  refine ⟨fun first mark text row rows name ends lined opens header =>
      readAll_append ends first lined opens header,
    Text.isLined_lines, fun rows => ?_, fun text rows said lined means => ?_⟩
  · simp only [StatLine.forall₂_means_iff]
    exact ⟨_, rfl, fun _ same => same⟩
  · obtain rfl := StatLine.forall₂_means_iff.1 means
    rw [readAll_of_isLined lined]
    refine ⟨length_ofLines _, map_name_ofLines _, ?_⟩
    intro before name body after whole noHeader opens entry
    rw [whole]
    exact getElem?_ofLines_eq_some_iff noHeader opens

/-- Different line breaks, orphans before the headers, a comment, a broken line and a key that gets
empty values only. -/
theorem readAll_entry_by_entry_mixed :
    let first := "type \"Lost\"\nnew entry \"Shout\"\rusing \"Voice\"".toList
    let row := "new entry \"Roar\" ".toList
    let rows := [" ".toList, row, "data \"Cost\" \"1;;2\"".toList, "// data".toList,
      "data \"None\" \";\"".toList, "data \"Cost\" 9".toList, "x data \"Cost\" \"3\"".toList]
    let text := (" \u2028new entry \"Roar\" \r\ndata \"Cost\" \"1;;2\"\n// data\n" ++
      "data \"None\" \";\"\rdata \"Cost\" 9\nx data \"Cost\" \"3\"").toList
    let roar : StatEntry := { name := "Roar", data := .ofList [("Cost", ["1", "2", "3"])] }
    rows.find? isSeen = some row ∧ StatLine.HasForm (.header "Roar") row ∧
      readAll (first ++ (['\r', '\n'] ++ text)) = readAll first ++ readAll text ∧
      (readAll text).length = 1 ∧ (readAll text)[0]? = some roar := by
  intro first row rows text roar
  have cut : Text.lines text = rows := by decide
  have opens : rows.find? isSeen = some row := by decide
  have header : StatLine.read row = .header "Roar" := by decide
  have formed : StatLine.HasForm (.header "Roar") row :=
    header ▸ StatLine.hasForm_read (by decide)
  obtain ⟨append, lined, -, entries⟩ := readAll_entry_by_entry
  have cutRows : IsLined rows text := cut ▸ lined text
  let body : List StatLine := [.data "Cost" ["1", "", "2"], .other, .data "None" ["", ""], .other,
    .data "Cost" ["3"]]
  have said : StatLine.other :: .header "Roar" :: body = rows.map StatLine.read := by decide
  obtain ⟨length, -, entry⟩ := entries text rows _ cutRows (StatLine.forall₂_means_iff.2 said)
  have made : body.foldl StatLine.apply { name := "Roar" } = roar := by decide
  refine ⟨opens, formed, append first _ text row rows _ (.inl rfl) cutRows opens formed, length, ?_⟩
  exact (entry [.other] "Roar" body [] rfl (by decide) (by decide) roar).2
    (made ▸ isMadeOf_foldl "Roar" body)

end StatEntry

end FeatLoom
