import FeatLoom.Proofs.Selector.Grammar
import FeatLoom.Proofs.Text.Numbers
import FeatLoom.Selector.Printer

/-!
# What written selectors denote

The written form of a selector denotes this selector: its numbers are written in decimal digits, its
list in the hexadecimal digits of the identifier, and no blanks are put between the pieces.
-/

namespace FeatLoom

/-! ## Numbers and identifiers -/

theorem Guid.exists_digits (id : Guid) :
    ∃ values : List Nat, values.length = 32 ∧ (∀ value ∈ values, value < 16) ∧
      id.digits = values.map Nat.digitChar ∧ Nat.ofDigits 16 values.reverse = id.bits.toNat := by
  obtain ⟨values, _, below, written, denoted⟩ :=
    Text.exists_toDigits 16 (by decide) id.bits.toNat
  have fits : values.length ≤ 32 := by
    have bounded : id.bits.toNat < 16 ^ 32 := lt_of_lt_of_le id.bits.isLt (by norm_num)
    have short := (Nat.length_toDigits_le_iff (by decide) (by decide)).2 bounded
    simpa [written] using short
  refine ⟨List.replicate (32 - values.length) 0 ++ values, by simp; omega, ?_, ?_, ?_⟩
  · intro value member
    rcases List.mem_append.1 member with leading | own
    · simp [List.eq_of_mem_replicate leading]
    · exact below value own
  · simp [Guid.digits, written, Nat.digitChar]
  · simp [Nat.ofDigits_append, denoted]

namespace Selector

open Text (digitValue?)

theorem isNumber_toString (n : Nat) : IsNumber n (toString n).toList := by
  obtain ⟨values, some, below, written, denoted⟩ := Text.exists_toDigits 10 (by decide) n
  have digits : (toString n).toList = values.map Nat.digitChar := by
    rw [Nat.toString_eq_repr, Nat.toList_repr, written]
  have each : ∀ value < 10, digitValue? (Nat.digitChar value) = Option.some value := by decide
  rw [digits]
  refine ⟨by simpa using some, values, ?_, denoted.symm⟩
  rw [List.forall₂_map_left_iff, List.forall₂_same]
  exact fun value member => each value (below value member)

theorem forall₂_hexDigit {values : List Nat} (below : ∀ value ∈ values, value < 16) :
    List.Forall₂ HexDigit (values.map Nat.digitChar) values := by
  rw [List.forall₂_map_left_iff, List.forall₂_same]
  exact fun value member => ⟨below value member, Or.inl rfl⟩

theorem HexGroups.hyphened (width : Nat) {size : Nat} {sizes values more : List Nat}
    {text : List Char} (long : values.length = width) (below : ∀ value ∈ values, value < 16)
    (others : HexGroups (size :: sizes) more text) :
    HexGroups (width :: size :: sizes) (values ++ more)
      (values.map Nat.digitChar ++ ('-' :: text)) := by
  have groups := HexGroups.group (forall₂_hexDigit below) (Or.inr rfl) others
  rwa [List.length_map, long] at groups

theorem isGuid_toString (id : Guid) : IsGuid id (toString id).toList := by
  obtain ⟨values, long, below, written, denoted⟩ := id.exists_digits
  have part (first width : Nat) : ∀ value ∈ (values.drop first).take width, value < 16 :=
    fun value member => below value (List.mem_of_mem_drop (List.mem_of_mem_take member))
  have last : HexGroups [12] (values.drop 20) ((values.drop 20).map Nat.digitChar) := by
    have spelled : List.Forall₂ HexDigit ((values.drop 20).map Nat.digitChar) (values.drop 20) :=
      forall₂_hexDigit fun value member => below value (List.mem_of_mem_drop member)
    have group := HexGroups.last spelled
    rwa [List.length_map, List.length_drop, long] at group
  have groups := HexGroups.hyphened 8 (by simp [long]) (part 0 8)
    (.hyphened 4 (by simp [long]) (part 8 4)
      (.hyphened 4 (by simp [long]) (part 12 4)
        (.hyphened 4 (by simp [long]) (part 16 4) last)))
  have whole : (values.drop 0).take 8 ++ ((values.drop 8).take 4 ++ ((values.drop 12).take 4 ++
      ((values.drop 16).take 4 ++ values.drop 20))) = values := by
    have next (first width : Nat) : (values.drop first).take width ++ values.drop (first + width) =
        values.drop first := by
      rw [← List.drop_drop, List.take_append_drop]
    rw [next 16 4, next 12 4, next 8 4, next 0 8, List.drop_zero]
  refine ⟨values, ?_, ?_⟩
  · have shown : (toString id).toList = id.toChars := String.toList_ofList
    rw [whole] at groups
    simpa [shown, Guid.toChars, written, List.map_take, List.map_drop] using groups
  · rw [denoted, Guid.ofNat, BitVec.ofNat_toNat, BitVec.setWidth_eq]

theorem isFlag_flagText (flag : Bool) : IsFlag flag (flagText flag).toList := by
  cases flag <;> exact List.forall₂_same.2 fun letter _ => Or.inl rfl

/-! ## Calls -/

theorem Spaced.plain {piece next : List Char → Prop} {start rest : List Char} (own : piece start)
    (after : next rest) : Spaced piece next (start ++ rest) :=
  ⟨[], start, rest, by simp, own, after, rfl⟩

theorem Spaced.symbol {c : Char} {next : List Char → Prop} {rest : List Char} (after : next rest) :
    Spaced (Symbol c) next (c :: rest) :=
  have own : Symbol c [c] := rfl
  Spaced.plain own after

theorem closed_bracket : Closed [')'] := Spaced.symbol rfl

theorem toList_intercalate_cons (first : String) (others : List String) :
    (",".intercalate (first :: others)).toList =
      first.toList ++ others.flatMap fun argument => ',' :: argument.toList := by
  induction others generalizing first with
  | nil => rw [String.intercalate_singleton, List.flatMap_nil, List.append_nil]
  | cons next others ih =>
    rw [String.intercalate_cons_cons, String.toList_append, String.toList_append, ih,
      List.flatMap_cons, List.append_assoc]
    rfl

theorem call_toString (name : String) (list : Guid) (count : Nat) (arguments : List String)
    {next : List Char → Prop} (after : next ((arguments.flatMap fun argument =>
      ',' :: argument.toList) ++ [')'])) :
    Call name list count next
      (call name ([toString list, toString count] ++ arguments)).toList := by
  refine ⟨name.toList, _, List.forall₂_same.2 fun letter _ => Or.inl rfl, ?_,
    .symbol (.plain (isGuid_toString list) (.symbol (.plain (isNumber_toString count) after)))⟩
  simp [call, toList_intercalate_cons, -String.toList_intercalate]

def IsWritable : Selector → Prop
  | ability choice => IsLabel choice.label choice.label.toList
  | skill _ _ label | passive _ _ label => ∀ text ∈ label, IsLabel text text.toList
  | expertise .. => True
  | spell | unknown _ => False

theorem lastArgument_written {α : Type} {argument : α → List Char → Prop} (text : α → String)
    {value : Option α} (own : ∀ one ∈ value, argument one (text one).toList) :
    LastArgument argument value
      (((value.map text).toList.flatMap fun argument => ',' :: argument.toList) ++ [')']) := by
  cases value with
  | none => exact closed_bracket
  | some one =>
    have last := Spaced.symbol (c := ',') (Spaced.plain (own one rfl) closed_bracket)
    simpa [LastArgument] using last

theorem exists_toText? {selector : Selector} (writable : selector.IsWritable) :
    ∃ text, selector.toText? = some text ∧ Denotes selector text.toList := by
  cases selector with
  | ability choice =>
    refine ⟨_, rfl, .ability (call_toString _ _ _ [toString choice.max, choice.label] ?_)⟩
    have named : IsLabel choice.label choice.label.toList := writable
    have label := Spaced.symbol (c := ',') (Spaced.plain named closed_bracket)
    have tail := Spaced.symbol (c := ',') (Spaced.plain (isNumber_toString choice.max) label)
    simpa using tail
  | skill list count label =>
    refine ⟨_, rfl, .skill (call_toString _ _ _ _ ?_)⟩
    have last := lastArgument_written id writable
    rwa [Option.map_id] at last
  | expertise list count flag =>
    refine ⟨_, rfl, .expertise (call_toString _ _ _ _ ?_)⟩
    exact lastArgument_written flagText fun one _ => isFlag_flagText one
  | passive list count category =>
    refine ⟨_, rfl, .passive (call_toString _ _ _ _ ?_)⟩
    have last := lastArgument_written id writable
    rwa [Option.map_id] at last
  | spell | unknown => exact writable.elim

end Selector

end FeatLoom
