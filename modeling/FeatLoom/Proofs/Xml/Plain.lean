import FeatLoom.Xml.Reader

/-!
# Plain documents

A document that starts with a tag and holds only ASCII characters is read as it is written.
-/

namespace FeatLoom.Xml

theorem toList_loop (bytes : ByteArray) (start : Nat) (found : List UInt8) :
    ByteArray.toList.loop bytes start found = found.reverse ++ bytes.data.toList.drop start := by
  rw [ByteArray.toList.loop]
  split
  · next inside =>
    have bound : start < bytes.data.toList.length := inside
    have ahead : bytes.get! start = bytes.data.toList[start] := by
      exact getElem!_pos bytes.data start inside
    rw [toList_loop bytes (start + 1), List.drop_eq_getElem_cons bound, ahead]
    simp
  · next outside =>
    have past : bytes.data.toList.length ≤ start := Nat.le_of_not_lt outside
    rw [List.drop_eq_nil_of_le past, List.append_nil]
termination_by bytes.size - start

theorem toList_eq_toList_data (bytes : ByteArray) : bytes.toList = bytes.data.toList :=
  toList_loop bytes 0 []

def isPlain (text : List Char) : Bool :=
  match text with
  | '<' :: second :: _ => second != '?' && text.all fun c => c.toNat < 0x80 && isDocumentChar c
  | _ => false

theorem toList_toUTF8_of_ascii {text : List Char} (ascii : ∀ c ∈ text, c.toNat < 0x80) :
    (String.ofList text).toUTF8.toList = text.map fun c => UInt8.ofNat c.toNat := by
  have each : ∀ c ∈ text, String.utf8EncodeChar c = [UInt8.ofNat c.toNat] := by
    intro c member
    exact if_pos (Nat.le_of_lt_succ (ascii c member))
  rw [toList_eq_toList_data, String.toUTF8, String.toByteArray_ofList, List.utf8Encode,
    List.toList_data_toByteArray, List.flatMap_def, List.map_congr_left each, ← List.flatMap_def,
    List.map_eq_flatMap]

theorem ofUtf8?_toUTF8 (text : List Char) :
    ofUtf8? (String.ofList text).toUTF8.toList = some text := by
  have whole : (⟨(String.ofList text).toUTF8.toList.toArray⟩ : ByteArray) =
      (String.ofList text).toByteArray := by
    rw [toList_eq_toList_data]
    rfl
  have valid := (String.ofList text).isValidUTF8
  have same : String.fromUTF8 _ valid = String.ofList text := rfl
  rw [ofUtf8?, whole, String.fromUTF8?, dif_pos valid, Option.map_some, same, String.toList_ofList]

theorem map_ofNat_of_ascii {text : List Char} (ascii : ∀ c ∈ text, c.toNat < 0x80) :
    ((text.map fun c => UInt8.ofNat c.toNat).map fun byte => Char.ofNat byte.toNat) = text := by
  rw [List.map_map]
  refine (List.map_congr_left fun c member => ?_).trans (List.map_id text)
  have small : c.toNat < 256 := Nat.lt_trans (ascii c member) (by decide)
  simp [UInt8.toNat_ofNat_of_lt' small]

theorem declaration?_tag {second : Char} {rest : List Char} (undeclared : second ≠ '?') :
    declaration? ('<' :: second :: rest) = some ({}, '<' :: second :: rest) := by
  unfold declaration?
  split
  · next same =>
    exact absurd (List.cons.inj (List.cons.inj same).2).1 undeclared
  · rfl

theorem decodeBytes_toUTF8 {second : Char} {rest : List Char} (undeclared : second ≠ '?')
    (ascii : ∀ c ∈ '<' :: second :: rest, c.toNat < 0x80) :
    decodeBytes (String.ofList ('<' :: second :: rest)).toUTF8.toList = .ok {
      text := '<' :: second :: rest, alphabet := .strict, isAlone := false
      size := ('<' :: second :: rest).length } := by
  have bytes := toList_toUTF8_of_ascii ascii
  have silent : declaration? ((String.ofList ('<' :: second :: rest)).toUTF8.toList.map
      fun byte => Char.ofNat byte.toNat) = some ({}, '<' :: second :: rest) := by
    rw [bytes, map_ofNat_of_ascii ascii, declaration?_tag undeclared]
  have length : (String.ofList ('<' :: second :: rest)).toUTF8.toList.length =
      ('<' :: second :: rest).length := by
    rw [bytes, List.length_map]
  have decoded := ofUtf8?_toUTF8 ('<' :: second :: rest)
  generalize (String.ofList ('<' :: second :: rest)).toUTF8.toList = bytes at silent length decoded
  rw [decodeBytes, silent]
  change ((orMalformed (ofUtf8? bytes)).map (·, Alphabet.strict) >>= fun found => _) = _
  rw [decoded]
  change (orMalformed (declaration? ('<' :: second :: rest)) >>= fun found => _) = _
  rw [declaration?_tag undeclared, ← length]
  rfl

theorem read_ofList {text : List Char} (plain : isPlain text = true) :
    read (String.ofList text).toUTF8 = orMalformed (rootOf? {
      text, alphabet := .strict, isAlone := false, size := text.length }) := by
  unfold isPlain at plain
  split at plain
  · next second rest =>
    obtain ⟨undeclared, plain⟩ := Bool.and_eq_true_iff.1 plain
    simp only [List.all_eq_true, Bool.and_eq_true, decide_eq_true_eq] at plain
    have ascii : ∀ c ∈ '<' :: second :: rest, c.toNat < 0x80 := fun c member =>
      (plain c member).1
    have decoded := decodeBytes_toUTF8 (bne_iff_ne.1 undeclared) ascii
    have allowed : ('<' :: second :: rest).all isDocumentChar = true :=
      List.all_eq_true.2 fun c member => (plain c member).2
    have isNarrow : ¬ (UInt8.ofNat 0x3C == 0 || UInt8.ofNat second.toNat == 0) = true := by
      obtain ⟨small, isChar⟩ := plain second (by simp)
      intro zero
      have isZero : UInt8.ofNat second.toNat = 0 := by simpa using zero
      have value := congrArg UInt8.toNat isZero
      rw [UInt8.toNat_ofNat_of_lt' (Nat.lt_trans small (by decide))] at value
      rw [isDocumentChar, value] at isChar
      cases isChar
    rw [toList_toUTF8_of_ascii ascii] at decoded
    rw [read, decode, toList_toUTF8_of_ascii ascii]
    change ((if (UInt8.ofNat 0x3C == 0 || UInt8.ofNat second.toNat == 0) = true then _ else
      decodeBytes (('<' :: second :: rest).map fun c => UInt8.ofNat c.toNat) >>= fun found =>
        if found.text.all isDocumentChar = true then pure found else throw .malformed) >>=
      fun found => orMalformed (rootOf? found)) = _
    rw [if_neg isNarrow, decoded]
    change ((if ('<' :: second :: rest).all isDocumentChar = true then pure _ else _) >>=
      fun found => orMalformed (rootOf? found)) = _
    rw [if_pos allowed]
    rfl
  · cases plain

end FeatLoom.Xml
