import FeatLoom.Proofs.Text.Numbers
import FeatLoom.Version
import Mathlib.Data.Int.Bitwise

/-!
# Parts of a version

The parts of a version are the digits of its number in a mixed base, so they give the number back
and compare like it, and no two versions are written alike. They are also fields of its bits: a
part is what a shift and a mask leave of the number, and a packed version is the union of the
shifted parts. Packing what was unpacked keeps the low 64 bits.
-/

namespace FeatLoom.Version

/-! ## Fields of bits -/

/-- A mask of ones keeps the remainder, of negative numbers too. -/
theorem land_ones (n : Int) (width : Nat) :
    Int.land n ((2 ^ width - 1 : Nat) : Int) = n % 2 ^ width := by
  cases n with
  | ofNat m =>
    have masked : m &&& 2 ^ width - 1 = m % 2 ^ width := Nat.and_two_pow_sub_one_eq_mod m width
    exact_mod_cast congrArg Nat.cast masked
  | negSucc m =>
    -- The bits of a negative number are those of `m` flipped, as are those of the remainder.
    have below : m % 2 ^ width < 2 ^ width := Nat.mod_lt m (by positivity)
    have flipped : Nat.ldiff (2 ^ width - 1) m = 2 ^ width - (m % 2 ^ width + 1) := by
      apply Nat.eq_of_testBit_eq
      intro i
      rw [Nat.testBit_ldiff, Nat.testBit_two_pow_sub_one, Nat.testBit_two_pow_sub_succ below,
        Nat.testBit_mod_two_pow]
      by_cases inside : i < width <;> simp [inside]
    have remainder : Int.negSucc m % 2 ^ width = ((2 ^ width - (m % 2 ^ width + 1) : Nat) : Int) := by
      rw [Int.negSucc_emod m (by positivity), Nat.cast_sub (by omega)]
      push_cast
      omega
    rw [remainder]
    exact congrArg Nat.cast flipped

/-- Numbers whose bits do not meet are united by adding them. -/
theorem lor_eq_add (width : Nat) {high low : Int} (nonneg : 0 ≤ high)
    (cleared : (2 ^ width : Int) ∣ high) (nonneg' : 0 ≤ low) (below : low < 2 ^ width) :
    Int.lor high low = high + low := by
  obtain ⟨field, rfl⟩ := cleared
  have positive : (0 : Int) < 2 ^ width := by positivity
  lift low to Nat using nonneg'
  lift field to Nat using nonneg_of_mul_nonneg_right nonneg positive
  have united : 2 ^ width * field + low = 2 ^ width * field ||| low :=
    Nat.two_pow_add_eq_or_of_lt (by exact_mod_cast below) field
  exact_mod_cast congrArg Nat.cast united.symm

/-- The parts as shifts and masks cut them out of the bits. -/
structure HasBitFields (v : Version) : Prop where
  major_eq : v.major = v.number >>> (55 : Nat)
  minor_eq : v.minor = Int.land (v.number >>> (47 : Nat)) 0xFF
  revision_eq : v.revision = Int.land (v.number >>> (31 : Nat)) 0xFFFF
  build_eq : v.build = Int.land v.number 0x7FFFFFFF

theorem hasBitFields (v : Version) : v.HasBitFields := by
  constructor
  · rw [Int.shiftRight_eq_div_pow]
    rfl
  · rw [Int.shiftRight_eq_div_pow]
    exact (land_ones _ 8).symm
  · rw [Int.shiftRight_eq_div_pow]
    exact (land_ones _ 16).symm
  · exact (land_ones v.number 31).symm

theorem pack_eq_bits (major minor revision build : Int) :
    (pack major minor revision build).number =
      Int.lor (Int.lor (Int.lor (Int.land major 0x1FF <<< (55 : Nat))
        (Int.land minor 0xFF <<< (47 : Nat))) (Int.land revision 0xFFFF <<< (31 : Nat)))
        (Int.land build 0x7FFFFFFF) := by
  have majorField : Int.land major 0x1FF = major % 2 ^ 9 := land_ones major 9
  have minorField : Int.land minor 0xFF = minor % 2 ^ 8 := land_ones minor 8
  have revisionField : Int.land revision 0xFFFF = revision % 2 ^ 16 := land_ones revision 16
  have buildField : Int.land build 0x7FFFFFFF = build % 2 ^ 31 := land_ones build 31
  have upper : Int.lor (major % 2 ^ 9 * 2 ^ 55) (minor % 2 ^ 8 * 2 ^ 47) =
      major % 2 ^ 9 * 2 ^ 55 + minor % 2 ^ 8 * 2 ^ 47 :=
    lor_eq_add 55 (by omega) (by omega) (by omega) (by omega)
  have middle : Int.lor (major % 2 ^ 9 * 2 ^ 55 + minor % 2 ^ 8 * 2 ^ 47)
        (revision % 2 ^ 16 * 2 ^ 31) =
      major % 2 ^ 9 * 2 ^ 55 + minor % 2 ^ 8 * 2 ^ 47 + revision % 2 ^ 16 * 2 ^ 31 :=
    lor_eq_add 47 (by omega) (by omega) (by omega) (by omega)
  rw [majorField, minorField, revisionField, buildField]
  simp only [Int.shiftLeft_eq]
  rw [upper, middle, lor_eq_add 31 (by omega) (by omega) (by omega) (by omega)]
  rfl

/-! ## Order and text -/

def parts (v : Version) : List Int := [v.major, v.minor, v.revision, v.build]

theorem minor_bounds (v : Version) : 0 ≤ v.minor ∧ v.minor < 2 ^ 8 := by
  unfold minor
  omega

theorem revision_bounds (v : Version) : 0 ≤ v.revision ∧ v.revision < 2 ^ 16 := by
  unfold revision
  omega

theorem build_bounds (v : Version) : 0 ≤ v.build ∧ v.build < 2 ^ 31 := by
  unfold build revisionUnit
  omega

theorem number_eq_powers (v : Version) :
    v.number = v.major * 2 ^ 55 + v.minor * 2 ^ 47 + v.revision * 2 ^ 31 + v.build :=
  v.number_eq_parts

theorem number_lt_iff (v w : Version) : v.number < w.number ↔ v.parts < w.parts := by
  have first := v.number_eq_powers
  have second := w.number_eq_powers
  have minors := v.minor_bounds
  have minors' := w.minor_bounds
  have revisions := v.revision_bounds
  have revisions' := w.revision_bounds
  have builds := v.build_bounds
  have builds' := w.build_bounds
  simp only [parts, List.cons_lt_cons_iff, List.not_lt_nil, and_false, or_false]
  omega

theorem parts_injective {v w : Version} (same : v.parts = w.parts) : v = w := by
  simp only [parts, List.cons.injEq, and_true] at same
  obtain ⟨majors, minors, revisions, builds⟩ := same
  have numbers : v.number = w.number := by
    rw [v.number_eq_powers, w.number_eq_powers, majors, minors, revisions, builds]
  exact congrArg Version.mk numbers

theorem toString_eq_parts (v : Version) :
    toString v = ".".intercalate (v.parts.map toString) := rfl

/-- No point stands in a number, so the parts can be read off the text. -/
theorem toString_injective {v w : Version} (same : toString v = toString w) : v = w := by
  have cut (v : Version) : (toString v).toList.splitOn '.' =
      v.parts.map fun part => (toString part).toList := by
    rw [toString_eq_parts, String.toList_intercalate, List.map_map]
    refine List.splitOn_intercalate '.' ?_ (List.cons_ne_nil _ _)
    intro text member
    obtain ⟨part, _, rfl⟩ := List.mem_map.1 member
    exact Text.mark_not_mem_toString (by decide) (by decide) part
  have texts := (cut v).symm.trans ((congrArg (fun text => text.toList.splitOn '.') same).trans
    (cut w))
  have written : Function.Injective fun part : Int => (toString part).toList :=
    fun _ _ equal => Text.toString_int_injective (String.toList_inj.1 equal)
  exact parts_injective (List.map_injective_iff.2 written texts)

/-! ## Packing -/

theorem parts_pack (major minor revision build : Int) :
    (pack major minor revision build).parts =
      [major % 2 ^ 9, minor % 2 ^ 8, revision % 2 ^ 16, build % 2 ^ 31] := by
  simp only [parts, pack, Version.major, Version.minor, Version.revision, Version.build,
    majorUnit, minorUnit, revisionUnit, List.cons.injEq, and_true]
  omega

theorem pack_parts (v : Version) :
    (pack v.major v.minor v.revision v.build).number = v.number % 2 ^ 64 := by
  simp only [pack, major, minor, revision, build, majorUnit, minorUnit, revisionUnit]
  omega

/-- A version is told by its parts, by their order and by their text: they are the digits of its
number. Each is a field of bits, and packing keeps of every part what its field has room for. -/
theorem packing_lossless :
    (∀ v : Version,
      v.number = v.major * 2 ^ 55 + v.minor * 2 ^ 47 + v.revision * 2 ^ 31 + v.build ∧
        (0 ≤ v.minor ∧ v.minor < 2 ^ 8) ∧ (0 ≤ v.revision ∧ v.revision < 2 ^ 16) ∧
        (0 ≤ v.build ∧ v.build < 2 ^ 31)) ∧
      (∀ v w : Version, v.number < w.number ↔ v.parts < w.parts) ∧
      (∀ v w : Version, toString v = toString w ↔ v = w) ∧
      (∀ v : Version, (pack v.major v.minor v.revision v.build).number = v.number % 2 ^ 64) ∧
      (∀ major minor revision build : Int, (pack major minor revision build).parts =
        [major % 2 ^ 9, minor % 2 ^ 8, revision % 2 ^ 16, build % 2 ^ 31]) ∧
      (∀ v : Version, v.HasBitFields) ∧
      ∀ major minor revision build : Int, (pack major minor revision build).number =
        Int.lor (Int.lor (Int.lor (Int.land major 0x1FF <<< (55 : Nat))
          (Int.land minor 0xFF <<< (47 : Nat))) (Int.land revision 0xFFFF <<< (31 : Nat)))
          (Int.land build 0x7FFFFFFF) := by
  refine ⟨fun v => ?_, number_lt_iff, fun v w => ?_, pack_parts, parts_pack, hasBitFields,
    pack_eq_bits⟩
  · exact ⟨v.number_eq_powers, v.minor_bounds, v.revision_bounds, v.build_bounds⟩
  · exact ⟨toString_injective, congrArg toString⟩

/-- A negative version that is packed again comes back with the major version that fits. -/
example : (⟨-1⟩ : Version).parts = [-1, 255, 65535, 2147483647] ∧
    (pack (-1) 255 65535 2147483647).parts = [511, 255, 65535, 2147483647] := by decide

end FeatLoom.Version
