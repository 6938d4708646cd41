import Foreign.Proofs.Call.Result

/-!
Results of callbacks, there and back. An integer is extended to a register by its sign on the way in, and on
the way out a number is what is left of the register when it is cut to its width; nothing that was in the
storage before has a part in it. A pointer and a floating-point number are put down as they are.
-/

namespace Foreign

namespace LittleEndian

/-- The front bytes of a number are what is left of it modulo their range. -/
theorem decode_take (bytes : List UInt8) (k : Nat) :
    decode (bytes.take k) = decode bytes % Nat.pow 256 k := by
  induction k generalizing bytes with
  | zero => exact (Nat.mod_one _).symm
  | succ k ih =>
      cases bytes with
      | nil => exact (Nat.zero_mod _).symm
      | cons byte rest =>
          have small := byte.toNat_lt
          have hpow : Nat.pow 256 (k + 1) = 256 * Nat.pow 256 k := Nat.mul_comm _ _
          have low : (byte.toNat + 256 * decode rest) % 256 = byte.toNat := by omega
          have high : (byte.toNat + 256 * decode rest) / 256 = decode rest := by omega
          rw [List.take_succ_cons, decode, ih, decode, hpow, Nat.mod_mul, low, high]

end LittleEndian

/-- A number with more bits than the kind has is cut to them. -/
theorem Scalar.ofNat_mod (kind : ScalarKind) (n : Nat) :
    ofNat kind (n % Nat.pow 256 kind.size) = ofNat kind n := by
  have hpow : Nat.pow 256 kind.size = 2 ^ kind.width := (Nat.pow_mul 2 8 kind.size).symm
  have bits : BitVec.ofNat kind.width (n % 2 ^ kind.width) = BitVec.ofNat kind.width n := by
    rw [← BitVec.toNat_inj, BitVec.toNat_ofNat, BitVec.toNat_ofNat, Nat.mod_mod]
  rw [ofNat, ofNat, hpow, bits]

/-- A signed integer is extended by its sign, an unsigned one by zeros. -/
theorem Scalar.integer?_of_type {width : Width} {signed : Bool} {s : Scalar}
    (kind : (CType.int width signed).scalarKind? = some s.kind) :
    s.integer? = some (if signed then s.bits.signExtend 64 else s.bits.setWidth 64) := by
  obtain ⟨own, bits⟩ := s
  cases width <;> cases signed <;> cases kind <;> rfl

namespace Marshal

variable {type : CType} {value : Value} {storage after : List UInt8} {store : Store}

/-- A number that is read is the register cut to its width. -/
theorem readResult_of_scalarKind? {kind : ScalarKind} (h : type.scalarKind? = some kind) :
    readResult storage type = .scalar (Scalar.ofNat kind (LittleEndian.decode (storage.take 8))) := by
  have size : kind.size ≤ 8 := Scalar.size_le kind
  have front : storage.take kind.size = (storage.take 8).take kind.size := by
    rw [List.take_take, Nat.min_eq_left size]
  rw [readResult, Value.decode_of_scalarKind? h, CType.size_of_scalarKind? h, front, Scalar.decode,
    LittleEndian.decode_take, Scalar.ofNat_mod]

/-- The register of an integer holds the integer as extended, whatever it held before. -/
theorem take_widened_of_int {width : Width} {signed : Bool} {s : Scalar}
    (fits : Value.Fits (.scalar s) (.int width signed)) (storage : List UInt8) :
    (overlay storage (Value.scalar s).widened).take 8 =
      LittleEndian.encode 8 (if signed then s.bits.signExtend 64 else s.bits.setWidth 64).toNat := by
  cases fits with
  | scalar kind =>
      have widened : (Value.scalar s).widened =
          LittleEndian.encode 8 (if signed then s.bits.signExtend 64 else s.bits.setWidth 64).toNat := by
        rw [Value.widened, Value.integer?, Scalar.integer?_of_type kind]
        rfl
      rw [widened]
      exact take_overlay storage (LittleEndian.length_encode 8 _)

theorem length_widened_of_float (fits : Value.Fits value .float) : value.widened.length = 4 := by
  cases fits with
  | @scalar s _ kind =>
      obtain ⟨own, bits⟩ := s
      cases kind
      rfl

theorem resultWidth_le (type : CType) : resultWidth type ≤ max type.size.toNat 8 := by
  cases type with
  | struct layout => exact Nat.le_max_left _ _
  | void | int _ _ | float | double | pointer _ => exact Nat.le_refl _

/-- No result reaches further than its size, or a register if that is larger. -/
theorem drop_of_writeResult_max {accepted : Bool}
    (written : writeResult store type value storage = .ok ⟨accepted, after⟩) :
    after.drop (max type.size.toNat 8) = storage.drop (max type.size.toNat 8) := by
  have behind := congrArg (List.drop (max type.size.toNat 8 - resultWidth type)) (drop_of_writeResult written)
  rwa [List.drop_drop, List.drop_drop, Nat.add_sub_cancel' (resultWidth_le type)] at behind

/-- A value in the storage of its result, as the caller finds it: nothing of what the storage held is left in
the register of an integer, and behind the result everything is. -/
structure Widened (type : CType) (value : Value) (storage after : List UInt8) : Prop where
  length : after.length = storage.length
  read : readResult after type = value.asRead type
  register : ∀ width signed, type = .int width signed → ∃ s, value = .scalar s ∧
    after.take 8 = LittleEndian.encode 8 (if signed then s.bits.signExtend 64 else s.bits.setWidth 64).toNat
  behind : after.drop (max type.size.toNat 8) = storage.drop (max type.size.toNat 8)
  float : type = .float → after.drop 4 = storage.drop 4

theorem widened_overlay (fits : value.Fits type) (plain : type.IsPlain) (room : 8 ≤ storage.length) :
    Widened type value storage (overlay storage value.widened) := by
  have size : type.size.toNat ≤ 8 := CType.size_le_of_plain plain
  have reach : value.widened.length ≤ max type.size.toNat 8 :=
    Nat.le_trans (Value.length_widened_le fits plain) (resultWidth_le type)
  refine ⟨?_, ?_, ?_, drop_overlay storage reach, ?_⟩
  · rw [overlay, List.length_append, List.length_drop]
    omega
  · rw [readResult, overlay, take_widened_append fits plain, Value.decode_encode_of_fits fits plain]
  · rintro width signed rfl
    cases fits with
    | @scalar s _ kind => exact ⟨s, rfl, take_widened_of_int (.scalar kind) storage⟩
  · rintro rfl
    exact drop_overlay storage (Nat.le_of_eq (length_widened_of_float fits))

/-- A result that is no struct and fits is accepted, and is read back as it was given. A number that is read
is what the register holds, cut to its width; and no result at all reaches further than its size, or a
register if that is larger. -/
theorem readResult_widened (store : Store) {storage : List UInt8} (room : 8 ≤ storage.length) :
    (∀ type value, type.IsPlain → type ≠ .void → Value.fits value type = true →
      ∃ after, writeResult store type value storage = .ok ⟨true, after⟩ ∧
        Widened type value storage after) ∧
    (∀ type kind held, CType.scalarKind? type = some kind → readResult held type =
      .scalar (Scalar.ofNat kind (LittleEndian.decode (held.take 8)))) ∧
    ∀ type value accepted after, writeResult store type value storage = .ok ⟨accepted, after⟩ →
      after.drop (max type.size.toNat 8) = storage.drop (max type.size.toNat 8) := by
  refine ⟨fun type value plain complete fits => ?_, fun _ _ _ => readResult_of_scalarKind?,
    fun _ _ _ _ => drop_of_writeResult_max⟩
  exact ⟨_, writeResult_of_number store storage fits complete plain,
    widened_overlay (Value.fits_iff.mp fits) plain room⟩

/-- The byte `-1` fills its register, whatever was in it, and is `-1` again when it is read. -/
theorem readResult_widened_negative :
    let storage := List.replicate 16 0xaa
    ∃ after, writeResult .empty (.int .w8 true) (.scalar ⟨.i8, 255⟩) storage = .ok ⟨true, after⟩ ∧
      after.take 8 = List.replicate 8 0xff ∧ after.drop 8 = List.replicate 8 0xaa ∧
      readResult after (.int .w8 true) = .scalar ⟨.i8, 255⟩ := by
  intro storage
  obtain ⟨plain, -, -⟩ := readResult_widened .empty (show 8 ≤ storage.length by decide)
  obtain ⟨after, written, widened⟩ := plain (.int .w8 true) (.scalar ⟨.i8, 255⟩) nofun nofun rfl
  obtain ⟨s, hs, register⟩ := widened.register .w8 true rfl
  cases hs
  exact ⟨after, written, register, widened.behind, widened.read⟩

end Marshal
end Foreign
