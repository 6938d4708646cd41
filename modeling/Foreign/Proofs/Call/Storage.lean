import Mathlib.Data.List.Forall2
import Foreign.Call.Frame
import Foreign.Proofs.View.Access

/-!
What a call puts into storage is what comes out on the other side. An argument arrives as the bytes that
writing it would leave in memory; of the arguments that do not fit the first is named. A result is read back
as it was written: what an integer was extended by on the way in is cut off on the way out, whatever its
width and sign.
-/

namespace Foreign

namespace LittleEndian

theorem take_encode {k m : Nat} (h : k ≤ m) (n : Nat) : (encode m n).take k = encode k n := by
  induction k generalizing m n with
  | zero => rfl
  | succ k ih =>
      cases m with
      | zero => omega
      | succ m => rw [encode, List.take_succ_cons, ih (by omega), encode]

/-- Bytes keep a number modulo their range. -/
theorem encode_congr {size n m : Nat} (h : n % Nat.pow 256 size = m % Nat.pow 256 size) :
    encode size n = encode size m := by
  have hmod : ∀ k, encode size (k % Nat.pow 256 size) = encode size k := by
    intro k
    have hk := encode_decode (encode size k)
    rwa [length_encode, decode_encode] at hk
  rw [← hmod n, h, hmod m]

end LittleEndian

theorem take_overlay (storage : List UInt8) {bytes : List UInt8} {n : Nat} (h : bytes.length = n) :
    (overlay storage bytes).take n = bytes := by
  rw [overlay, ← h, List.take_left]

namespace Scalar

theorem size_le (kind : ScalarKind) : kind.size ≤ Slot.wordSize := by
  cases kind <;> decide

theorem setWidth_signExtend {w : Nat} (bits : BitVec w) (h : w ≤ 64) :
    (bits.signExtend 64).setWidth w = bits := by
  ext i hi
  simp only [BitVec.getElem_setWidth, BitVec.getLsbD_signExtend]
  simp [hi, show i < 64 by omega]

/-- An integer in a word has the integer's own bytes in front. -/
theorem take_integer {s : Scalar} {bits : BitVec 64} (h : s.integer? = some bits) :
    (LittleEndian.encode Slot.wordSize bits.toNat).take s.kind.size = s.encode := by
  have hwidth : s.kind.width ≤ 64 := Nat.mul_le_mul_left 8 (size_le s.kind)
  have hcut : bits.setWidth s.kind.width = s.bits := by
    rw [integer?] at h
    split at h
    · cases h
    · split at h
      · rw [← Option.some.inj h]
        exact setWidth_signExtend s.bits hwidth
      · rw [← Option.some.inj h]
        simp [hwidth]
  rw [LittleEndian.take_encode (size_le s.kind), encode]
  apply LittleEndian.encode_congr
  have hpow : Nat.pow 256 s.kind.size = 2 ^ s.kind.width := (Nat.pow_mul 2 8 s.kind.size).symm
  rw [hpow, ← hcut, BitVec.toNat_setWidth, Nat.mod_mod]

end Scalar

theorem CType.size_le_of_plain {type : CType} (plain : type.IsPlain) : type.size.toNat ≤ Slot.wordSize := by
  cases type with
  | struct layout => exact absurd rfl (plain layout)
  | int width _ => cases width <;> exact Nat.le_of_ble_eq_true rfl
  | void | float | double | pointer _ => exact Nat.le_of_ble_eq_true rfl

/-- An argument that a parameter takes. -/
def Value.Accepted (type : CType) (value : Value) : Prop :=
  Value.Fits value type ∧ type ≠ .void

namespace Slot

theorem accepted_of_ofValue? {type : CType} {value : Value} {slot : Slot}
    (h : ofValue? type value = some slot) : value.Accepted type := by
  simp only [ofValue?] at h
  by_cases fits : value.fits type = true
  · rw [if_pos fits] at h
    refine ⟨Value.fits_iff.mp fits, ?_⟩
    rintro rfl
    cases value with
    | void => cases h
    | scalar _ | pointer _ | struct _ => cases fits
  · rw [if_neg fits] at h
    cases h

theorem exists_ofValue? {type : CType} {value : Value} (accepted : value.Accepted type) :
    ∃ slot, ofValue? type value = some slot := by
  obtain ⟨fits, complete⟩ := accepted
  simp only [ofValue?]
  rw [if_pos (Value.fits_iff.mpr fits)]
  cases value with
  | void => cases fits; exact absurd rfl complete
  | scalar _ | pointer _ | struct _ => exact ⟨_, rfl⟩

theorem ofValue?_number {type : CType} {value : Value} (accepted : value.Accepted type)
    (number : ∀ view, value ≠ .struct view) :
    ofValue? type value = some (.word (overlay (List.replicate wordSize 0) value.encode)) := by
  obtain ⟨fits, complete⟩ := accepted
  simp only [ofValue?]
  rw [if_pos (Value.fits_iff.mpr fits)]
  cases value with
  | void => cases fits; exact absurd rfl complete
  | struct view => exact absurd rfl (number view)
  | scalar _ | pointer _ => rfl

theorem load?_of_ofValue? {type : CType} {value : Value} {slot : Slot} {store : Store}
    (h : ofValue? type value = some slot)
    (allowed : ∀ view, value = .struct view → store.allows view.address type.size = true) :
    slot.load? type store = some (View.payload store type.size.toNat value) := by
  have accepted := (accepted_of_ofValue? h).1
  simp only [ofValue?] at h
  rw [if_pos (Value.fits_iff.mpr accepted)] at h
  cases value with
  | void => cases h
  | scalar _ | pointer _ =>
      cases h
      have plain := accepted.plain (fun _ h => (nomatch h))
      exact congrArg some (take_overlay _ (Value.length_encode_of_fits accepted plain))
  | struct view =>
      cases h
      exact if_pos (allowed view rfl)

end Slot

namespace Marshal

theorem ofValue?_struct {type : CType} {source : View} (fits : (Value.struct source).fits type = true) :
    Slot.ofValue? type (.struct source) = some (.memory source.address) :=
  if_pos fits

def payloads (store : Store) (types : List CType) (values : List Value) : List (List UInt8) :=
  List.zipWith (fun type value => View.payload store type.size.toNat value) types values

theorem slotsFrom_cons_eq_ok_iff {index : Nat} {type : CType} {types : List CType} {value : Value}
    {values : List Value} {slots : List Slot} :
    slotsFrom index (type :: types) (value :: values) = .ok slots ↔
      ∃ slot rest, Slot.ofValue? type value = some slot ∧
        slotsFrom (index + 1) types values = .ok rest ∧ slots = slot :: rest := by
  rw [slotsFrom]
  cases Slot.ofValue? type value with
  | none => simp
  | some slot =>
      cases slotsFrom (index + 1) types values with
      | error failure => simp [Except.map]
      | ok rest => simp [Except.map, eq_comm]

theorem accepted_of_slotsFrom {index : Nat} {types : List CType} {values : List Value}
    {slots : List Slot} (length : types.length = values.length)
    (marshalled : slotsFrom index types values = .ok slots) :
    List.Forall₂ Value.Accepted types values := by
  induction types generalizing index values slots with
  | nil =>
      obtain rfl := List.eq_nil_of_length_eq_zero length.symm
      exact .nil
  | cons type types ih =>
      cases values with
      | nil => cases length
      | cons value values =>
          obtain ⟨slot, rest, hslot, hrest, rfl⟩ := slotsFrom_cons_eq_ok_iff.mp marshalled
          exact .cons (Slot.accepted_of_ofValue? hslot) (ih (Nat.succ.inj length) hrest)

/-- What is loaded from the slots is what each argument puts in storage. -/
theorem load_of_slotsFrom {store : Store} {index : Nat} {types : List CType} {values : List Value}
    {slots : List Slot} (length : types.length = values.length)
    (marshalled : slotsFrom index types values = .ok slots)
    (allowed : ∀ view, .struct view ∈ values → store.allows view.address view.element.size = true) :
    load store types slots = .ok (payloads store types values) := by
  induction types generalizing index values slots with
  | nil =>
      obtain rfl := List.eq_nil_of_length_eq_zero length.symm
      cases marshalled
      rfl
  | cons type types ih =>
      cases values with
      | nil => cases length
      | cons value values =>
          obtain ⟨slot, rest, hslot, hrest, rfl⟩ := slotsFrom_cons_eq_ok_iff.mp marshalled
          have hload := ih (Nat.succ.inj length) hrest
            (fun view mem => allowed view (List.mem_cons_of_mem _ mem))
          have hfirst : slot.load? type store = some (View.payload store type.size.toNat value) := by
            apply Slot.load?_of_ofValue? hslot
            rintro view rfl
            have hview := allowed view (by simp)
            cases (Slot.accepted_of_ofValue? hslot).1 with
            | struct element => rwa [element] at hview
          rw [load, hfirst, hload]
          rfl

theorem slotsFrom_of_slots {types : List CType} {values : List Value} {slots : List Slot}
    (marshalled : Marshal.slots types values = .ok slots) :
    types.length = values.length ∧ slotsFrom 0 types values = .ok slots := by
  rw [Marshal.slots] at marshalled
  by_cases length : types.length = values.length
  · rw [if_pos length] at marshalled
    exact ⟨length, marshalled⟩
  · rw [if_neg length] at marshalled
    cases marshalled

theorem load_of_slots {store : Store} {types : List CType} {values : List Value} {slots : List Slot}
    (marshalled : Marshal.slots types values = .ok slots)
    (allowed : ∀ view, .struct view ∈ values → store.allows view.address view.element.size = true) :
    List.Forall₂ Value.Accepted types values ∧
      load store types slots = .ok (payloads store types values) := by
  obtain ⟨length, hfrom⟩ := slotsFrom_of_slots marshalled
  exact ⟨accepted_of_slotsFrom length hfrom, load_of_slotsFrom length hfrom allowed⟩

theorem exists_slots {types : List CType} {values : List Value}
    (accepted : List.Forall₂ Value.Accepted types values) :
    ∃ slots, Marshal.slots types values = .ok slots := by
  have hfrom : ∀ index, ∃ slots, slotsFrom index types values = .ok slots := by
    induction accepted with
    | nil => exact fun _ => ⟨[], rfl⟩
    | cons first _ ih =>
        intro index
        obtain ⟨slot, hslot⟩ := Slot.exists_ofValue? first
        obtain ⟨rest, hrest⟩ := ih (index + 1)
        exact ⟨slot :: rest, slotsFrom_cons_eq_ok_iff.mpr ⟨slot, rest, hslot, hrest, rfl⟩⟩
  rw [Marshal.slots]
  rw [if_pos accepted.length_eq]
  exact hfrom 0

theorem slots_eq_ok_iff {types : List CType} {values : List Value} :
    (∃ slots, Marshal.slots types values = .ok slots) ↔ List.Forall₂ Value.Accepted types values := by
  refine ⟨?_, exists_slots⟩
  rintro ⟨slots, marshalled⟩
  obtain ⟨length, hfrom⟩ := slotsFrom_of_slots marshalled
  exact accepted_of_slotsFrom length hfrom

/-- The first value that its parameter does not take. -/
structure Misfit (types : List CType) (values : List Value) (index : Nat) (type : CType)
    (value : Value) : Prop where
  parameter : types[index]? = some type
  argument : values[index]? = some value
  unfit : ¬ value.Accepted type
  first : ∀ earlier < index, ∀ type value, types[earlier]? = some type →
    values[earlier]? = some value → value.Accepted type

section

variable {type other : CType} {types : List CType} {value found : Value} {values : List Value}
  {index : Nat}

theorem misfit_zero_iff : Misfit (type :: types) (value :: values) 0 other found ↔
    other = type ∧ found = value ∧ ¬ value.Accepted type := by
  constructor
  · rintro ⟨⟨⟩, ⟨⟩, unfit, -⟩
    exact ⟨rfl, rfl, unfit⟩
  · rintro ⟨rfl, rfl, unfit⟩
    exact ⟨rfl, rfl, unfit, fun _ h => absurd h (Nat.not_lt_zero _)⟩

theorem misfit_succ_iff : Misfit (type :: types) (value :: values) (index + 1) other found ↔
    value.Accepted type ∧ Misfit types values index other found := by
  constructor
  · rintro ⟨htype, hvalue, unfit, first⟩
    refine ⟨first 0 (Nat.zero_lt_succ index) type value rfl rfl, htype, hvalue, unfit, ?_⟩
    intro earlier hlt
    exact first (earlier + 1) (Nat.succ_lt_succ hlt)
  · rintro ⟨accepted, htype, hvalue, unfit, first⟩
    refine ⟨htype, hvalue, unfit, ?_⟩
    intro earlier hlt
    cases earlier with
    | zero =>
        rintro _ _ ⟨⟩ ⟨⟩
        exact accepted
    | succ earlier => exact first earlier (Nat.lt_of_succ_lt_succ hlt)

theorem slotsFrom_cons_eq_error_iff {start : Nat} {failure : Failure} :
    slotsFrom start (type :: types) (value :: values) = .error failure ↔
      ¬ value.Accepted type ∧ failure = .invocation (.argumentType start type value.kindName) ∨
      value.Accepted type ∧ slotsFrom (start + 1) types values = .error failure := by
  rw [slotsFrom]
  cases hslot : Slot.ofValue? type value with
  | none =>
      have unfit : ¬ value.Accepted type := by
        intro accepted
        obtain ⟨slot, heq⟩ := Slot.exists_ofValue? accepted
        cases hslot.symm.trans heq
      simp [unfit, eq_comm]
  | some slot =>
      have accepted := Slot.accepted_of_ofValue? hslot
      cases slotsFrom (start + 1) types values with
      | ok rest => simp [accepted, Except.map]
      | error cause => simp [accepted, Except.map]

theorem slotsFrom_eq_error_iff {start : Nat} {failure : Failure} :
    slotsFrom start types values = .error failure ↔
      ∃ index type value, Misfit types values index type value ∧
        failure = .invocation (.argumentType (start + index) type value.kindName) := by
  induction types generalizing start values with
  | nil =>
      refine iff_of_false (by rintro ⟨⟩) ?_
      rintro ⟨index, type, value, ⟨⟨⟩, -, -, -⟩, -⟩
  | cons type types ih =>
      cases values with
      | nil =>
          refine iff_of_false (by rintro ⟨⟩) ?_
          rintro ⟨index, type, value, ⟨-, ⟨⟩, -, -⟩, -⟩
      | cons value values =>
          have hnext : ∀ index, start + 1 + index = start + (index + 1) := by
            intro index
            rw [Nat.add_assoc, Nat.add_comm 1 index]
          rw [slotsFrom_cons_eq_error_iff, ih]
          constructor
          · rintro (⟨unfit, rfl⟩ | ⟨accepted, index, other, found, misfit, rfl⟩)
            · exact ⟨0, type, value, misfit_zero_iff.mpr ⟨rfl, rfl, unfit⟩, rfl⟩
            · exact ⟨index + 1, other, found, misfit_succ_iff.mpr ⟨accepted, misfit⟩, by rw [hnext]⟩
          · rintro ⟨_ | index, other, found, misfit, rfl⟩
            · obtain ⟨rfl, rfl, unfit⟩ := misfit_zero_iff.mp misfit
              exact .inl ⟨unfit, rfl⟩
            · obtain ⟨accepted, rest⟩ := misfit_succ_iff.mp misfit
              exact .inr ⟨accepted, index, other, found, rest, by rw [hnext]⟩

end

/-- What is wrong with the arguments. -/
inductive Rejects (types : List CType) (values : List Value) : InvocationError → Prop
  | count (differs : types.length ≠ values.length) :
      Rejects types values (.argumentCount types.length values.length)
  | argument {index : Nat} {type : CType} {value : Value} (same : types.length = values.length)
      (misfit : Misfit types values index type value) :
      Rejects types values (.argumentType index type value.kindName)

theorem slots_eq_error_iff {types : List CType} {values : List Value} {failure : Failure} :
    slots types values = .error failure ↔
      ∃ cause, Rejects types values cause ∧ failure = .invocation cause := by
  rw [slots]
  by_cases same : types.length = values.length
  · rw [if_pos same, slotsFrom_eq_error_iff]
    constructor
    · rintro ⟨index, type, value, misfit, rfl⟩
      rw [Nat.zero_add]
      exact ⟨_, .argument same misfit, rfl⟩
    · rintro ⟨cause, differs | ⟨-, misfit⟩, rfl⟩
      · exact absurd same differs
      · exact ⟨_, _, _, misfit, by rw [Nat.zero_add]⟩
  · rw [if_neg same]
    constructor
    · rintro ⟨⟩
      exact ⟨_, .count same, rfl⟩
    · rintro ⟨cause, differs | ⟨same', -⟩, rfl⟩
      · rfl
      · exact absurd same' same

theorem size_le_resultWidth (type : CType) : type.size.toNat ≤ resultWidth type := by
  cases type with
  | struct layout => exact Nat.le_refl _
  | void | int _ _ | float | double | pointer _ => exact Nat.le_max_left _ _

theorem wordSize_le_resultWidth {type : CType} (plain : type.IsPlain) :
    Slot.wordSize ≤ resultWidth type := by
  cases type with
  | struct layout => exact absurd rfl (plain layout)
  | void | int _ _ | float | double | pointer _ => exact Nat.le_max_right _ _

end Marshal

/-- The bytes that a number or a pointer has as a result. An integer is extended to a word. -/
def Value.widened (value : Value) : List UInt8 :=
  match value.integer? with
  | some bits => LittleEndian.encode Slot.wordSize bits.toNat
  | none => value.encode

/-- The value's own bytes come first. -/
theorem Value.take_widened {type : CType} {value : Value} (fits : Fits value type)
    (plain : type.IsPlain) : value.widened.take type.size.toNat = value.encode := by
  rw [widened]
  cases integer : value.integer? with
  | none => exact List.take_of_length_le (Nat.le_of_eq (length_encode_of_fits fits plain))
  | some bits =>
      cases fits with
      | scalar kind =>
          rw [CType.size_of_scalarKind? kind]
          exact Scalar.take_integer integer
      | void | pointer | struct _ => cases integer

theorem Value.length_widened_le {type : CType} {value : Value} (fits : Fits value type)
    (plain : type.IsPlain) : value.widened.length ≤ Marshal.resultWidth type := by
  rw [widened]
  cases value.integer? with
  | none => exact length_encode_of_fits fits plain ▸ Marshal.size_le_resultWidth type
  | some bits =>
      rw [LittleEndian.length_encode]
      exact Marshal.wordSize_le_resultWidth plain

namespace Marshal

/-- A scalar or a pointer that fits is accepted. -/
theorem writeResult_of_number {type : CType} {value : Value} (store : Store) (storage : List UInt8)
    (fits : value.fits type = true) (complete : type ≠ .void) (plain : type.IsPlain) :
    writeResult store type value storage = .ok ⟨true, overlay storage value.widened⟩ := by
  have hfits := Value.fits_iff.mp fits
  have hvoid := CType.isVoid_of_complete complete
  simp only [writeResult, Value.widened]
  simp only [hvoid, fits, Bool.not_true, Bool.false_eq_true, if_false]
  cases value with
  | struct source => exact absurd rfl (hfits.ne_struct plain source)
  | void => cases hfits; exact absurd rfl complete
  | pointer view => rfl
  | scalar s => cases (Value.scalar s).integer? <;> rfl

theorem take_widened_append {type : CType} {value : Value} (fits : Value.Fits value type)
    (plain : type.IsPlain) (rest : List UInt8) :
    (value.widened ++ rest).take type.size.toNat = value.encode := by
  have own := Value.take_widened fits plain
  have enough : type.size.toNat ≤ value.widened.length := by
    have length := congrArg List.length own
    rw [List.length_take, Value.length_encode_of_fits fits plain] at length
    omega
  rw [List.take_append_of_le_length enough, own]

/-- A scalar or a pointer comes back from result storage as it was put in. -/
theorem readResult_of_writeResult {type : CType} {value : Value} (store : Store) (storage : List UInt8)
    (fits : value.fits type = true) (complete : type ≠ .void) (plain : type.IsPlain) :
    ∃ written, writeResult store type value storage = .ok ⟨true, written⟩ ∧
      readResult written type = value.asRead type := by
  have hfits := Value.fits_iff.mp fits
  refine ⟨_, writeResult_of_number store storage fits complete plain, ?_⟩
  rw [readResult, overlay, take_widened_append hfits plain, Value.decode_encode_of_fits hfits plain]

/-- A struct that fits is asked for its bytes, and for the buffer first. -/
theorem writeResult_of_source {type : CType} {source : View} {store : Store} (storage : List UInt8)
    (fits : (Value.struct source).fits type = true) :
    writeResult store type (.struct source) storage =
      match source.ensureExtent source.address type.size with
      | .error _ => .ok ⟨false, storage⟩
      | .ok _ => (source.ensureLive store source.address type.size).map fun _ =>
          ⟨true, overlay storage (store.memory.read source.address type.size.toNat)⟩ := by
  have hvoid : type.isVoid = false := by
    cases Value.fits_iff.mp fits
    rfl
  unfold writeResult
  simp only [hvoid, fits, Bool.not_true, Bool.false_eq_true, if_false]
  cases source.ensureExtent source.address type.size with
  | error _ => rfl
  | ok _ => cases source.ensureLive store source.address type.size <;> rfl

theorem writeResult_of_struct {layout : Layout} {source : View} {store : Store} (storage : List UInt8)
    (fits : (Value.struct source).fits (.struct layout) = true)
    (reaches : source.reaches store source.address layout.size = true) :
    writeResult store (.struct layout) (.struct source) storage =
      .ok ⟨true, overlay storage (store.memory.read source.address layout.size.toNat)⟩ := by
  obtain ⟨hextent, hlive⟩ := View.reaches_iff_ensure.mp reaches
  rw [writeResult_of_source storage fits, CType.size, hextent, hlive]
  rfl

end Marshal
end Foreign
