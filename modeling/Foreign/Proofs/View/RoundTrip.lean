import Foreign.Proofs.Layout.Placement
import Foreign.Proofs.View.Writing

/-!
Reading and writing are inverse. What was written is read back as the element's type has it, and writing
back what was read leaves every byte as it was.
-/

namespace Foreign.View

/-- What is read where a value was written: a number bit for bit, a pointer borrowed and with the pointee
that the element declares, a struct as a view of a copy of its source. -/
inductive Returned (view : View) (before after : Store) (index : Word) : Value → Value → Prop
  | scalar (s : Scalar) : Returned view before after index (.scalar s) (.scalar s)
  | pointer (target : View) {pointee : CType} (declared : view.element = .pointer pointee) :
      Returned view before after index (.pointer target) (.pointer (.wrap target.address pointee))
  | struct {source copy : View} {layout : Layout} (declared : view.element = .struct layout)
      (same : source.element = .struct layout)
      (place : copy = view.derive (view.elementAddress index) (.struct layout))
      (bytes : after.memory.read copy.address layout.size.toNat =
        before.memory.read source.address layout.size.toNat)
      (apart : Memory.Apart copy.address layout.size.toNat source.address layout.size.toNat →
        after.memory.read copy.address layout.size.toNat =
          after.memory.read source.address layout.size.toNat) :
      Returned view before after index (.struct source) (.struct copy)

variable {view : View} {store later : Store} {index : Word} {value : Value}

theorem returned_asRead (complete : view.element ≠ .void) (plain : view.element.IsPlain)
    (fits : Value.Fits value view.element) :
    Returned view store later index value (value.asRead view.element) := by
  generalize declared : view.element = type at *
  cases fits with
  | void => exact absurd rfl complete
  | scalar kind => exact .scalar _
  | pointer => exact .pointer _ declared
  | struct element => exact absurd rfl (plain _)

/-- The element holds the payload once it is written. -/
theorem read_payload {type : CType} (fits : value.fits type = true) (store : Store) (address : Word) :
    (store.memory.write address (payload store type.size.toNat value)).read address type.size.toNat =
      payload store type.size.toNat value := by
  have hlength := length_payload fits store
  have room : (payload store type.size.toNat value).length ≤ UInt64.size := by
    rw [hlength]
    exact Nat.le_of_lt type.size.toNat_lt
  have hread := Memory.read_write store.memory address _ room
  rwa [hlength] at hread

theorem read_of_write (written : view.write store index value = .ok later) :
    ∃ again, view.read later index = .ok again ∧ Returned view store later index value again := by
  obtain ⟨direct, complete, fits, reaches, -, rfl⟩ := write_eq_ok_iff.mp written
  refine ⟨_, read_of_reaches direct reaches, ?_⟩
  have hread := read_payload fits store (view.elementAddress index)
  have hfits := Value.fits_iff.mp fits
  by_cases struct : ∃ source, value = .struct source
  · obtain ⟨source, rfl⟩ := struct
    generalize declared : view.element = type at hfits hread
    cases hfits with
    | @struct _ layout same =>
        rw [valueAt_of_struct declared]
        refine .struct declared same rfl hread fun apart => ?_
        -- a source that is not written over holds now what it held before
        refine hread.trans (Memory.read_write_of_apart ?_).symm
        rw [payload, Memory.length_read]
        exact apart
  · have number := not_exists.mp struct
    have plain := hfits.plain number
    rw [valueAt_of_plain plain, hread, payload_of_number number,
      Value.decode_encode_of_fits hfits plain]
    exact returned_asRead complete plain hfits

theorem fits_valueAt (complete : view.element ≠ .void) (memory : Memory) (address : Word) :
    Value.Fits (view.valueAt memory address) view.element := by
  by_cases struct : ∃ layout, view.element = .struct layout
  · obtain ⟨layout, declared⟩ := struct
    rw [valueAt_of_struct declared, declared]
    exact .struct rfl
  · have plain : view.element.IsPlain := not_exists.mp struct
    rw [valueAt_of_plain plain]
    exact (Value.decode_of_bytes plain complete (Memory.length_read _ _ _)).1

theorem payload_valueAt (complete : view.element ≠ .void) (address : Word) :
    payload store view.element.size.toNat (view.valueAt store.memory address) =
      store.memory.read address view.element.size.toNat := by
  by_cases struct : ∃ layout, view.element = .struct layout
  · obtain ⟨layout, declared⟩ := struct
    rw [valueAt_of_struct declared]
    rfl
  · have plain : view.element.IsPlain := not_exists.mp struct
    have fits := fits_valueAt complete store.memory address
    rw [payload_of_number (fits.ne_struct plain), valueAt_of_plain plain]
    exact (Value.decode_of_bytes plain complete (Memory.length_read _ _ _)).2

theorem reaches_derive (place : Word) (element : CType) (address size : Word) :
    (view.derive place element).reaches store address size = view.reaches store address size := by
  rw [reaches, reaches, derive]
  cases view.backing <;> rfl

theorem write_valueAt (direct : view.levels = 0) (complete : view.element ≠ .void)
    (reaches : view.reaches store (view.elementAddress index) view.element.size = true) :
    view.write store index (view.valueAt store.memory (view.elementAddress index)) = .ok store := by
  have fits := fits_valueAt complete store.memory (view.elementAddress index)
  refine write_eq_ok_iff.mpr ⟨direct, complete, Value.fits_iff.mpr fits, reaches, ?_, ?_⟩
  · -- a struct that is read is a view of the element, so it is used where the element is
    intro source read
    rw [read] at fits
    generalize declared : view.element = type at fits reaches ⊢
    cases fits with
    | struct _ =>
        rw [valueAt_of_struct declared, Value.struct.injEq] at read
        rw [← read, reaches_derive]
        exact reaches
  · rw [payload_valueAt complete, Memory.write_read]

/-- Where an element may be used, a value that fits is written and read back, unless it is a struct whose
source may not be used; and what is read can be written back, which changes nothing. -/
theorem write_read_inverse (direct : view.levels = 0) (complete : view.element ≠ .void)
    (reaches : view.reaches store (view.elementAddress index) view.element.size = true) :
    (∀ value, ((∃ later, view.write store index value = .ok later) ↔
        value.fits view.element = true ∧ ∀ source, value = .struct source →
          source.reaches store source.address view.element.size = true) ∧
      ∀ later, view.write store index value = .ok later → ∃ again,
        view.read later index = .ok again ∧ Returned view store later index value again) ∧
    ∃ value, view.read store index = .ok value ∧ view.write store index value = .ok store := by
  refine ⟨fun value => ⟨?_, fun later => read_of_write⟩,
    ⟨_, read_of_reaches direct reaches, write_valueAt direct complete reaches⟩⟩
  constructor
  · rintro ⟨later, written⟩
    obtain ⟨-, -, fits, -, source, -⟩ := write_eq_ok_iff.mp written
    exact ⟨fits, source⟩
  · rintro ⟨fits, source⟩
    exact ⟨_, write_eq_ok_iff.mpr ⟨direct, complete, fits, reaches, source, rfl⟩⟩

/-- A pair written one place on from where it is. -/
theorem write_read_inverse_sample :
    let pair := ofBuffer ⟨4096, 16⟩ (.struct Layout.samplePair)
    let store : Store := ⟨Memory.zeros.write 4096 [1, 2, 3, 4, 5, 6, 7, 8], []⟩
    (∃ later again, pair.write store 1 (.struct pair) = .ok later ∧
      pair.read later 1 = .ok again ∧ Returned pair store later 1 (.struct pair) again) ∧
    ∃ value, pair.read store 1 = .ok value ∧ pair.write store 1 value = .ok store := by
  intro pair store
  have reaches : pair.reaches store (pair.elementAddress 1) pair.element.size = true := by decide
  obtain ⟨written, back⟩ := write_read_inverse (rfl : pair.levels = 0) nofun reaches
  refine ⟨?_, back⟩
  have reached : ∀ source, Value.struct pair = .struct source →
      source.reaches store source.address pair.element.size = true := by
    rintro source ⟨⟩
    decide
  obtain ⟨later, hwrite⟩ :=
    (written (.struct pair)).1.mpr ⟨Value.fits_iff.mpr (.struct rfl), reached⟩
  obtain ⟨again, hread, returned⟩ := (written (.struct pair)).2 later hwrite
  exact ⟨later, again, hwrite, hread, returned⟩

/-- A pair that fits and lies behind its buffer is not written, though its place is in the buffer. -/
theorem outside_struct_refused :
    let pair := ofBuffer ⟨4096, 8⟩ (.struct Layout.samplePair)
    let source := pair.offset 1
    pair.levels = 0 ∧ pair.element ≠ .void ∧
      pair.reaches .empty (pair.elementAddress 0) pair.element.size = true ∧
      (Value.struct source).fits pair.element = true ∧
      pair.write .empty 0 (.struct source) =
        .error (.value (.outOfExtent source.address pair.element.size ⟨4096, 8⟩)) := by
  intro pair source
  have fits : (Value.struct source).fits pair.element = true := Value.fits_iff.mpr (.struct rfl)
  have reaches : pair.reaches .empty (pair.elementAddress 0) pair.element.size = true := by decide
  have keeps := ensureExtent_eq_ok_iff.mp (reaches_iff_ensure.mp reaches).1
  have takes : pair.Takes (.struct source) := ⟨rfl, nofun, fits⟩
  have leaves : ¬ Buffer.Spans ⟨4096, 8⟩ source.address pair.element.size := by decide
  exact ⟨rfl, nofun, reaches, fits, write_of_refuses (.source takes keeps rfl rfl leaves)⟩

end Foreign.View
