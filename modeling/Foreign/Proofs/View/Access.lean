import Foreign.Proofs.Memory.Ranges
import Foreign.Proofs.Value.Codec
import Foreign.View.Access

/-!
Reading and writing, one statement for each way an access can end. A view of a reference reads without
memory; any other view reads and writes the bytes of one element, if it may use them.
-/

namespace Foreign.View

theorem share_of_backed {view : View} {extent : Buffer} (backed : view.backing = .buffer extent) :
    view.backing.share = .buffer extent := by
  rw [backed]
  rfl

@[simp] theorem elementAddress_zero (view : View) : view.elementAddress 0 = view.address := by
  rw [elementAddress, UInt64.zero_mul, UInt64.add_zero]

theorem step_of_direct {view : View} (direct : view.levels = 0) (complete : view.element ≠ .void) :
    view.step = view.element.stride := by
  rw [step, access, if_pos direct]
  cases h : view.element with
  | void => exact absurd h complete
  | int width signed => cases width <;> cases signed <;> rfl
  | float | double | pointer _ | struct _ => rfl

theorem read_of_reference {view : View} (reference : view.levels ≠ 0) (store : Store) (index : Word) :
    view.read store index = .ok (.pointer (view.dereference (view.elementAddress index))) := by
  rw [read, if_pos reference]

theorem read_of_direct {view : View} (direct : view.levels = 0) (store : Store) (index : Word) :
    view.read store index =
      (view.check store (view.elementAddress index) view.element.size).map fun _ =>
        view.valueAt store.memory (view.elementAddress index) := by
  rw [read, if_neg (not_not_intro direct)]
  cases view.check store (view.elementAddress index) view.element.size <;> rfl

theorem check_of_reaches {view : View} {store : Store} {address size : Word}
    (reaches : view.reaches store address size = true) : view.check store address size = .ok () := by
  rw [check, if_pos reaches]

theorem read_of_reaches {view : View} {store : Store} {index : Word} (direct : view.levels = 0)
    (reaches : view.reaches store (view.elementAddress index) view.element.size = true) :
    view.read store index = .ok (view.valueAt store.memory (view.elementAddress index)) := by
  rw [read_of_direct direct, check_of_reaches reaches]
  rfl

theorem valueAt_of_plain {view : View} (plain : view.element.IsPlain) (memory : Memory)
    (address : Word) :
    view.valueAt memory address =
      .decode view.element (memory.read address view.element.size.toNat) := by
  cases h : view.element with
  | struct layout => exact absurd h (plain layout)
  | void | int _ _ | float | double | pointer _ => simp only [valueAt, h]

theorem valueAt_of_struct {view : View} {layout : Layout} (declared : view.element = .struct layout)
    (memory : Memory) (address : Word) :
    view.valueAt memory address = .struct (view.derive address (.struct layout)) := by
  simp only [valueAt, declared]

/-- A struct's value needs none of its bytes, any other value all of them. -/
theorem valueAt_congr {view : View} {memory other : Memory} {address : Word}
    (h : memory.read address view.element.size.toNat = other.read address view.element.size.toNat) :
    view.valueAt memory address = view.valueAt other address := by
  cases helement : view.element with
  | struct layout => simp only [valueAt, helement]
  | void | int _ _ | float | double | pointer _ =>
      rw [helement] at h
      simp only [valueAt, helement, h]

theorem check_eq_ok_iff {view : View} {store : Store} {address size : Word} :
    view.check store address size = .ok () ↔ view.reaches store address size = true := by
  rw [check]
  split
  · simp only [*]
  · cases view.backing <;> simp [*]

theorem read_eq_ok_iff {view : View} {store : Store} {index : Word} {value : Value} :
    view.read store index = .ok value ↔
      view.levels ≠ 0 ∧ value = .pointer (view.dereference (view.elementAddress index)) ∨
      view.levels = 0 ∧
        view.reaches store (view.elementAddress index) view.element.size = true ∧
        value = view.valueAt store.memory (view.elementAddress index) := by
  by_cases direct : view.levels = 0
  · simp only [read_of_direct direct, direct, ne_eq, not_true, false_and, false_or, true_and]
    rw [Outcome.map_eq_ok_iff]
    constructor
    · rintro ⟨⟨⟩, passed, rfl⟩
      exact ⟨check_eq_ok_iff.mp passed, rfl⟩
    · rintro ⟨reaches, rfl⟩
      exact ⟨(), check_of_reaches reaches, rfl⟩
  · simp only [read_of_reference direct, direct, ne_eq, not_false_eq_true, true_and, false_and,
      or_false, Except.ok.injEq, eq_comm]

/-- A pointer that is read from memory is borrowed, and leads to what the element declares. -/
theorem valueAt_eq_pointer_iff {view target : View} {memory : Memory} {address : Word} :
    view.valueAt memory address = .pointer target ↔ ∃ pointee, view.element = .pointer pointee ∧
      target = wrap (UInt64.ofNat (LittleEndian.decode (memory.read address 8))) pointee := by
  by_cases struct : ∃ layout, view.element = .struct layout
  · obtain ⟨layout, declared⟩ := struct
    simp [valueAt_of_struct declared, declared]
  · rw [valueAt_of_plain (not_exists.mp struct), Value.decode_eq_pointer_iff]
    refine exists_congr fun pointee => and_congr_right fun declared => ?_
    rw [declared]
    rfl

theorem valueAt_eq_struct_iff {view target : View} {memory : Memory} {address : Word} :
    view.valueAt memory address = .struct target ↔ ∃ layout, view.element = .struct layout ∧
      target = view.derive address (.struct layout) := by
  by_cases struct : ∃ layout, view.element = .struct layout
  · obtain ⟨layout, declared⟩ := struct
    simp [valueAt_of_struct declared, declared, eq_comm]
  · rw [valueAt_of_plain (not_exists.mp struct)]
    refine iff_of_false (Value.decode_ne_struct _ _ _) ?_
    rintro ⟨layout, declared, -⟩
    exact struct ⟨layout, declared⟩

/-- The permission to write is that to read, asked for in two parts. -/
theorem reaches_iff_ensure {view : View} {store : Store} {address size : Word} :
    view.reaches store address size = true ↔
      view.ensureExtent address size = .ok () ∧ view.ensureLive store address size = .ok () := by
  rw [reaches, ensureExtent, ensureLive]
  cases view.backing <;> simp

/-- A view of a buffer has the `size` bytes at `address` in its buffer. -/
def Keeps (view : View) (address size : Word) : Prop :=
  ∀ extent, view.backing = .buffer extent → extent.Spans address size

/-- A view of no buffer has the `size` bytes at `address` in a live block. -/
def Live (view : View) (store : Store) (address size : Word) : Prop :=
  (∀ extent, view.backing ≠ .buffer extent) → store.allows address size = true

theorem ensureExtent_eq_ok_iff {view : View} {address size : Word} :
    view.ensureExtent address size = .ok () ↔ view.Keeps address size := by
  rw [ensureExtent, Keeps]
  cases view.backing <;> simp [Buffer.contains_iff_spans]

theorem ensureExtent_eq_error_iff {view : View} {address size : Word} {failure : Failure} :
    view.ensureExtent address size = .error failure ↔
      ∃ extent, view.backing = .buffer extent ∧ ¬ extent.Spans address size ∧
        failure = .value (.outOfExtent address size extent) := by
  rw [ensureExtent]
  cases view.backing with
  | borrowed | heap => simp
  | buffer extent =>
      by_cases spans : extent.Spans address size
      · simp [Buffer.contains_iff_spans, spans]
      · simp only [if_neg (mt Buffer.contains_iff_spans.mp spans), Backing.buffer.injEq]
        constructor
        · rintro ⟨⟩
          exact ⟨extent, rfl, spans, rfl⟩
        · rintro ⟨_, rfl, -, rfl⟩
          rfl

theorem ensureLive_eq_ok_iff {view : View} {store : Store} {address size : Word} :
    view.ensureLive store address size = .ok () ↔ view.Live store address size := by
  rw [ensureLive, Live]
  cases view.backing <;> simp

theorem ensureLive_eq_error_iff {view : View} {store : Store} {address size : Word}
    {failure : Failure} :
    view.ensureLive store address size = .error failure ↔
      ¬ view.Live store address size ∧ failure = .undefined := by
  rw [ensureLive, Live]
  cases view.backing with
  | buffer extent => simp
  | borrowed | heap =>
      cases store.allows address size with
      | true => simp
      | false => simp [eq_comm (a := failure)]

/-- The bytes that writing a value puts in place of an element of `size` bytes. -/
def payload (store : Store) (size : Nat) : Value → List UInt8
  | .struct source => store.memory.read source.address size
  | value => value.encode

theorem payload_of_number {value : Value} (number : ∀ source, value ≠ .struct source) (store : Store)
    (size : Nat) : payload store size value = value.encode := by
  cases value with
  | struct source => exact absurd rfl (number source)
  | void | scalar _ | pointer _ => rfl

theorem length_payload {value : Value} {type : CType} (fits : value.fits type = true) (store : Store) :
    (payload store type.size.toNat value).length = type.size.toNat := by
  cases value with
  | struct source => exact Memory.length_read _ _ _
  | void | scalar _ | pointer _ =>
      have hfits := Value.fits_iff.mp fits
      exact Value.length_encode_of_fits hfits (hfits.plain (fun _ h => (nomatch h)))

/-- What is asked of the source of a struct, in the two parts of the permission to write. -/
def ensureSourceExtent (size : Word) : Value → Outcome Unit
  | .struct source => source.ensureExtent source.address size
  | _ => .ok ()

def ensureSourceLive (store : Store) (size : Word) : Value → Outcome Unit
  | .struct source => source.ensureLive store source.address size
  | _ => .ok ()

theorem ensureSource_iff {store : Store} {size : Word} {value : Value} :
    ensureSourceExtent size value = .ok () ∧ ensureSourceLive store size value = .ok () ↔
      ∀ source, value = .struct source → source.reaches store source.address size = true := by
  cases value with
  | struct source =>
      simp only [ensureSourceExtent, ensureSourceLive, ← reaches_iff_ensure, Value.struct.injEq]
      exact ⟨fun h other heq => heq ▸ h, fun h => h source rfl⟩
  | void | scalar _ | pointer _ => simp [ensureSourceExtent, ensureSourceLive]

/-- A write of a fitting value is settled by the permissions alone. -/
theorem write_of_fits {view : View} {value : Value} (direct : view.levels = 0)
    (complete : view.element ≠ .void) (fits : value.fits view.element = true) (store : Store)
    (index : Word) :
    view.write store index value = do
      view.ensureExtent (view.elementAddress index) view.element.size
      ensureSourceExtent view.element.size value
      view.ensureLive store (view.elementAddress index) view.element.size
      ensureSourceLive store view.element.size value
      return { store with
        memory := store.memory.write (view.elementAddress index)
          (payload store view.element.size.toNat value) } := by
  have hvoid := CType.isVoid_of_complete complete
  rw [write, if_neg (not_not_intro direct), if_neg (by simp [hvoid, fits])]
  cases value with
  | struct source => rfl
  | void | scalar _ | pointer _ =>
      simp only [ensureSourceExtent, ensureSourceLive, Outcome.ok_bind, payload]

theorem write_of_reference {view : View} (reference : view.levels ≠ 0) (store : Store) (index : Word)
    (value : Value) : view.write store index value = .error (.value .readOnlyIndirection) := by
  rw [write, if_pos reference]

theorem write_of_unfit {view : View} {value : Value} (direct : view.levels = 0)
    (unfit : ¬ (view.element ≠ .void ∧ value.fits view.element = true)) (store : Store) (index : Word) :
    view.write store index value =
      .error (.value (.typeMismatch view.element value.kindName)) := by
  have hrefused : (view.element.isVoid || !value.fits view.element) = true := by
    rw [not_and_or, not_not, Bool.not_eq_true] at unfit
    rcases unfit with hvoid | hfits
    · rw [hvoid]
      rfl
    · rw [hfits, Bool.not_false, Bool.or_true]
  rw [write, if_neg (not_not_intro direct), if_pos hrefused]

theorem fits_of_write {view : View} {store later : Store} {index : Word} {value : Value}
    (written : view.write store index value = .ok later) :
    view.levels = 0 ∧ view.element ≠ .void ∧ value.fits view.element = true := by
  by_cases direct : view.levels = 0
  · by_cases fits : view.element ≠ .void ∧ value.fits view.element = true
    · exact ⟨direct, fits⟩
    · rw [write_of_unfit direct fits] at written
      cases written
  · rw [write_of_reference direct] at written
    cases written

theorem write_eq_ok_iff {view : View} {store later : Store} {index : Word} {value : Value} :
    view.write store index value = .ok later ↔
      view.levels = 0 ∧ view.element ≠ .void ∧ value.fits view.element = true ∧
      view.reaches store (view.elementAddress index) view.element.size = true ∧
      (∀ source, value = .struct source →
        source.reaches store source.address view.element.size = true) ∧
      later = { store with
        memory := store.memory.write (view.elementAddress index)
          (payload store view.element.size.toNat value) } := by
  constructor
  · intro written
    obtain ⟨direct, complete, fits⟩ := fits_of_write written
    rw [write_of_fits direct complete fits] at written
    obtain ⟨⟨⟩, hextent, written⟩ := Outcome.bind_eq_ok_iff.mp written
    obtain ⟨⟨⟩, hsource, written⟩ := Outcome.bind_eq_ok_iff.mp written
    obtain ⟨⟨⟩, hlive, written⟩ := Outcome.bind_eq_ok_iff.mp written
    obtain ⟨⟨⟩, hsourceLive, written⟩ := Outcome.bind_eq_ok_iff.mp written
    exact ⟨direct, complete, fits, reaches_iff_ensure.mpr ⟨hextent, hlive⟩,
      ensureSource_iff.mp ⟨hsource, hsourceLive⟩, (Except.ok.inj written).symm⟩
  · rintro ⟨direct, complete, fits, reaches, source, rfl⟩
    obtain ⟨hextent, hlive⟩ := reaches_iff_ensure.mp reaches
    obtain ⟨hsource, hsourceLive⟩ := ensureSource_iff.mpr source
    rw [write_of_fits direct complete fits, hextent, hsource, hlive, hsourceLive]
    rfl

theorem write_of_plain {view : View} {store : Store} {index : Word} {value : Value}
    (direct : view.levels = 0) (complete : view.element ≠ .void) (plain : view.element.IsPlain)
    (fits : value.fits view.element = true)
    (reaches : view.reaches store (view.elementAddress index) view.element.size = true) :
    view.write store index value =
      .ok { store with memory := store.memory.write (view.elementAddress index) value.encode } := by
  have number := (Value.fits_iff.mp fits).ne_struct plain
  rw [write_eq_ok_iff, payload_of_number number]
  exact ⟨direct, complete, fits, reaches, fun source h => absurd h (number source), rfl⟩

end Foreign.View
