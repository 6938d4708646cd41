import Foreign.Proofs.Call.Failure
import Foreign.Proofs.View.Writing

/-!
Structs as arguments of a call. A struct travels as the address of its bytes, and nothing is asked about the
buffer that its view is held to. A write of the same struct asks whether its bytes lie in that buffer.
-/

namespace Foreign

namespace Buffer

variable {extent : Buffer} {address size : Word}

theorem holds_of_spans (spans : extent.Spans address size) {i : Nat} (hi : i < size.toNat) :
    extent.Holds (address + UInt64.ofNat i).toNat 1 := by
  obtain ⟨ends, hstart, hstop⟩ := spans
  change extent.start.toNat + extent.size.toNat < 2 ^ 64 at ends
  rw [Memory.toNat_add_ofNat (by omega)]
  exact ⟨by omega, by omega⟩

/-- If each byte is in the buffer then so is the range, which does not run over the end of the address
space. -/
theorem spans_of_holds (ends : extent.Ends) (positive : 0 < size.toNat)
    (holds : ∀ i < size.toNat, extent.Holds (address + UInt64.ofNat i).toNat 1) :
    extent.Spans address size := by
  have hends : extent.start.toNat + extent.size.toNat < 2 ^ 64 := ends
  have hfirst := holds 0 positive
  rw [Memory.toNat_add_ofNat (by have := address.toNat_lt; omega)] at hfirst
  obtain ⟨hstart, hstop⟩ := hfirst
  refine ⟨ends, by omega, Nat.le_of_not_lt fun beyond => ?_⟩
  -- the first byte behind the buffer would be in the range
  have hbehind := holds (extent.start.toNat + extent.size.toNat - address.toNat) (by omega)
  rw [Memory.toNat_add_ofNat (by omega)] at hbehind
  have := hbehind.2
  omega

end Buffer

/-- The view, held to no buffer. -/
def View.unheld (view : View) : View :=
  { view with backing := .borrowed }

/-- The value, with its view held to no buffer. -/
def Value.unheld : Value → Value
  | .pointer view => .pointer view.unheld
  | .struct view => .struct view.unheld
  | value => value

theorem Value.fits_unheld (value : Value) (type : CType) : value.unheld.fits type = value.fits type := by
  cases value <;> cases type <;> rfl

namespace Marshal

theorem ofValue?_unheld (type : CType) (value : Value) :
    Slot.ofValue? type value.unheld = Slot.ofValue? type value := by
  simp only [Slot.ofValue?, Value.fits_unheld]
  cases value <;> rfl

theorem slotsFrom_unheld (index : Nat) (types : List CType) (values : List Value) :
    slotsFrom index types (values.map Value.unheld) = slotsFrom index types values := by
  induction types generalizing index values with
  | nil => cases values <;> rfl
  | cons type types ih =>
      cases values with
      | nil => rfl
      | cons value values =>
          rw [List.map_cons, slotsFrom, slotsFrom, ofValue?_unheld, ih]
          cases value <;> rfl

theorem slots_unheld (types : List CType) (values : List Value) :
    slots types (values.map Value.unheld) = slots types values := by
  rw [slots, slots, slotsFrom_unheld, List.length_map]

variable {types : List CType} {values : List Value} {slots : List Slot} {type : CType} {value : Value}

theorem exists_slot_of_slotsFrom {index i : Nat} (marshalled : slotsFrom index types values = .ok slots)
    (parameter : types[i]? = some type) (argument : values[i]? = some value) :
    ∃ slot, slots[i]? = some slot ∧ Slot.ofValue? type value = some slot := by
  induction types generalizing index values slots i with
  | nil => cases parameter
  | cons first types ih =>
      cases values with
      | nil => cases argument
      | cons firstValue values =>
          obtain ⟨slot, rest, hslot, hrest, rfl⟩ := slotsFrom_cons_eq_ok_iff.mp marshalled
          cases i with
          | zero =>
              cases parameter
              cases argument
              exact ⟨slot, rfl, hslot⟩
          | succ i =>
              rw [List.getElem?_cons_succ] at parameter argument ⊢
              exact ih hrest parameter argument

theorem slot_of_struct {i : Nat} {source : View} (marshalled : Marshal.slots types values = .ok slots)
    (argument : values[i]? = some (.struct source)) : slots[i]? = some (.memory source.address) := by
  obtain ⟨length, hfrom⟩ := slotsFrom_of_slots marshalled
  obtain ⟨hi, -⟩ := List.getElem?_eq_some_iff.mp argument
  have parameter := List.getElem?_eq_getElem (length ▸ hi)
  obtain ⟨slot, hslot, made⟩ := exists_slot_of_slotsFrom hfrom parameter argument
  have fits := (Slot.accepted_of_ofValue? made).1
  rw [ofValue?_struct (Value.fits_iff.mpr fits)] at made
  rw [hslot, made]

end Marshal

namespace View

variable {view source : View} {store : Store} {index : Word} {extent : Buffer}

/-- A write takes a struct of a buffer if its bytes are in the buffer. -/
theorem write_struct_iff {layout : Layout} (direct : view.levels = 0)
    (declared : view.element = .struct layout) (same : source.element = .struct layout)
    (backed : source.backing = .buffer extent)
    (reaches : view.reaches store (view.elementAddress index) view.element.size = true) :
    (∃ later, view.write store index (.struct source) = .ok later) ↔
      extent.Spans source.address layout.size := by
  have hreaches : source.reaches store source.address layout.size = true ↔
      extent.Spans source.address layout.size := by
    rw [View.reaches, backed]
    exact Buffer.contains_iff_spans
  rw [← hreaches]
  constructor
  · rintro ⟨later, written⟩
    obtain ⟨-, -, -, -, reached, -⟩ := write_eq_ok_iff.mp written
    have := reached source rfl
    rwa [declared] at this
  · intro reached
    have fits : (Value.struct source).fits view.element = true := by
      rw [declared]
      exact Value.fits_iff.mpr (.struct same)
    refine ⟨_, write_eq_ok_iff.mpr ⟨direct, ?_, fits, reaches, ?_, rfl⟩⟩
    · rw [declared]
      rintro ⟨⟩
    · rintro _ ⟨⟩
      rw [declared]
      exact reached

end View

namespace Machine

theorem prepare_unheld (machine : Machine) (function : Function) (values : List Value) :
    machine.prepare function (values.map Value.unheld) = machine.prepare function values := by
  rw [prepare, prepare, Marshal.slots_unheld, List.length_map]

theorem call_unheld (machine : Machine) (function : Function) (values : List Value) :
    machine.call function (values.map Value.unheld) = machine.call function values := by
  rw [call, call, callDepth, callWithin_succ, callWithin_succ, prepare_unheld, List.length_map]

/-- A call asks of its arguments that they fit, and forgets which buffers their views are held to. A struct is
taken wherever it lies; a write of the same struct is done only if its bytes lie in its buffer. -/
theorem call_ignores_extents (machine : Machine) (function : Function) (values : List Value) :
    machine.call function (values.map Value.unheld) = machine.call function values ∧
    ((∃ slots, Marshal.slots function.interface.signature.parameters values = .ok slots) ↔
      List.Forall₂ Value.Accepted function.interface.signature.parameters values) ∧
    ∀ (slots : List Slot) (i : Nat) (source : View) (layout : Layout) (extent : Buffer),
      Marshal.slots function.interface.signature.parameters values = .ok slots →
      values[i]? = some (.struct source) → source.element = .struct layout →
      source.backing = .buffer extent →
      slots[i]? = some (.memory source.address) ∧
      (extent.Ends → 0 < layout.size.toNat →
        ((∀ j < layout.size.toNat, extent.Holds (source.address + UInt64.ofNat j).toNat 1) ↔
          extent.Spans source.address layout.size)) ∧
      ∀ (view : View) (store : Store) (index : Word), view.levels = 0 → view.element = .struct layout →
        view.reaches store (view.elementAddress index) view.element.size = true →
        ((∃ later, view.write store index (.struct source) = .ok later) ↔
          extent.Spans source.address layout.size) := by
  refine ⟨call_unheld machine function values, Marshal.slots_eq_ok_iff, ?_⟩
  intro slots i source layout extent marshalled argument same backed
  refine ⟨Marshal.slot_of_struct marshalled argument, ?_, ?_⟩
  · intro ends positive
    exact ⟨Buffer.spans_of_holds ends positive, fun spans j => Buffer.holds_of_spans spans⟩
  · intro view store index direct declared reaches
    exact View.write_struct_iff direct declared same backed reaches

/-- A pair that was moved behind its buffer, onto another block: the callee gets the bytes of that block, and
the pair cannot be written. -/
theorem moved_struct_passed :
    let pair := View.ofBuffer ⟨4096, 8⟩ (.struct Layout.samplePair)
    let source := pair.offset 2
    let store : Store :=
      ⟨Memory.zeros.write 4112 [1, 2, 3, 4, 5, 6, 7, 8], [⟨⟨4112, 8⟩, true⟩, ⟨⟨4096, 8⟩, true⟩]⟩
    Marshal.slots [pair.element] [.struct source] = .ok [.memory source.address] ∧
      Marshal.load store [pair.element] [.memory source.address] = .ok [[1, 2, 3, 4, 5, 6, 7, 8]] ∧
      ¬ Buffer.Spans ⟨4096, 8⟩ source.address pair.element.size ∧
      pair.write store 0 (.struct source) =
        .error (.value (.outOfExtent source.address pair.element.size ⟨4096, 8⟩)) := by
  intro pair source store
  have fits : (Value.struct source).fits pair.element = true := Value.fits_iff.mpr (.struct rfl)
  have reaches : pair.reaches store (pair.elementAddress 0) pair.element.size = true := by decide
  have keeps := View.ensureExtent_eq_ok_iff.mp (View.reaches_iff_ensure.mp reaches).1
  have takes : pair.Takes (.struct source) := ⟨rfl, nofun, fits⟩
  have leaves : ¬ Buffer.Spans ⟨4096, 8⟩ source.address pair.element.size := by decide
  have allowed : store.allows source.address pair.element.size = true := by decide
  have bytes : store.memory.read source.address pair.element.size.toNat = [1, 2, 3, 4, 5, 6, 7, 8] := by
    decide
  refine ⟨?_, ?_, leaves, View.write_of_refuses (.source takes keeps rfl rfl leaves)⟩
  · have single : [pair.element].length = [Value.struct source].length := rfl
    rw [Marshal.slots, if_pos single, Marshal.slotsFrom, Marshal.ofValue?_struct fits]
    rfl
  · rw [Marshal.load, Slot.load?, Store.load?, if_pos allowed, bytes]
    rfl

end Machine
end Foreign
