import Foreign.Proofs.Call.Storage
import Foreign.Proofs.Layout.Placement

/-!
The frame of a call: one slot for each argument, one behind the other in memory. Each number or pointer is
written to its slot through a view, a struct stays where it is, and the callee is told where each argument
lies. The frame comes to the slots of `Marshal.slots`, at every number of arguments; no write to a slot is
ever refused, and none shows in another slot or outside the frame.
-/

namespace Foreign

namespace Memory

/-- A read sees a shorter write in front and what was there before behind it. -/
theorem read_write_front {memory : Memory} {address : Word} {bytes : List UInt8} {size : Nat}
    (shorter : bytes.length ≤ size) (room : address.toNat + size ≤ 2 ^ 64) :
    (memory.write address bytes).read address size = overlay (memory.read address size) bytes := by
  apply List.ext_getElem
  · simp [overlay, shorter]
  · intro i hi _
    rw [length_read] at hi
    simp only [read, overlay, List.getElem_map, List.getElem_range, List.getElem_append]
    split
    · rename_i front
      exact byte_write_add front (by have : UInt64.size = 2 ^ 64 := rfl; omega)
    · rename_i behind
      rw [List.getElem_drop, List.getElem_map, List.getElem_range, Nat.add_sub_cancel' (by omega)]
      apply byte_write_of_outside (by omega)
      rw [toNat_add_ofNat (by omega)]
      omega

theorem read_clear {memory : Memory} {address other : Word} {size count : Nat}
    (inside : address.toNat ≤ other.toNat) (short : other.toNat + count ≤ address.toNat + size)
    (room : address.toNat + size < 2 ^ 64) :
    (memory.clear address size).read other count = List.replicate count 0 := by
  apply List.ext_getElem
  · simp
  · intro i hi _
    rw [length_read] at hi
    simp only [read, List.getElem_map, List.getElem_range, List.getElem_replicate]
    apply if_pos
    rw [UInt64.toNat_sub_of_le _ _ (by rw [UInt64.le_iff_toNat_le, toNat_add_ofNat] <;> omega),
      toNat_add_ofNat (by omega)]
    omega

end Memory

/-- What may be used as a whole may be used in part. -/
theorem Store.allows_of_le {store : Store} {address size part : Word}
    (allowed : store.allows address size = true) (less : part.toNat ≤ size.toNat) :
    store.allows address part = true := by
  rw [allows, Bool.or_eq_true] at allowed ⊢
  rcases allowed with none | any
  · rw [beq_iff_eq] at none ⊢
    rw [none, UInt64.toNat_zero, Nat.le_zero] at less
    exact .inl (UInt64.toNat_inj.mp less)
  · obtain ⟨block, mem, holds⟩ := List.any_eq_true.mp any
    rw [Block.holds, Bool.and_eq_true, Buffer.contains_iff_spans] at holds
    obtain ⟨live, ends, start, stop⟩ := holds
    refine .inr (List.any_eq_true.mpr ⟨block, mem, ?_⟩)
    rw [Block.holds, Bool.and_eq_true, Buffer.contains_iff_spans]
    exact ⟨live, ends, start, Nat.le_trans (Nat.add_le_add_left less _) stop⟩

namespace Marshal

/-- Where the slot of an argument is in the frame that starts at `base`. -/
def slotAddress (base : Word) (index : Nat) : Word :=
  base + UInt64.ofNat (8 * index)

/-- Fill the slots from place `index` on, and tell where each argument lies. A write that a slot refused would
show as itself. -/
def fillFrom (base : Word) (store : Store) (index : Nat) :
    List CType → List Value → Outcome (List Word × Store)
  | type :: types, value :: values =>
    if value.fits type then
      match value with
      | .struct view => do
        let (pointers, filled) ← fillFrom base store (index + 1) types values
        return (view.address :: pointers, filled)
      | value => do
        let store ← (View.wrap (slotAddress base index) type).write store 0 value
        let (pointers, filled) ← fillFrom base store (index + 1) types values
        return (slotAddress base index :: pointers, filled)
    else .error (.invocation (.argumentType index type value.kindName))
  | _, _ => .ok ([], store)

/-- A frame at `base`, all zeros at first, with a slot for each argument. -/
def frame (base : Word) (store : Store) (types : List CType) (values : List Value) :
    Outcome (List Word × Store) :=
  if types.length = values.length then
    fillFrom base (store.place base (UInt64.ofNat (8 * types.length))).2 0 types values
  else .error (.invocation (.argumentCount types.length values.length))

theorem toNat_slotAddress (base : Word) (index : Nat) (room : base.toNat + 8 * index < 2 ^ 64) :
    (slotAddress base index).toNat = base.toNat + 8 * index :=
  Memory.toNat_add_ofNat room

/-- Two slots have no byte in common. -/
theorem apart_slots {base : Word} {count i j : Nat} (room : base.toNat + 8 * count < 2 ^ 64)
    (hi : i < count) (hj : j < count) (ne : i ≠ j) :
    Memory.Apart (slotAddress base i) 8 (slotAddress base j) 8 := by
  have addressI := toNat_slotAddress base i (by omega)
  have addressJ := toNat_slotAddress base j (by omega)
  rcases Nat.lt_or_gt_of_ne ne with lt | gt
  · exact Memory.apart_of_le (by omega) (by omega)
  · exact (Memory.apart_of_le (by omega) (by omega)).symm

/-- The slots from `start` up to `stop` can be filled: they may be used, and hold zeros. -/
structure Ready (base : Word) (start stop : Nat) (store : Store) : Prop where
  room : base.toNat + 8 * stop < 2 ^ 64
  live : ∀ index, start ≤ index → index < stop → store.allows (slotAddress base index) 8 = true
  zero : ∀ index, start ≤ index → index < stop →
    store.memory.read (slotAddress base index) 8 = List.replicate 8 0

theorem ready_place (store : Store) {base : Word} {count : Nat}
    (room : base.toNat + 8 * count < 2 ^ 64) :
    Ready base 0 count (store.place base (UInt64.ofNat (8 * count))).2 := by
  have size : (UInt64.ofNat (8 * count)).toNat = 8 * count := Word.toNat_ofNat_of_lt (by omega)
  have address : ∀ index < count, (slotAddress base index).toNat = base.toNat + 8 * index :=
    fun index lt => toNat_slotAddress base index (by omega)
  refine ⟨room, fun index _ lt => ?_, fun index _ lt => ?_⟩
  · have holds :
        Block.holds ⟨⟨base, UInt64.ofNat (8 * count)⟩, true⟩ (slotAddress base index) 8 = true := by
      rw [Block.holds, Bool.true_and, Buffer.contains_iff_spans]
      have eight : (8 : Word).toNat = 8 := rfl
      simp only [Buffer.Spans, Buffer.Ends, Buffer.Holds, size, address index lt, eight]
      omega
    rw [Store.allows, Store.place, List.any_cons, holds, Bool.true_or, Bool.or_true]
  · rw [Store.place]
    dsimp only
    rw [size]
    exact Memory.read_clear (by rw [address index lt]; omega) (by rw [address index lt]; omega) room

/-- Nothing but the slots from `start` up to `stop` has changed. -/
structure Touches (base : Word) (start stop : Nat) (store filled : Store) : Prop where
  blocks : filled.blocks = store.blocks
  outside : ∀ a : Word, a.toNat < base.toNat + 8 * start ∨ base.toNat + 8 * stop ≤ a.toNat →
    filled.memory.byte a = store.memory.byte a

/-- Where an argument lies: a struct where it was, anything else in its slot, its own bytes in front and zeros
behind them. -/
inductive Lies (memory : Memory) (address : Word) (type : CType) : Value → Slot → Word → Prop
  | struct {view : View} : Lies memory address type (.struct view) (.memory view.address) view.address
  | number {value : Value} (number : ∀ view, value ≠ .struct view)
      (front : (memory.read address 8).take type.size.toNat = value.encode)
      (behind : (memory.read address 8).drop type.size.toNat =
        List.replicate (8 - type.size.toNat) 0) :
      Lies memory address type value (.word (memory.read address 8)) address

section

variable {base : Word} {start stop : Nat} {store later filled : Store} {memory other : Memory}
  {address pointer : Word} {type : CType} {value : Value} {slot : Slot}

theorem Ready.tail (ready : Ready base start stop store) : Ready base (start + 1) stop store :=
  ⟨ready.room, fun index le => ready.live index (Nat.le_of_succ_le le),
    fun index le => ready.zero index (Nat.le_of_succ_le le)⟩

theorem Touches.trans (first : Touches base start (start + 1) store later)
    (rest : Touches base (start + 1) stop later filled) (lt : start < stop) :
    Touches base start stop store filled := by
  refine ⟨rest.blocks.trans first.blocks, fun a outside => ?_⟩
  rw [rest.outside a (by omega), first.outside a (by omega)]

/-- A slot in front of those that are filled keeps its bytes. -/
theorem Touches.read (touches : Touches base (start + 1) stop store filled)
    (room : base.toNat + 8 * (start + 1) < 2 ^ 64) :
    filled.memory.read (slotAddress base start) 8 = store.memory.read (slotAddress base start) 8 := by
  have place := toNat_slotAddress base start (by omega)
  apply Memory.read_congr
  intro i hi
  apply touches.outside
  rw [Memory.toNat_add_ofNat (by omega)]
  omega

theorem Lies.of_read (lies : Lies memory address type value slot pointer)
    (same : other.read address 8 = memory.read address 8) : Lies other address type value slot pointer := by
  cases lies with
  | struct => exact .struct
  | number number front behind =>
      rw [← same] at front behind ⊢
      exact .number number front behind

/-- A slot refuses nothing that its parameter takes. -/
theorem Ready.write (ready : Ready base start stop store) (lt : start < stop)
    (accepted : value.Accepted type) (number : ∀ view, value ≠ .struct view) :
    (View.wrap (slotAddress base start) type).write store 0 value =
      .ok { store with memory := store.memory.write (slotAddress base start) value.encode } := by
  obtain ⟨fits, complete⟩ := accepted
  have plain := fits.plain number
  have reaches : (View.wrap (slotAddress base start) type).reaches store
      ((View.wrap (slotAddress base start) type).elementAddress 0) type.size = true := by
    rw [View.elementAddress_zero]
    exact Store.allows_of_le (ready.live start (Nat.le_refl start) lt) (CType.size_le_of_plain plain)
  rw [View.write_of_plain rfl complete plain (Value.fits_iff.mpr fits) reaches, View.elementAddress_zero]
  rfl

theorem Ready.fill (ready : Ready base start stop store) (lt : start < stop)
    (accepted : value.Accepted type) (number : ∀ view, value ≠ .struct view)
    (written : later = { store with memory := store.memory.write (slotAddress base start) value.encode }) :
    Ready base (start + 1) stop later ∧ Touches base start (start + 1) store later ∧
      Lies later.memory (slotAddress base start) type value
        (.word (overlay (List.replicate 8 0) value.encode)) (slotAddress base start) := by
  have room := ready.room
  have plain := accepted.1.plain number
  have size := Value.length_encode_of_fits accepted.1 plain
  have short : value.encode.length ≤ 8 := size ▸ CType.size_le_of_plain plain
  have place := toNat_slotAddress base start (by omega)
  have touches : Touches base start (start + 1) store later := by
    subst written
    exact ⟨rfl, fun a outside => Memory.byte_write_of_outside (by omega) (by omega)⟩
  have content : later.memory.read (slotAddress base start) 8 =
      overlay (List.replicate 8 0) value.encode := by
    rw [written, Memory.read_write_front short (by omega), ready.zero start (Nat.le_refl start) lt]
  refine ⟨⟨room, ?_, ?_⟩, touches, ?_⟩
  · intro index le lt
    subst written
    exact ready.live index (Nat.le_of_succ_le le) lt
  · intro index le lt
    have here := toNat_slotAddress base index (by omega)
    rw [← ready.zero index (Nat.le_of_succ_le le) lt]
    apply Memory.read_congr
    intro i hi
    apply touches.outside
    rw [Memory.toNat_add_ofNat (by omega)]
    omega
  · rw [← content]
    apply Lies.number number
    · rw [content, take_overlay _ size]
    · rw [content, overlay, ← size, List.drop_left, List.drop_replicate]

end

/-- Where the arguments from place `start` on lie in the frame, beside the slots that they are given. -/
structure Laid (base : Word) (start : Nat) (types : List CType) (values : List Value)
    (slots : List Slot) (pointers : List Word) (store filled : Store) : Prop where
  touches : Touches base start (start + types.length) store filled
  each : slots.length = types.length ∧ pointers.length = types.length
  lies : ∀ i type value, types[i]? = some type → values[i]? = some value → ∃ slot pointer,
    slots[i]? = some slot ∧ pointers[i]? = some pointer ∧
      Lies filled.memory (slotAddress base (start + i)) type value slot pointer

section

variable {base : Word} {start stop : Nat} {store later filled : Store} {type : CType} {types : List CType}
  {value : Value} {values : List Value} {slot : Slot} {slots : List Slot} {pointer : Word}
  {pointers : List Word}

theorem laid_nil : Laid base start [] [] [] [] store store :=
  ⟨⟨rfl, fun _ _ => rfl⟩, ⟨rfl, rfl⟩, nofun⟩

theorem Laid.cons (room : base.toNat + 8 * (start + 1 + types.length) < 2 ^ 64)
    (touches : Touches base start (start + 1) store later)
    (lies : Lies later.memory (slotAddress base start) type value slot pointer)
    (rest : Laid base (start + 1) types values slots pointers later filled) :
    Laid base start (type :: types) (value :: values) (slot :: slots) (pointer :: pointers) store
      filled := by
  have stop : start + (types.length + 1) = start + 1 + types.length := by omega
  refine ⟨?_, ?_, ?_⟩
  · rw [List.length_cons, stop]
    exact touches.trans rest.touches (by omega)
  · rw [List.length_cons, List.length_cons, List.length_cons, rest.each.1, rest.each.2]
    exact ⟨rfl, rfl⟩
  · rintro (_ | i) other found parameter argument
    · cases parameter
      cases argument
      exact ⟨slot, pointer, rfl, rfl, lies.of_read (rest.touches.read (by omega))⟩
    · rw [show start + (i + 1) = start + 1 + i by omega]
      exact rest.lies i other found parameter argument

theorem fillFrom_of_struct {view : View} (fits : (Value.struct view).fits type = true) :
    fillFrom base store start (type :: types) (.struct view :: values) =
      (fillFrom base store (start + 1) types values).map fun rest => (view.address :: rest.1, rest.2) := by
  rw [fillFrom, if_pos fits]
  cases fillFrom base store (start + 1) types values <;> rfl

theorem fillFrom_of_number (fits : value.fits type = true) (number : ∀ view, value ≠ .struct view)
    (written : (View.wrap (slotAddress base start) type).write store 0 value = .ok later) :
    fillFrom base store start (type :: types) (value :: values) =
      (fillFrom base later (start + 1) types values).map fun rest =>
        (slotAddress base start :: rest.1, rest.2) := by
  rw [fillFrom]
  · rw [if_pos fits, written, Outcome.ok_bind]
    cases fillFrom base later (start + 1) types values <;> rfl
  · exact number

theorem fillFrom_of_unfit (unfit : ¬ value.fits type = true) :
    fillFrom base store start (type :: types) (value :: values) =
      .error (.invocation (.argumentType start type value.kindName)) := by
  cases value <;> simp [fillFrom, unfit]

/-- An argument that its parameter takes is laid down, whatever follows it. -/
theorem exists_laid (ready : Ready base start stop store) (lt : start < stop)
    (accepted : value.Accepted type) : ∃ slot pointer later,
      Slot.ofValue? type value = some slot ∧
      (∀ types values, fillFrom base store start (type :: types) (value :: values) =
        (fillFrom base later (start + 1) types values).map fun rest => (pointer :: rest.1, rest.2)) ∧
      Ready base (start + 1) stop later ∧ Touches base start (start + 1) store later ∧
      Lies later.memory (slotAddress base start) type value slot pointer := by
  have fits := Value.fits_iff.mpr accepted.1
  by_cases struct : ∃ view, value = .struct view
  · obtain ⟨view, rfl⟩ := struct
    exact ⟨_, _, store, ofValue?_struct fits, fun _ _ => fillFrom_of_struct fits, ready.tail,
      ⟨rfl, fun _ _ => rfl⟩, .struct⟩
  · have number := not_exists.mp struct
    obtain ⟨next, touches, lies⟩ := ready.fill lt accepted number rfl
    refine ⟨_, _, _, Slot.ofValue?_number accepted number, fun _ _ => ?_, next, touches, lies⟩
    exact fillFrom_of_number fits number (ready.write lt accepted number)

/-- Filling slots in memory fails just as making them does, and otherwise lays down what they hold. -/
theorem laid_or_refused (complete : ∀ type ∈ types, type ≠ .void) (same : types.length = values.length)
    (ready : Ready base start (start + types.length) store) :
    (∃ failure, slotsFrom start types values = .error failure ∧
      fillFrom base store start types values = .error failure) ∨
    ∃ slots pointers filled, slotsFrom start types values = .ok slots ∧
      fillFrom base store start types values = .ok (pointers, filled) ∧
      Laid base start types values slots pointers store filled := by
  induction types generalizing start values store with
  | nil =>
      obtain rfl := List.eq_nil_of_length_eq_zero same.symm
      exact .inr ⟨[], [], store, rfl, rfl, laid_nil⟩
  | cons type types ih =>
      cases values with
      | nil => cases same
      | cons value values =>
          obtain ⟨first, complete⟩ := List.forall_mem_cons.mp complete
          rw [List.length_cons, show start + (types.length + 1) = start + 1 + types.length by omega] at ready
          by_cases fits : value.fits type = true
          · obtain ⟨slot, pointer, later, made, fill, next, touches, lies⟩ :=
              exists_laid ready (by omega) ⟨Value.fits_iff.mp fits, first⟩
            rw [fill, slotsFrom, made]
            rcases ih complete (Nat.succ.inj same) next with
              ⟨failure, refused, refused'⟩ | ⟨slots, pointers, filled, rest, rest', laid⟩
            · exact .inl ⟨failure, by rw [refused]; rfl, by rw [refused']; rfl⟩
            · exact .inr ⟨slot :: slots, pointer :: pointers, filled, by rw [rest]; rfl, by rw [rest']; rfl,
                laid.cons ready.room touches lies⟩
          · have unfit : ¬ value.Accepted type := fun accepted => fits (Value.fits_iff.mpr accepted.1)
            exact .inl ⟨_, slotsFrom_cons_eq_error_iff.mpr (.inl ⟨unfit, rfl⟩), fillFrom_of_unfit fits⟩

end

/-- The first value that does not fit its parameter. -/
structure FirstUnfit (types : List CType) (values : List Value) (index : Nat) (type : CType)
    (value : Value) : Prop where
  parameter : types[index]? = some type
  argument : values[index]? = some value
  unfit : value.fits type = false
  first : ∀ earlier < index, ∀ type value, types[earlier]? = some type →
    values[earlier]? = some value → value.fits type = true

/-- Where no parameter is void a value that fits is all that is asked for. -/
theorem misfit_iff_firstUnfit {types : List CType} {values : List Value} {index : Nat} {type : CType}
    {value : Value} (complete : ∀ type ∈ types, type ≠ .void) :
    Misfit types values index type value ↔ FirstUnfit types values index type value := by
  have accepted_iff : ∀ {i : Nat} {type : CType} {value : Value}, types[i]? = some type →
      (value.Accepted type ↔ value.fits type = true) := by
    intro i type value parameter
    rw [Value.Accepted, ← Value.fits_iff]
    exact and_iff_left (complete type (List.mem_of_getElem? parameter))
  constructor
  · rintro ⟨parameter, argument, unfit, first⟩
    refine ⟨parameter, argument, ?_, fun earlier lt type value parameter argument => ?_⟩
    · rwa [accepted_iff parameter, Bool.not_eq_true] at unfit
    · exact (accepted_iff parameter).mp (first earlier lt type value parameter argument)
  · rintro ⟨parameter, argument, unfit, first⟩
    refine ⟨parameter, argument, ?_, fun earlier lt type value parameter argument => ?_⟩
    · rwa [accepted_iff parameter, Bool.not_eq_true]
    · exact (accepted_iff parameter).mpr (first earlier lt type value parameter argument)

/-- The frame fails just as the slots do, and otherwise lays down what they hold. -/
theorem frame_laid_or_refused (types : List CType) (values : List Value) (store : Store) {base : Word}
    (complete : ∀ type ∈ types, type ≠ .void) (room : base.toNat + 8 * types.length < 2 ^ 64) :
    (∃ failure, slots types values = .error failure ∧ frame base store types values = .error failure) ∨
    ∃ slots pointers filled, Marshal.slots types values = .ok slots ∧
      frame base store types values = .ok (pointers, filled) ∧
      Laid base 0 types values slots pointers
        (store.place base (UInt64.ofNat (8 * types.length))).2 filled := by
  simp only [frame, slots]
  by_cases same : types.length = values.length
  · rw [if_pos same, if_pos same]
    apply laid_or_refused complete same
    rw [Nat.zero_add]
    exact ready_place store room
  · rw [if_neg same, if_neg same]
    exact .inl ⟨_, rfl, rfl⟩

/-- Arguments are refused for their number, else for the first that does not fit, and laid down otherwise:
each struct where it was and everything else in a slot of its own. -/
theorem frame_exact (types : List CType) (values : List Value) (complete : ∀ type ∈ types, type ≠ .void) :
    (∀ failure, slots types values = .error failure ↔
      types.length ≠ values.length ∧
        failure = .invocation (.argumentCount types.length values.length) ∨
      types.length = values.length ∧ ∃ index type value, FirstUnfit types values index type value ∧
        failure = .invocation (.argumentType index type value.kindName)) ∧
    ∀ (store : Store) (base : Word), base.toNat + 8 * types.length < 2 ^ 64 →
      (∀ failure, frame base store types values = .error failure ↔
        slots types values = .error failure) ∧
      (∀ pointers filled, frame base store types values = .ok (pointers, filled) →
        ∃ slots, Marshal.slots types values = .ok slots ∧
          Laid base 0 types values slots pointers
            (store.place base (UInt64.ofNat (8 * types.length))).2 filled) ∧
      ∀ i < types.length, ∀ j < types.length, i ≠ j →
        Memory.Apart (slotAddress base i) 8 (slotAddress base j) 8 := by
  constructor
  · intro failure
    rw [slots_eq_error_iff]
    constructor
    · rintro ⟨cause, differs | ⟨same, misfit⟩, rfl⟩
      · exact .inl ⟨differs, rfl⟩
      · exact .inr ⟨same, _, _, _, (misfit_iff_firstUnfit complete).mp misfit, rfl⟩
    · rintro (⟨differs, rfl⟩ | ⟨same, index, type, value, unfit, rfl⟩)
      · exact ⟨_, .count differs, rfl⟩
      · exact ⟨_, .argument same ((misfit_iff_firstUnfit complete).mpr unfit), rfl⟩
  · intro store base room
    refine ⟨?_, ?_, fun i hi j hj => apart_slots room hi hj⟩
    · intro failure
      rcases frame_laid_or_refused types values store complete room with
        ⟨cause, refused, refused'⟩ | ⟨_, _, _, made, filled, -⟩
      · rw [refused, refused', Except.error.injEq, Except.error.injEq]
      · rw [made, filled]
        exact ⟨nofun, nofun⟩
    · intro pointers filled laid
      rcases frame_laid_or_refused types values store complete room with
        ⟨cause, refused, refused'⟩ | ⟨slots, _, _, made, laid', lies⟩
      · cases refused'.symm.trans laid
      · cases laid'.symm.trans laid
        exact ⟨slots, made, lies⟩

/-- A number, a struct and a pointer, in a frame of three slots. -/
theorem frame_exact_mixed :
    let pair := View.ofBuffer ⟨4096, 8⟩ (.struct Layout.samplePair)
    let types : List CType := [.int .w8 true, pair.element, .pointer .double]
    let values : List Value := [.scalar ⟨.i8, 255⟩, .struct pair, .pointer (.wrap 4660 .double)]
    (∀ type ∈ types, type ≠ .void) ∧ (8192 : Word).toNat + 8 * types.length < 2 ^ 64 ∧
      ∃ slots pointers filled, frame 8192 .empty types values = .ok (pointers, filled) ∧
        Marshal.slots types values = .ok slots ∧
        Laid 8192 0 types values slots pointers
          (Store.empty.place 8192 (UInt64.ofNat (8 * types.length))).2 filled := by
  intro pair types values
  have complete : ∀ type ∈ types, type ≠ .void := by simp [types, pair, View.ofBuffer]
  have room : (8192 : Word).toNat + 8 * types.length < 2 ^ 64 := by decide
  have accepted : List.Forall₂ Value.Accepted types values :=
    .cons ⟨.scalar rfl, nofun⟩ (.cons ⟨.struct rfl, nofun⟩ (.cons ⟨.pointer, nofun⟩ .nil))
  obtain ⟨made, hmade⟩ := exists_slots accepted
  obtain ⟨alike, laid, -⟩ := (frame_exact types values complete).2 .empty 8192 room
  refine ⟨complete, room, ?_⟩
  cases filled : frame 8192 .empty types values with
  | error failure => cases hmade.symm.trans ((alike failure).mp filled)
  | ok result =>
      obtain ⟨slots, hslots, lies⟩ := laid result.1 result.2 filled
      exact ⟨slots, result.1, result.2, rfl, hslots, lies⟩

end Marshal
end Foreign
