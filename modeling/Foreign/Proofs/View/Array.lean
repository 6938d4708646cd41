import Foreign.Proofs.Layout.Cells
import Foreign.Proofs.View.Scalars
import Foreign.Proofs.View.Text

/-!
Arrays. A new array is filled at one stroke with the bytes of all its elements; that is the same as writing
its elements one after the other, each behind those before it. So each is read back at its own index, and
behind the last the buffer ends.
-/

namespace Foreign

namespace View

/-- Write values to the elements from `index` on, one after the other. -/
def writeEach (view : View) (store : Store) (index : Word) : List Value → Outcome Store
  | [] => .ok store
  | value :: rest => do
    let store ← view.write store index value
    view.writeEach store (index + 1) rest

variable {extent : Buffer} {type : CType} {place : Nat} {view : View} {store : Store} {values : List Value}

theorem length_flatMap_encode (plain : type.IsPlain) (fits : ∀ value ∈ values, Value.Fits value type) :
    (values.flatMap Value.encode).length = values.length * type.size.toNat :=
  Memory.length_flatMap_of_sized fun value mem => Value.length_encode_of_fits (fits value mem) plain

/-- Elements that lie one directly behind the other, found by their number. -/
theorem Located.slot (located : Located extent type place view) (plain : type.IsPlain)
    (complete : type ≠ .void) {i : Nat} (room : place + i * type.size.toNat < 2 ^ 64) :
    Element extent type (place + i * type.size.toNat) view (UInt64.ofNat i) := by
  have pos := CType.size_pos plain complete
  have hle : i ≤ i * type.size.toNat := Nat.le_mul_of_pos_right i pos
  have hindex : (UInt64.ofNat i).toNat = i := Word.toNat_ofNat_of_lt (by omega)
  have helement := located.at complete (UInt64.ofNat i)
  rw [(CType.aligned_of_not_struct plain).toNat_stride, hindex, Nat.mul_comm] at helement
  exact helement room

/-- Values that are written to the elements one after the other come to lie one behind the other: induction
on the values, with the place of the next element. -/
theorem Located.writeEach (located : Located extent type place view) (ends : extent.Ends)
    (plain : type.IsPlain) (complete : type ≠ .void) (fits : ∀ value ∈ values, Value.Fits value type)
    (store : Store) {i : Nat}
    (holds : extent.Holds place ((i + values.length) * type.size.toNat)) :
    view.writeEach store (UInt64.ofNat i) values =
      .ok { store with
        memory := store.memory.write (UInt64.ofNat (place + i * type.size.toNat))
          (values.flatMap Value.encode) } := by
  induction values generalizing store i with
  | nil =>
      rw [View.writeEach, List.flatMap_nil]
      have : store.memory.write (UInt64.ofNat (place + i * type.size.toNat)) [] = store.memory := rfl
      rw [this]
  | cons value rest ih =>
      obtain ⟨hvalue, hrest⟩ := List.forall_mem_cons.mp fits
      have hlength := Value.length_encode_of_fits hvalue plain
      have hrestLength := length_flatMap_encode plain hrest
      obtain ⟨hstart, hstop⟩ := holds
      change extent.start.toNat + extent.size.toNat < 2 ^ 64 at ends
      have hcount : (i + (value :: rest).length) * type.size.toNat =
          i * type.size.toNat + type.size.toNat + rest.length * type.size.toNat := by
        rw [List.length_cons, Nat.add_mul, Nat.succ_mul, Nat.add_right_comm, Nat.add_assoc]
      have hnext : (i + 1) * type.size.toNat = i * type.size.toNat + type.size.toNat := Nat.succ_mul _ _
      have hwrite := (located.slot plain complete (i := i) (by omega)).write ends
        ⟨by omega, by omega⟩ plain complete (Value.fits_iff.mpr hvalue) store
      have hlater := ih hrest { store with
        memory := store.memory.write (UInt64.ofNat (place + i * type.size.toNat)) value.encode } (i := i + 1)
        ⟨hstart, by rw [Nat.add_mul, hnext]; omega⟩
      rw [UInt64.ofNat_add i] at hlater
      rw [View.writeEach, hwrite, Outcome.ok_bind]
      refine hlater.trans ?_
      rw [List.flatMap_cons, Memory.write_append _ _ (by rw [hlength, hrestLength]; omega), hlength, hnext,
        ← Nat.add_assoc, UInt64.ofNat_add (place + _)]

section

variable (located : Located extent type place view) (ends : extent.Ends) (plain : type.IsPlain)
  (complete : type ≠ .void)
include located ends plain complete

/-- Values that lie one behind the other are read as the elements that they are. -/
theorem Located.read_each (fits : ∀ value ∈ values, Value.Fits value type)
    (holds : extent.Holds place (values.length * type.size.toNat))
    (whole : store.memory.read (UInt64.ofNat place) (values.length * type.size.toNat) =
      values.flatMap Value.encode) {i : Nat} (lt : i < values.length) :
    view.read store (UInt64.ofNat i) = .ok (values[i].asRead type) := by
  have sized := fun value mem => Value.length_encode_of_fits (fits value mem) plain
  have hnext : (i + 1) * type.size.toNat ≤ values.length * type.size.toNat :=
    Nat.mul_le_mul_right _ lt
  rw [Nat.succ_mul] at hnext
  obtain ⟨hstart, hstop⟩ := holds
  have hends : extent.start.toNat + extent.size.toNat < 2 ^ 64 := ends
  have element := located.slot plain complete (i := i) (by omega)
  rw [element.read ends ⟨by omega, by omega⟩ plain, UInt64.ofNat_add, Memory.read_of_flatMap sized whole lt,
    Value.decode_encode_of_fits (fits _ (List.getElem_mem lt)) plain]

/-- Where the buffer stops there is no element. -/
theorem Located.read_behind {count : Nat}
    (stop : place + count * type.size.toNat = extent.start.toNat + extent.size.toNat) :
    view.read store (UInt64.ofNat count) =
      .error (.fault (.outsideBuffer (UInt64.ofNat (place + count * type.size.toNat)) type.size extent)) := by
  have pos := CType.size_pos plain complete
  have element := located.slot plain complete (i := count) (stop ▸ ends)
  have outside : ¬ extent.Holds (view.elementAddress (UInt64.ofNat count)).toNat view.element.size.toNat := by
    rw [element.address, located.element, Buffer.Holds]
    omega
  rw [(readsInside_of_backed located.backed ends).outside located.direct store _ outside,
    element.elementAddress_eq, located.element]

end

/-- `view` is of a new buffer that has the values as its elements, written one after the other and each
read at its own index. All other bytes are as they were before, and so is all memory that was in use. -/
structure Lists (before after : Store) (type : CType) (values : List Value) (view : View) : Prop where
  element : view.element = type
  direct : view.levels = 0
  backed : view.backing = .buffer ⟨view.address, UInt64.ofNat (values.length * type.size.toNat)⟩
  ends : view.address.toNat + values.length * type.size.toNat < 2 ^ 64
  extent : view.extent? = some (UInt64.ofNat (values.length * type.size.toNat))
  filled : ∃ cleared,
    View.buffer before (UInt64.ofNat (values.length * type.size.toNat)) type = .ok (view, cleared) ∧
    view.writeEach cleared 0 values = .ok after
  read : ∀ i (lt : i < values.length), view.read after (UInt64.ofNat i) = .ok values[i]
  behind : view.read after (UInt64.ofNat values.length) = .error (.fault (.outsideBuffer
    (view.address + UInt64.ofNat (values.length * type.size.toNat)) type.size
    ⟨view.address, UInt64.ofNat (values.length * type.size.toNat)⟩))
  kept : ∀ a : Word, a.toNat < view.address.toNat ∨
    view.address.toNat + values.length * type.size.toNat ≤ a.toNat →
    after.memory.byte a = before.memory.byte a
  used : before.Reached → ∀ address size, before.allows address size = true →
    after.memory.read address size.toNat = before.memory.read address size.toNat

section

variable (plain : type.IsPlain) (complete : type ≠ .void) (fits : ∀ value ∈ values, Value.Fits value type)
  (settled : ∀ value ∈ values, value.asRead type = value)
include plain complete fits settled

/-- Values that are read as they are written are all found where they were put in a new block. -/
theorem lists_of_allocate {start : Word} {cleared : Store}
    (allocated : store.allocate (UInt64.ofNat (values.length * type.size.toNat)) =
      some (⟨start, UInt64.ofNat (values.length * type.size.toNat)⟩, cleared))
    (word : values.length * type.size.toNat < 2 ^ 64) :
    Lists store { cleared with memory := cleared.memory.write start (values.flatMap Value.encode) } type values
      (ofBuffer ⟨start, UInt64.ofNat (values.length * type.size.toNat)⟩ type) := by
  have hword := Word.toNat_ofNat_of_lt word
  have hlength := length_flatMap_encode plain fits
  have ends := Store.ends_of_allocate allocated
  have hends : start.toNat + values.length * type.size.toNat < 2 ^ 64 := hword ▸ ends
  have hstop := congrArg (start.toNat + ·) hword.symm
  have located : Located ⟨start, UInt64.ofNat (values.length * type.size.toNat)⟩ type start.toNat
      (ofBuffer ⟨start, UInt64.ofNat (values.length * type.size.toNat)⟩ type) := ⟨rfl, rfl, rfl, rfl⟩
  have whole := Memory.read_write cleared.memory start (values.flatMap Value.encode)
    (hlength ▸ Nat.le_of_lt word)
  rw [hlength] at whole
  constructor
  case element | direct | backed => rfl
  case ends => exact hends
  case extent =>
    obtain ⟨count, hcount, hroom⟩ := exists_extent? located.backed ends
    rw [hcount, Option.some.injEq, ← UInt64.toNat_inj, hroom]
    exact Nat.add_sub_cancel_left _ _
  case filled =>
    refine ⟨cleared, buffer_eq_ok_iff.mpr ⟨_, allocated, rfl⟩, ?_⟩
    have written := located.writeEach ends plain complete fits cleared (i := 0)
      ⟨Nat.le_refl _, by rw [Nat.zero_add]; exact Nat.le_of_eq hstop⟩
    rwa [Nat.zero_mul, Nat.add_zero, UInt64.ofNat_toNat] at written
  case read =>
    intro i lt
    rw [located.read_each ends plain complete fits ⟨Nat.le_refl _, Nat.le_of_eq hstop⟩
      (by rwa [UInt64.ofNat_toNat]) lt, settled _ (List.getElem_mem lt)]
  case behind =>
    rw [located.read_behind ends plain complete hstop, UInt64.ofNat_add, UInt64.ofNat_toNat]
    rfl
  case kept =>
    intro a outside
    exact Store.byte_fill_of_outside allocated (hlength.trans hword.symm) (hword.symm ▸ outside)
  case used =>
    intro reached address size allowed
    have grows := (Store.fill_of_allocate reached.ordered allocated (hlength.trans hword.symm)).1
    exact grows.read_allowed reached.ordered allowed

theorem lists_of_room (room : store.nextAddress + values.length * type.size.toNat ≤ Store.addressLimit) :
    ∃ view after, ofBytes store (values.flatMap Value.encode) type = .ok (view, after) ∧
      Lists store after type values view := by
  have hlimit : Store.addressLimit < 2 ^ 64 := by decide
  have word : values.length * type.size.toNat < 2 ^ 64 := by omega
  have hlength := length_flatMap_encode plain fits
  obtain ⟨⟨start, size⟩, cleared, allocated⟩ := Store.exists_allocate
    (show store.nextAddress + (UInt64.ofNat (values.length * type.size.toNat)).toNat ≤ _ by
      rwa [Word.toNat_ofNat_of_lt word])
  obtain rfl : size = _ := (Store.start_of_allocate allocated).2.1
  refine ⟨_, _, ?_, lists_of_allocate plain complete fits settled allocated word⟩
  rw [ofBytes, hlength, buffer_eq_ok_iff.mpr ⟨_, allocated, rfl⟩]
  rfl

end

theorem cast_self {element : CType} (declared : view.element = element) (direct : view.levels = 0)
    (backed : view.backing = .buffer extent) : view.cast element = view := by
  obtain ⟨address, own, levels, backing⟩ := view
  obtain rfl : own = element := declared
  obtain rfl : levels = 0 := direct
  obtain rfl : backing = .buffer extent := backed
  rfl

/-- In an array of scalars the elements are read alike as elements and as scalars, and so is what is behind
the last one. -/
theorem Lists.read_eq {before after : Store} {kind : ScalarKind}
    (lists : Lists before after kind.type values view) {i : Nat} (le : i ≤ values.length) :
    view.read after (UInt64.ofNat i) = (view.readScalar after kind (UInt64.ofNat i)).map .scalar := by
  have hsize : kind.type.size.toNat = kind.size := CType.size_of_scalarKind? kind.scalarKind?_type
  have ends := lists.ends
  have hle : i * kind.size ≤ values.length * kind.size := Nat.mul_le_mul_right _ le
  have hindex : i ≤ i * kind.size :=
    Nat.le_mul_of_pos_right i (hsize ▸ CType.size_pos kind.isPlain_type kind.type_ne_void)
  rw [hsize] at ends
  have room : view.scalarPlace kind (UInt64.ofNat i) < 2 ^ 64 := by
    rw [scalarPlace, Word.toNat_ofNat_of_lt (by omega)]
    omega
  have hread := read_cast room after
  rwa [cast_self lists.element lists.direct lists.backed] at hread

theorem ofBytes_ne_zeroLength (store : Store) (bytes : List UInt8) (element : CType) :
    ofBytes store bytes element ≠ .error .zeroLength := by
  rw [ofBytes, View.buffer, fresh]
  intro refused
  cases allocated : store.allocate (UInt64.ofNat bytes.length) with
  | none => rw [allocated] at refused; cases refused
  | some made => rw [allocated] at refused; cases refused

/-- An array of scalars as the list of its elements. -/
def scalars (kind : ScalarKind) (bits : List (BitVec kind.width)) : List Value :=
  bits.map fun bits => .scalar ⟨kind, bits⟩

/-- An array of addresses as the list of what is read from it: pointers that own nothing. -/
def borrowed (element : CType) (views : List View) : List Value :=
  views.map fun target => .pointer (.wrap target.address element)

theorem refused_of_full {type : CType} (plain : type.IsPlain) (fits : ∀ value ∈ values, Value.Fits value type)
    (word : values.length * type.size.toNat < 2 ^ 64)
    (full : Store.addressLimit < store.nextAddress + values.length * type.size.toNat) :
    ofBytes store (values.flatMap Value.encode) type =
      .error (.outOfMemory (UInt64.ofNat (values.length * type.size.toNat))) := by
  have hlength := length_flatMap_encode plain fits
  rw [← hlength] at word full ⊢
  exact ofBytes_of_full type word full

theorem encode_scalars (kind : ScalarKind) (bits : List (BitVec kind.width)) :
    (scalars kind bits).flatMap Value.encode = bits.flatMap fun bits => Scalar.encode ⟨kind, bits⟩ := by
  rw [scalars, List.flatMap_map]
  rfl

theorem encode_borrowed (element : CType) (views : List View) :
    (borrowed element views).flatMap Value.encode =
      views.flatMap fun view => LittleEndian.encode 8 view.address.toNat := by
  rw [borrowed, List.flatMap_map]
  rfl

section

variable {kind : ScalarKind} {bits : List (BitVec kind.width)} {views : List View} {first : View}

theorem length_scalars : (scalars kind bits).length * kind.type.size.toNat = bits.length * kind.size := by
  rw [scalars, List.length_map, CType.size_of_scalarKind? kind.scalarKind?_type]

theorem length_borrowed {element : CType} :
    (borrowed element views).length * (CType.pointer element).size.toNat = views.length * 8 := by
  rw [borrowed, List.length_map]
  rfl

theorem ofScalars_of_some (some : bits ≠ []) (store : Store) :
    ofScalars store kind bits = ofBytes store ((scalars kind bits).flatMap Value.encode) kind.type := by
  rw [ofScalars, if_neg (mt List.isEmpty_iff.mp some), encode_scalars]

theorem ofViews_of_head (head : views.head? = some first) (store : Store) :
    ofViews store views =
      ofBytes store ((borrowed first.element views).flatMap Value.encode) (.pointer first.element) := by
  cases views with
  | nil => cases head
  | cons view rest =>
      cases head
      rw [ofViews, encode_borrowed]

theorem fits_scalars (kind : ScalarKind) (bits : List (BitVec kind.width)) :
    ∀ value ∈ scalars kind bits, Value.Fits value kind.type := by
  intro value mem
  obtain ⟨bits, -, rfl⟩ := List.mem_map.mp mem
  exact .scalar kind.scalarKind?_type

theorem fits_borrowed (element : CType) (views : List View) :
    ∀ value ∈ borrowed element views, Value.Fits value (.pointer element) := by
  intro value mem
  obtain ⟨target, -, rfl⟩ := List.mem_map.mp mem
  exact .pointer

theorem asRead_scalars (kind : ScalarKind) (bits : List (BitVec kind.width)) :
    ∀ value ∈ scalars kind bits, value.asRead kind.type = value := by
  intro value mem
  obtain ⟨bits, -, rfl⟩ := List.mem_map.mp mem
  rfl

theorem asRead_borrowed (element : CType) (views : List View) :
    ∀ value ∈ borrowed element views, value.asRead (.pointer element) = value := by
  intro value mem
  obtain ⟨target, -, rfl⟩ := List.mem_map.mp mem
  rfl

theorem ofScalars_eq_zeroLength_iff : ofScalars store kind bits = .error .zeroLength ↔ bits = [] := by
  refine ⟨fun refused => ?_, fun none => none ▸ rfl⟩
  by_contra some
  rw [ofScalars_of_some some] at refused
  exact ofBytes_ne_zeroLength _ _ _ refused

theorem ofViews_eq_zeroLength_iff : ofViews store views = .error .zeroLength ↔ views = [] := by
  cases views with
  | nil => exact iff_of_true rfl rfl
  | cons first rest => exact iff_of_false (ofBytes_ne_zeroLength _ _ _) (List.cons_ne_nil _ _)

/-- The elements of an array of scalars are found as scalars too. -/
theorem Lists.readScalar {before after : Store} (lists : Lists before after kind.type (scalars kind bits) view)
    {i : Nat} (lt : i < bits.length) :
    view.readScalar after kind (UInt64.ofNat i) = .ok ⟨kind, bits[i]⟩ := by
  have lt' : i < (scalars kind bits).length := lt.trans_eq (List.length_map _).symm
  have hread := lists.read i lt'
  rw [lists.read_eq (Nat.le_of_lt lt')] at hread
  simp only [scalars, List.getElem_map] at hread
  cases outcome : view.readScalar after kind (UInt64.ofNat i) with
  | error cause => rw [outcome] at hread; cases hread
  | ok scalar =>
      rw [outcome] at hread
      cases hread
      rfl

theorem Lists.readScalar_behind {before after : Store}
    (lists : Lists before after kind.type (scalars kind bits) view) :
    ∃ cause, view.readScalar after kind (UInt64.ofNat bits.length) = .error (.fault cause) := by
  have hread := lists.behind
  rw [lists.read_eq (Nat.le_refl _), scalars, List.length_map] at hread
  cases outcome : view.readScalar after kind (UInt64.ofNat bits.length) with
  | error cause =>
      rw [outcome] at hread
      cases hread
      exact ⟨_, rfl⟩
  | ok scalar => rw [outcome] at hread; cases hread

end

/-- Arrays keep every element. A constructor is refused as empty exactly where there are no elements, and for
want of memory where there is no room for them. Otherwise each element is read back at its index, a scalar bit
for bit and an address as a pointer that owns nothing, and there is nothing behind the last. The elements are
what writing them one after the other leaves, and no other memory is changed. -/
theorem array_read_back (store : Store) :
    (∀ (kind : ScalarKind) (bits : List (BitVec kind.width)),
      (ofScalars store kind bits = .error .zeroLength ↔ bits = []) ∧
      (bits ≠ [] → store.nextAddress + bits.length * kind.size ≤ Store.addressLimit →
        ∃ view after, ofScalars store kind bits = .ok (view, after) ∧
          Lists store after kind.type (scalars kind bits) view ∧
          (∀ i (lt : i < bits.length), view.readScalar after kind (UInt64.ofNat i) = .ok ⟨kind, bits[i]⟩) ∧
          ∃ cause, view.readScalar after kind (UInt64.ofNat bits.length) = .error (.fault cause)) ∧
      (bits ≠ [] → bits.length * kind.size < 2 ^ 64 →
        Store.addressLimit < store.nextAddress + bits.length * kind.size →
        ofScalars store kind bits = .error (.outOfMemory (UInt64.ofNat (bits.length * kind.size))))) ∧
    ∀ views : List View,
      (ofViews store views = .error .zeroLength ↔ views = []) ∧
      ∀ first, views.head? = some first →
        (store.nextAddress + views.length * 8 ≤ Store.addressLimit →
          ∃ view after, ofViews store views = .ok (view, after) ∧
            Lists store after (.pointer first.element) (borrowed first.element views) view) ∧
        (views.length * 8 < 2 ^ 64 → Store.addressLimit < store.nextAddress + views.length * 8 →
          ofViews store views = .error (.outOfMemory (UInt64.ofNat (views.length * 8)))) := by
  constructor
  · intro kind bits
    refine ⟨ofScalars_eq_zeroLength_iff, fun some room => ?_, fun some word full => ?_⟩
    · obtain ⟨view, after, made, lists⟩ := lists_of_room kind.isPlain_type kind.type_ne_void
        (fits_scalars kind bits) (asRead_scalars kind bits) (length_scalars ▸ room)
      exact ⟨view, after, (ofScalars_of_some some store).trans made, lists, fun i => lists.readScalar,
        lists.readScalar_behind⟩
    · rw [← length_scalars] at word full ⊢
      rw [ofScalars_of_some some]
      exact refused_of_full kind.isPlain_type (fits_scalars kind bits) word full
  · intro views
    refine ⟨ofViews_eq_zeroLength_iff, fun first head => ⟨fun room => ?_, fun word full => ?_⟩⟩
    · have plain : (CType.pointer first.element).IsPlain := nofun
      obtain ⟨view, after, made, lists⟩ := lists_of_room plain nofun
        (fits_borrowed first.element views) (asRead_borrowed first.element views) (length_borrowed ▸ room)
      exact ⟨view, after, (ofViews_of_head head store).trans made, lists⟩
    · have hlength : views.length * 8 =
          (borrowed first.element views).length * (CType.pointer first.element).size.toNat := length_borrowed.symm
      rw [hlength] at word full ⊢
      rw [ofViews_of_head head]
      exact refused_of_full nofun (fits_borrowed first.element views) word full

/-- Two numbers, a signalling one and a negative zero, and two addresses, the second of which is null. -/
theorem array_read_back_sample :
    (∃ view after, ofScalars .empty .f32 [0x7fa00001, 0x80000000] = .ok (view, after) ∧
      view.extent? = some 8 ∧ view.readScalar after .f32 0 = .ok ⟨.f32, 0x7fa00001⟩ ∧
      view.readScalar after .f32 1 = .ok ⟨.f32, 0x80000000⟩) ∧
    ∃ view after, ofViews .empty [wrap 24 (.int .w32 true), null .double] = .ok (view, after) ∧
      view.extent? = some 16 ∧ view.read after 1 = .ok (.pointer (.wrap 0 (.int .w32 true))) := by
  obtain ⟨scalars, views⟩ := array_read_back .empty
  obtain ⟨view, after, made, lists, read, -⟩ :=
    (scalars .f32 [0x7fa00001, 0x80000000]).2.1 (List.cons_ne_nil _ _) (by decide)
  obtain ⟨slots, later, hmade, hlists⟩ := ((views [wrap 24 (.int .w32 true), null .double]).2 _ rfl).1 (by decide)
  exact ⟨⟨view, after, made, lists.extent, read 0 (by decide), read 1 (by decide)⟩,
    slots, later, hmade, hlists.extent, hlists.read 1 (by decide)⟩

end View
end Foreign
