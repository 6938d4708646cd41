import Foreign.Call.Dispatch
import Foreign.Proofs.Call.Storage
import Foreign.Proofs.Memory.Blocks
import Foreign.Proofs.View.Instance

/-!
A callback that is called through its own function pointer. Arguments reach the body as they were given,
structs as copies in blocks of their own, and the caller gets what the body returned. The blocks that the
call makes lie behind every block that was there, so nothing the program had is changed on the way.
-/

namespace Foreign

/-- The block that a value of the type needs on the other side of a call. -/
def CType.structSize? : CType → Option Word
  | .struct layout => some layout.size
  | _ => none

/-- The blocks that a call of a callback makes: one for a struct result, one for each struct argument. -/
def Signature.blocks (signature : Signature) : List Word :=
  signature.result.structSize?.toList ++ signature.parameters.filterMap CType.structSize?

/-- `copy` is a struct in a block that was not there before, with the bytes that `source` had then, and what
is written to one of the two does not show in the other. -/
structure Copied (before after : Store) (layout : Layout) (source copy : View) : Prop where
  buffer : ∃ extent : Buffer, copy = .ofBuffer extent (.struct layout) ∧ extent.size = layout.size ∧
    ⟨extent, true⟩ ∈ after.blocks
  fresh : ∀ block ∈ before.blocks, block.extent.finish < copy.address.toNat
  bytes : after.memory.read copy.address layout.size.toNat =
    before.memory.read source.address layout.size.toNat
  independent : Memory.Independent source.address copy.address layout.size.toNat

/-- What the body of a callback gets for an argument. -/
inductive Delivered (before after : Store) : CType → Value → Value → Prop
  | plain {type : CType} {value : Value} (fits : Value.Fits value type) (plain : type.IsPlain) :
      Delivered before after type value (value.asRead type)
  | struct {layout : Layout} {source copy : View} (copied : Copied before after layout source copy) :
      Delivered before after (.struct layout) (.struct source) (.struct copy)

/-- What it gets for all of them. No two copies share a byte. -/
inductive DeliveredAll (before after : Store) : List CType → List Value → List Value → Prop
  | nil : DeliveredAll before after [] [] []
  | cons {type : CType} {types : List CType} {value got : Value} {values all : List Value}
      (first : Delivered before after type value got) (rest : DeliveredAll before after types values all)
      (apart : ∀ copy other, got = .struct copy → .struct other ∈ all →
        copy.address.toNat + type.size.toNat < other.address.toNat) :
      DeliveredAll before after (type :: types) (value :: values) (got :: all)

theorem DeliveredAll.length_eq {before after : Store} {types : List CType} {values all : List Value}
    (delivered : DeliveredAll before after types values all) : all.length = values.length := by
  induction delivered with
  | nil => rfl
  | cons _ _ _ ih => rw [List.length_cons, List.length_cons, ih]

/-- Blocks that come later leave a copy alone. -/
theorem Copied.grows {before store after : Store} {layout : Layout} {source copy : View}
    (copied : Copied before store layout source copy) (ordered : store.Ordered)
    (grows : store.Grows after) : Copied before after layout source copy := by
  obtain ⟨extent, rfl, hsize, mem⟩ := copied.buffer
  have hfinish := ordered.lt_nextAddress mem
  have hlimit : Store.addressLimit < 2 ^ 64 := by decide
  have hbound := ordered.bounded _ mem
  rw [Buffer.finish] at hfinish hbound
  refine ⟨⟨extent, rfl, hsize, grows.mem mem⟩, copied.fresh, ?_, copied.independent⟩
  rw [← copied.bytes, ← hsize]
  exact grows.read (Nat.le_of_lt hfinish) (Nat.le_trans hbound (Nat.le_of_lt hlimit))

theorem Delivered.grows {before store after : Store} {type : CType} {value got : Value}
    (delivered : Delivered before store type value got) (ordered : store.Ordered)
    (grows : store.Grows after) : Delivered before after type value got := by
  cases delivered with
  | plain fits plain => exact .plain fits plain
  | struct copied => exact .struct (copied.grows ordered grows)

namespace Machine

/-- `after` is `machine` with more blocks and more events. -/
structure Grows (machine after : Machine) : Prop where
  others : after = { machine with store := after.store, events := after.events }
  store : machine.store.Grows after.store
  ordered : after.store.Ordered

theorem Grows.trans {machine next after : Machine} (first : machine.Grows next)
    (second : next.Grows after) : machine.Grows after := by
  refine ⟨?_, first.store.trans second.store, second.ordered⟩
  rw [second.others, first.others]

/-- Where the structs among the values are: in blocks from one address on, up to another. -/
def Within (start stop : Nat) (type : CType) (value : Value) : Prop :=
  ∀ copy, value = .struct copy → start ≤ copy.address.toNat ∧ copy.address.toNat + type.size.toNat < stop

theorem receive_struct {before : Store} {machine : Machine} {layout : Layout} {source : View}
    {rest : List Word} (first : before.Ordered) (grows : before.Grows machine.store)
    (ordered : machine.store.Ordered) (allowed : before.allows source.address layout.size = true)
    (room : machine.store.hasRoom (layout.size :: rest) = true) :
    ∃ copy after, machine.receive (.struct layout)
        (before.memory.read source.address layout.size.toNat) = .ok (.struct copy, after) ∧
      machine.Grows after ∧ after.store.hasRoom rest = true ∧
      Copied before after.store layout source copy ∧
      Within machine.store.nextAddress after.store.nextAddress (.struct layout) (.struct copy) := by
  obtain ⟨extent, store, allocated, hroom⟩ := Store.allocate_of_hasRoom room
  have hcreated : View.newStruct machine.store layout =
      .ok (.ofBuffer extent (.struct layout), store) :=
    View.buffer_eq_ok_iff.mpr ⟨extent, allocated, rfl⟩
  obtain ⟨hstart, hsize, -⟩ := Store.start_of_allocate allocated
  have hfinish := Store.finish_lt_of_allocate allocated
  obtain ⟨hgrows, hordered, hread⟩ := Store.fill_of_allocate ordered allocated
    (Memory.length_read before.memory source.address layout.size.toNat)
  have hreceive : machine.receive (.struct layout)
      (before.memory.read source.address layout.size.toNat) =
        .ok (.struct (.ofBuffer extent (.struct layout)),
          Machine.record { machine with
            store := { store with
              memory := store.memory.write extent.start
                (before.memory.read source.address layout.size.toNat) } }
            (.allocated layout.size)) := by
    rw [receive, hcreated]
    rfl
  refine ⟨_, _, hreceive, ⟨rfl, hgrows, hordered⟩, ?_, ⟨⟨extent, rfl, hsize, ?_⟩, ?_, hread, ?_⟩, ?_⟩
  · rw [← hroom]
    apply Store.hasRoom_congr
    rfl
  · obtain ⟨-, -, rfl⟩ := Store.allocate_eq_some_iff.mp allocated
    exact List.mem_cons_self
  · intro block mem
    change block.extent.finish < extent.start.toNat
    rw [hstart]
    exact Nat.lt_of_lt_of_le (first.lt_nextAddress mem) grows.next
  · exact first.independent grows.next allocated allowed
  · intro copy heq
    cases heq
    rw [Buffer.finish, hsize] at hfinish
    exact ⟨Nat.le_of_eq hstart.symm, hfinish⟩

theorem receive_plain {machine : Machine} {type : CType} (plain : type.IsPlain) (bytes : List UInt8) :
    machine.receive type bytes = .ok (.decode type bytes, machine) := by
  cases type with
  | struct layout => exact absurd rfl (plain layout)
  | void | int _ _ | float | double | pointer _ => rfl

theorem structSize?_of_plain {type : CType} (plain : type.IsPlain) : type.structSize? = none := by
  cases type with
  | struct layout => exact absurd rfl (plain layout)
  | void | int _ _ | float | double | pointer _ => rfl

theorem receive_of_accepted {before : Store} {machine : Machine} {type : CType} {value : Value}
    {types : List CType} (first : before.Ordered) (grows : before.Grows machine.store)
    (ordered : machine.store.Ordered) (accepted : value.Accepted type)
    (allowed : ∀ view, value = .struct view → before.allows view.address view.element.size = true)
    (room : machine.store.hasRoom ((type :: types).filterMap CType.structSize?) = true) :
    ∃ got after, machine.receive type (View.payload before type.size.toNat value) = .ok (got, after) ∧
      machine.Grows after ∧ after.store.hasRoom (types.filterMap CType.structSize?) = true ∧
      Delivered before after.store type value got ∧
      Within machine.store.nextAddress after.store.nextAddress type got := by
  obtain ⟨fits, -⟩ := accepted
  by_cases plain : type.IsPlain
  · have hstruct := fits.ne_struct plain
    have hpayload : View.payload before type.size.toNat value = value.encode := by
      cases value with
      | struct view => exact absurd rfl (hstruct view)
      | void | scalar _ | pointer _ => rfl
    have hreceive : machine.receive type (View.payload before type.size.toNat value) =
        .ok (value.asRead type, machine) := by
      rw [receive_plain plain, hpayload, Value.decode_encode_of_fits fits plain]
    rw [List.filterMap_cons_none (structSize?_of_plain plain)] at room
    refine ⟨_, machine, hreceive, ⟨rfl, .refl _, ordered⟩, room, .plain fits plain, ?_⟩
    intro copy heq
    cases value with
    | struct view => exact absurd rfl (hstruct view)
    | void | scalar _ | pointer _ => cases heq
  · cases value with
    | void | scalar _ | pointer _ => exact absurd (fits.plain (fun _ h => (nomatch h))) plain
    | struct source =>
        cases fits with
        | @struct _ layout element =>
            have hsource := allowed source rfl
            rw [element] at hsource
            obtain ⟨copy, after, hreceive, hgrows, hroom, hcopied, hwithin⟩ :=
              receive_struct first grows ordered hsource room
            exact ⟨_, after, hreceive, hgrows, hroom, .struct hcopied, hwithin⟩

/-- All arguments, by induction over them: the blocks made so far are part of what the next one finds. -/
theorem receiveFrom_of_accepted {before : Store} (first : before.Ordered) {types : List CType}
    {values : List Value} (accepted : List.Forall₂ Value.Accepted types values)
    (allowed : ∀ view, .struct view ∈ values → before.allows view.address view.element.size = true)
    {machine : Machine} (grows : before.Grows machine.store) (ordered : machine.store.Ordered)
    (room : machine.store.hasRoom (types.filterMap CType.structSize?) = true) (index : Nat) :
    ∃ all after,
      machine.receiveFrom index types (Marshal.payloads before types values) = .ok (all, after) ∧
      machine.Grows after ∧ DeliveredAll before after.store types values all ∧
      ∀ copy, .struct copy ∈ all → machine.store.nextAddress ≤ copy.address.toNat := by
  induction accepted generalizing machine index with
  | nil => exact ⟨[], machine, rfl, ⟨rfl, .refl _, ordered⟩, .nil, by simp⟩
  | @cons type value types values accepted _ ih =>
      have hvalue : ∀ view, value = .struct view →
          before.allows view.address view.element.size = true :=
        fun view heq => allowed view (by simp [heq])
      have hvalues : ∀ view, .struct view ∈ values →
          before.allows view.address view.element.size = true :=
        fun view mem => allowed view (List.mem_cons_of_mem _ mem)
      obtain ⟨got, next, hreceive, hnext, hroom, hgot, hwithin⟩ :=
        receive_of_accepted first grows ordered accepted hvalue room
      obtain ⟨all, after, hrest, hafter, hall, hbehind⟩ :=
        ih hvalues (grows.trans hnext.store) hnext.ordered hroom (index + 1)
      have hpayloads : Marshal.payloads before (type :: types) (value :: values) =
          View.payload before type.size.toNat value :: Marshal.payloads before types values := rfl
      refine ⟨got :: all, after, ?_, hnext.trans hafter, ?_, ?_⟩
      · rw [hpayloads, receiveFrom, hreceive, Except.mapError, Outcome.ok_bind]
        simp only [hrest]
        rfl
      · refine .cons (hgot.grows hnext.ordered hafter.store) hall ?_
        intro copy other heq mem
        exact Nat.lt_of_lt_of_le (hwithin copy heq).2 (hbehind other mem)
      · intro copy mem
        cases List.mem_cons.mp mem with
        | inl heq => exact (hwithin copy heq.symm).1
        | inr hmem => exact Nat.le_trans hnext.store.next (hbehind copy hmem)

end Machine
end Foreign
