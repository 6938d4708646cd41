import Foreign.Memory.Store
import Foreign.Proofs.Memory.Ranges

/-!
Blocks never overlap. A new block starts behind every block before it, released or not, and ends before the
addresses that are not handed out; so long as blocks come from allocating and go by releasing, this holds
of every store.
-/

namespace Foreign

/-- The number behind the last byte. -/
def Buffer.finish (extent : Buffer) : Nat :=
  extent.start.toNat + extent.size.toNat

namespace Store

theorem nextStart?_eq_some_iff {store : Store} {room start : Word} :
    store.nextStart? room = some start ↔
      store.nextAddress + room.toNat ≤ addressLimit ∧ UInt64.ofNat store.nextAddress = start := by
  rw [nextStart?]
  split
  · simp [*]
  · simp [*]

theorem allocate_eq_some_iff {store after : Store} {size : Word} {extent : Buffer} :
    store.allocate size = some (extent, after) ↔
      store.nextAddress + size.toNat ≤ addressLimit ∧
      extent = ⟨UInt64.ofNat store.nextAddress, size⟩ ∧
      after = ⟨store.memory.clear extent.start size.toNat, ⟨extent, true⟩ :: store.blocks⟩ := by
  rw [allocate, nextStart?]
  by_cases room : store.nextAddress + size.toNat ≤ addressLimit
  · simp only [if_pos room, Option.map_some, Option.some.injEq, place, Prod.mk.injEq]
    constructor
    · rintro ⟨rfl, rfl⟩
      exact ⟨room, rfl, rfl⟩
    · rintro ⟨-, rfl, rfl⟩
      exact ⟨rfl, rfl⟩
  · simp only [if_neg room, Option.map_none, reduceCtorEq, false_iff, not_and]
    intro h
    exact absurd h room

theorem start_of_allocate {store after : Store} {size : Word} {extent : Buffer}
    (allocated : store.allocate size = some (extent, after)) :
    extent.start.toNat = store.nextAddress ∧ extent.size = size ∧ extent.finish ≤ addressLimit := by
  obtain ⟨room, rfl, -⟩ := allocate_eq_some_iff.mp allocated
  have hlimit : addressLimit < 2 ^ 64 := by decide
  have hstart : (UInt64.ofNat store.nextAddress).toNat = store.nextAddress :=
    Word.toNat_ofNat_of_lt (by omega)
  refine ⟨hstart, rfl, ?_⟩
  rw [Buffer.finish, hstart]
  exact room

theorem ends_of_allocate {store after : Store} {size : Word} {extent : Buffer}
    (allocated : store.allocate size = some (extent, after)) : extent.Ends := by
  have hlimit : addressLimit < 2 ^ 64 := by decide
  have := (start_of_allocate allocated).2.2
  rw [Buffer.finish] at this
  rw [Buffer.Ends]
  omega

theorem exists_allocate {store : Store} {size : Word} (room : store.nextAddress + size.toNat ≤ addressLimit) :
    ∃ extent after, store.allocate size = some (extent, after) :=
  ⟨_, _, allocate_eq_some_iff.mpr ⟨room, rfl, rfl⟩⟩

/-- Filling a new block changes nothing outside it. -/
theorem byte_fill_of_outside {store after : Store} {size : Word} {extent : Buffer} {bytes : List UInt8}
    (allocated : store.allocate size = some (extent, after)) (length : bytes.length = size.toNat) {a : Word}
    (outside : a.toNat < extent.start.toNat ∨ extent.start.toNat + size.toNat ≤ a.toNat) :
    (after.memory.write extent.start bytes).byte a = store.memory.byte a := by
  obtain ⟨-, hsize, -⟩ := start_of_allocate allocated
  have ends := ends_of_allocate allocated
  rw [Buffer.Ends, hsize] at ends
  rw [← length] at outside ends
  rw [Memory.byte_write_of_outside (Nat.le_of_lt ends) outside]
  obtain ⟨-, -, rfl⟩ := allocate_eq_some_iff.mp allocated
  rw [length] at outside ends
  exact Memory.byte_clear_of_outside (Nat.le_of_lt ends) outside

/-- Each block lies behind those that are older, and none reaches the addresses that are not handed out. -/
structure Ordered (store : Store) : Prop where
  apart : store.blocks.Pairwise fun newer older => older.extent.finish < newer.extent.start.toNat
  bounded : ∀ block ∈ store.blocks, block.extent.finish ≤ addressLimit

theorem finish_lt_nextAddress {store : Store} {block : Block} {rest : List Block}
    (h : store.blocks = block :: rest) : block.extent.finish < store.nextAddress := by
  rw [nextAddress, h]
  rw [Buffer.finish, spacing, blockAlign]
  dsimp only
  omega

theorem Ordered.lt_nextAddress {store : Store} (ordered : store.Ordered) {block : Block}
    (mem : block ∈ store.blocks) : block.extent.finish < store.nextAddress := by
  cases h : store.blocks with
  | nil => simp [h] at mem
  | cons newest rest =>
      have hnewest := finish_lt_nextAddress h
      have hapart := ordered.apart
      rw [h] at mem hapart
      cases List.mem_cons.mp mem with
      | inl heq => rwa [heq]
      | inr hmem =>
          have := List.rel_of_pairwise_cons hapart hmem
          rw [Buffer.finish] at this hnewest ⊢
          omega

/-- Stores that a process can come to: blocks come from allocating and go by releasing, and what is in
memory is anything. -/
inductive Reached : Store → Prop
  | empty : Reached .empty
  | allocate {store after : Store} {size : Word} {extent : Buffer} (reached : Reached store)
      (allocated : store.allocate size = some (extent, after)) : Reached after
  | release {store : Store} (address : Word) (reached : Reached store) : Reached (store.release address)
  | memory {store : Store} (memory : Memory) (reached : Reached store) : Reached { store with memory }

theorem Ordered.allocate {store after : Store} {size : Word} {extent : Buffer} (ordered : store.Ordered)
    (allocated : store.allocate size = some (extent, after)) : after.Ordered := by
  obtain ⟨hstart, -, hlimit⟩ := start_of_allocate allocated
  obtain ⟨-, -, rfl⟩ := allocate_eq_some_iff.mp allocated
  refine ⟨.cons ?_ ordered.apart, List.forall_mem_cons.mpr ⟨hlimit, ordered.bounded⟩⟩
  intro older mem
  rw [hstart]
  exact ordered.lt_nextAddress mem

theorem Ordered.release {store : Store} (ordered : store.Ordered) (address : Word) :
    (store.release address).Ordered := by
  have hextent : ∀ block : Block,
      (if block.extent.start = address then { block with live := false } else block).extent =
        block.extent := by
    intro block
    split <;> rfl
  refine ⟨?_, ?_⟩
  · apply List.pairwise_map.mpr
    refine ordered.apart.imp ?_
    intro newer older h
    rwa [hextent, hextent]
  · intro block mem
    obtain ⟨other, hother, rfl⟩ := List.mem_map.mp mem
    rw [hextent]
    exact ordered.bounded other hother

/-- Blocks never overlap, in whatever store a process has come to. -/
theorem Reached.ordered {store : Store} (reached : store.Reached) : store.Ordered := by
  induction reached with
  | empty => exact ⟨.nil, by simp [Store.empty]⟩
  | allocate _ allocated ih => exact ih.allocate allocated
  | release address _ ih => exact ih.release address
  | memory _ _ ih => exact ⟨ih.apart, ih.bounded⟩

/-- What is in use lies in front of the next block. -/
theorem Ordered.allowed_lt {store : Store} (ordered : store.Ordered) {address size : Word}
    (allowed : store.allows address size = true) :
    size = 0 ∨ address.toNat + size.toNat < store.nextAddress := by
  rw [allows, Bool.or_eq_true, beq_iff_eq] at allowed
  refine allowed.imp_right ?_
  intro h
  obtain ⟨block, mem, hholds⟩ := List.any_eq_true.mp h
  have hlimit : addressLimit < 2 ^ 64 := by decide
  have ends : block.extent.Ends := Nat.lt_of_le_of_lt (ordered.bounded block mem) hlimit
  rw [Block.holds, Bool.and_eq_true, Buffer.contains_iff_holds ends] at hholds
  have hfinish := ordered.lt_nextAddress mem
  have hstop := hholds.2.2
  rw [Buffer.finish] at hfinish
  omega

/-- `after` is `before` with new blocks and with other bytes in them: whatever was in front of the new
blocks is as it was. -/
structure Grows (before after : Store) : Prop where
  blocks : ∃ new, after.blocks = new ++ before.blocks ∧
    ∀ block ∈ new, before.nextAddress ≤ block.extent.start.toNat
  next : before.nextAddress ≤ after.nextAddress
  kept : ∀ a : Word, a.toNat < before.nextAddress → after.memory.byte a = before.memory.byte a

theorem Grows.refl (store : Store) : store.Grows store :=
  ⟨⟨[], rfl, by simp⟩, Nat.le_refl _, fun _ _ => rfl⟩

theorem Grows.trans {before store after : Store} (first : before.Grows store)
    (second : store.Grows after) : before.Grows after := by
  obtain ⟨new, hnew, hstart⟩ := first.blocks
  obtain ⟨newer, hnewer, hstart'⟩ := second.blocks
  refine ⟨⟨newer ++ new, by rw [hnewer, hnew, List.append_assoc], ?_⟩,
    Nat.le_trans first.next second.next, ?_⟩
  · intro block mem
    cases List.mem_append.mp mem with
    | inl h => exact Nat.le_trans first.next (hstart' block h)
    | inr h => exact hstart block h
  · intro a h
    rw [second.kept a (Nat.lt_of_lt_of_le h first.next), first.kept a h]

theorem Grows.mem {before after : Store} (grows : before.Grows after) {block : Block}
    (mem : block ∈ before.blocks) : block ∈ after.blocks := by
  obtain ⟨new, hnew, -⟩ := grows.blocks
  rw [hnew]
  exact List.mem_append_right new mem

theorem finish_lt_of_allocate {store after : Store} {size : Word} {extent : Buffer}
    (allocated : store.allocate size = some (extent, after)) : extent.finish < after.nextAddress := by
  obtain ⟨-, -, rfl⟩ := allocate_eq_some_iff.mp allocated
  exact @finish_lt_nextAddress ⟨_, ⟨extent, true⟩ :: store.blocks⟩ ⟨extent, true⟩ store.blocks rfl

theorem grows_of_allocate {store after : Store} {size : Word} {extent : Buffer}
    (allocated : store.allocate size = some (extent, after)) : store.Grows after := by
  obtain ⟨hstart, hsize, -⟩ := start_of_allocate allocated
  have ends := ends_of_allocate allocated
  have hfinish := finish_lt_of_allocate allocated
  rw [Buffer.finish] at hfinish
  rw [Buffer.Ends] at ends
  obtain ⟨-, -, rfl⟩ := allocate_eq_some_iff.mp allocated
  refine ⟨⟨[⟨extent, true⟩], rfl, ?_⟩, by omega, ?_⟩
  · intro block mem
    rw [List.mem_singleton.mp mem]
    exact Nat.le_of_eq hstart.symm
  · intro a h
    rw [← hsize]
    exact Memory.byte_clear_of_outside (by omega) (.inl (by omega))

theorem Grows.write {before store : Store} (grows : before.Grows store) {address : Word}
    {bytes : List UInt8} (start : before.nextAddress ≤ address.toNat)
    (room : address.toNat + bytes.length ≤ 2 ^ 64) :
    before.Grows { store with memory := store.memory.write address bytes } := by
  refine ⟨grows.blocks, grows.next, ?_⟩
  intro a h
  rw [← grows.kept a h]
  exact Memory.byte_write_of_outside room (.inl (by omega))

theorem Grows.read {before after : Store} (grows : before.Grows after) {address : Word} {size : Nat}
    (below : address.toNat + size ≤ before.nextAddress) (room : address.toNat + size ≤ 2 ^ 64) :
    after.memory.read address size = before.memory.read address size := by
  apply Memory.read_congr
  intro i hi
  apply grows.kept
  rw [Memory.toNat_add_ofNat (by omega)]
  omega

/-- What was in use is found as it was in a store that has grown. -/
theorem Grows.read_allowed {before after : Store} (grows : before.Grows after) (ordered : before.Ordered)
    {address size : Word} (allowed : before.allows address size = true) :
    after.memory.read address size.toNat = before.memory.read address size.toNat := by
  refine Memory.read_congr fun i hi => grows.kept _ ?_
  cases ordered.allowed_lt allowed with
  | inl empty =>
      rw [empty] at hi
      exact absurd hi (Nat.not_lt_zero i)
  | inr below =>
      have hsum : (address + UInt64.ofNat i).toNat ≤ address.toNat + i := by
        rw [UInt64.toNat_add, UInt64.toNat_ofNat', Nat.add_mod_mod]
        exact Nat.mod_le _ _
      omega

theorem fill_of_allocate {store after : Store} {size : Word} {extent : Buffer} {bytes : List UInt8}
    (ordered : store.Ordered) (allocated : store.allocate size = some (extent, after))
    (length : bytes.length = size.toNat) :
    store.Grows { after with memory := after.memory.write extent.start bytes } ∧
      Ordered { after with memory := after.memory.write extent.start bytes } ∧
      (after.memory.write extent.start bytes).read extent.start size.toNat = bytes := by
  obtain ⟨hstart, hsize, -⟩ := start_of_allocate allocated
  have ends := ends_of_allocate allocated
  have hordered := ordered.allocate allocated
  rw [Buffer.Ends] at ends
  rw [hsize, ← length] at ends
  refine ⟨?_, ⟨hordered.apart, hordered.bounded⟩, ?_⟩
  · exact (grows_of_allocate allocated).write (Nat.le_of_eq hstart.symm) (Nat.le_of_lt ends)
  · rw [← length]
    apply Memory.read_write
    rw [length]
    exact Nat.le_of_lt size.toNat_lt

theorem Ordered.independent {before store after : Store} {size : Word} {extent : Buffer}
    {address : Word} (ordered : before.Ordered) (next : before.nextAddress ≤ store.nextAddress)
    (allocated : store.allocate size = some (extent, after))
    (allowed : before.allows address size = true) :
    Memory.Independent address extent.start size.toNat := by
  obtain ⟨hstart, hsize, -⟩ := start_of_allocate allocated
  have ends := ends_of_allocate allocated
  rw [Buffer.Ends] at ends
  rw [hsize] at ends
  apply Memory.Apart.independent
  cases ordered.allowed_lt allowed with
  | inl h =>
      intro i hi
      rw [h] at hi
      exact absurd hi (Nat.not_lt_zero i)
  | inr h => exact Memory.apart_of_le (by omega) (by omega)

/-- Whether blocks of these sizes can be had, one after the other. -/
def hasRoom (store : Store) : List Word → Bool
  | [] => true
  | size :: rest =>
      match store.allocate size with
      | some (_, after) => after.hasRoom rest
      | none => false

theorem allocate_of_hasRoom {store : Store} {size : Word} {rest : List Word}
    (room : store.hasRoom (size :: rest) = true) :
    ∃ extent after, store.allocate size = some (extent, after) ∧ after.hasRoom rest = true := by
  rw [hasRoom] at room
  split at room
  · exact ⟨_, _, ‹_›, room⟩
  · cases room

theorem hasRoom_congr {store other : Store} (h : store.blocks = other.blocks) (sizes : List Word) :
    store.hasRoom sizes = other.hasRoom sizes := by
  induction sizes generalizing store other with
  | nil => rfl
  | cons size rest ih =>
      have hnext : store.nextAddress = other.nextAddress := by rw [nextAddress, nextAddress, h]
      simp only [hasRoom, allocate, nextStart?, hnext]
      by_cases room : other.nextAddress + size.toNat ≤ addressLimit
      · simp only [if_pos room, Option.map_some, place]
        apply ih
        rw [h]
      · simp only [if_neg room, Option.map_none]

end Store
end Foreign
