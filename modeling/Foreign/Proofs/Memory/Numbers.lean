import Foreign.Proofs.Memory.Blocks

/-!
Blocks by number, in the order in which they were handed out. An address can be that of many blocks, one
after the other, so what was released is told by the number of a block and not by its address.
-/

namespace Foreign

theorem getElem?_append_last {α : Type} (as : List α) (a : α) (i : Nat) :
    (as ++ [a])[i]? = if i = as.length then some a else as[i]? := by
  grind

namespace Store

variable {store : Store} {start other size address : Word} {i j : Nat}

/-- The block that was handed out as number `i`. -/
def block? (store : Store) (i : Nat) : Option Block :=
  store.blocks.reverse[i]?

/-- The number of the first live block that starts at an address. -/
def liveAt? (store : Store) (address : Word) : Option Nat :=
  store.blocks.reverse.findIdx? fun block => block.live && block.extent.start == address

/-- Number `i` is a block at `start` that was not released. -/
def Lives (store : Store) (i : Nat) (start : Word) : Prop :=
  ∃ size, store.block? i = some ⟨⟨start, size⟩, true⟩

/-- Number `i` is a block that was released. -/
def Dead (store : Store) (i : Nat) : Prop :=
  ∃ extent, store.block? i = some ⟨extent, false⟩

theorem lives_iff : store.Lives i start ↔
    ∃ block, store.block? i = some block ∧ block.live = true ∧ block.extent.start = start := by
  constructor
  · rintro ⟨size, found⟩
    exact ⟨_, found, rfl, rfl⟩
  · rintro ⟨⟨⟨_, size⟩, _⟩, found, rfl, rfl⟩
    exact ⟨size, found⟩

theorem Lives.lt_length (lives : store.Lives i start) : i < store.blocks.length := by
  obtain ⟨size, found⟩ := lives
  simpa using (List.getElem?_eq_some_iff.mp found).1

theorem Dead.lt_length (dead : store.Dead i) : i < store.blocks.length := by
  obtain ⟨extent, found⟩ := dead
  simpa using (List.getElem?_eq_some_iff.mp found).1

theorem Lives.start_unique (lives : store.Lives i start) (lives' : store.Lives i other) :
    start = other := by
  obtain ⟨size, found⟩ := lives
  obtain ⟨size', found'⟩ := lives'
  rw [found] at found'
  cases found'
  rfl

theorem Lives.not_dead (lives : store.Lives i start) : ¬ store.Dead i := by
  rintro ⟨extent, released⟩
  obtain ⟨size, found⟩ := lives
  rw [found] at released
  cases released

theorem Lives.mem (lives : store.Lives i start) :
    ∃ block ∈ store.blocks, block.live = true ∧ block.extent.start = start := by
  obtain ⟨block, found, live⟩ := lives_iff.mp lives
  exact ⟨block, List.mem_reverse.mp (List.mem_of_getElem? found), live⟩

theorem block?_place (store : Store) (start size : Word) (i : Nat) :
    (store.place start size).2.block? i =
      if i = store.blocks.length then some ⟨⟨start, size⟩, true⟩ else store.block? i := by
  rw [block?, place, List.reverse_cons, getElem?_append_last, List.length_reverse]
  rfl

theorem block?_release (store : Store) (address : Word) (i : Nat) :
    (store.release address).block? i = (store.block? i).map fun block =>
      if block.extent.start = address then { block with live := false } else block := by
  rw [block?, release, ← List.map_reverse, List.getElem?_map]
  rfl

theorem lives_place : (store.place start size).2.Lives i other ↔
    i = store.blocks.length ∧ other = start ∨ store.Lives i other := by
  rw [Lives, block?_place]
  by_cases newest : i = store.blocks.length
  · have unknown : ¬ store.Lives i other := fun lives => Nat.ne_of_lt lives.lt_length newest
    simp [newest, eq_comm, newest ▸ unknown]
  · simp [newest, Lives]

theorem dead_place : (store.place start size).2.Dead i ↔ store.Dead i := by
  rw [Dead, block?_place]
  by_cases newest : i = store.blocks.length
  · have unknown : ¬ store.Dead i := fun dead => Nat.ne_of_lt dead.lt_length newest
    simp [newest, newest ▸ unknown]
  · simp [newest, Dead]

theorem lives_release : (store.release address).Lives i start ↔
    store.Lives i start ∧ start ≠ address := by
  rw [Lives, Lives, block?_release]
  cases found : store.block? i with
  | none => simp
  | some block =>
      obtain ⟨⟨first, size⟩, live⟩ := block
      by_cases asked : first = address
      · simpa [asked] using fun h _ => h.symm
      · simp only [Option.map_some, asked, if_false, iff_self_and]
        rintro ⟨_, heq⟩
        cases heq
        exact asked

theorem dead_release : (store.release address).Dead i ↔ store.Dead i ∨ store.Lives i address := by
  rw [Dead, Dead, Lives, block?_release]
  cases found : store.block? i with
  | none => simp
  | some block =>
      obtain ⟨⟨first, size⟩, live⟩ := block
      cases live <;> by_cases asked : first = address <;> simp [asked]

/-- Releasing an address that one live block has leaves every other block as it was. -/
theorem block?_release_alone (lives : store.Lives i address)
    (alone : ∀ j, store.Lives j address → j = i) (j : Nat) :
    (store.release address).block? j =
      if j = i then (store.block? j).map fun block => { block with live := false }
      else store.block? j := by
  rw [block?_release]
  by_cases same : j = i
  · obtain ⟨size, found⟩ := lives
    simp [same, found]
  · rw [if_neg same]
    cases found : store.block? j with
    | none => rfl
    | some block =>
        obtain ⟨⟨start, size⟩, live⟩ := block
        rw [Option.map_some]
        split
        · rename_i asked
          cases live with
          | true => exact absurd (alone j (lives_iff.mpr ⟨_, found, rfl, asked⟩)) same
          | false => rfl
        · rfl

/-- A block that has its address to itself is what the address leads to. -/
theorem Lives.liveAt? (lives : store.Lives i address)
    (alone : ∀ j, store.Lives j address → j = i) : store.liveAt? address = some i := by
  obtain ⟨size, found⟩ := lives
  obtain ⟨bound, heq⟩ := List.getElem?_eq_some_iff.mp found
  rw [Store.liveAt?, List.findIdx?_eq_some_iff_getElem]
  refine ⟨bound, by simp [heq], fun j earlier met => ?_⟩
  rw [Bool.and_eq_true, beq_iff_eq] at met
  have other : store.Lives j address := lives_iff.mpr ⟨_, List.getElem?_eq_getElem _, met⟩
  exact Nat.ne_of_lt earlier (alone j other)

end Store
end Foreign
