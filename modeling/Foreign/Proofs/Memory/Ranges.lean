import Foreign.Memory.Store
import Foreign.Proofs.Word

/-!
Ranges of bytes. A write concerns the addresses of its own range and no others, and a read depends on the
bytes of its range alone. Ranges may run over the end of the address space; where they do not, being
apart is a matter of comparing numbers.
-/

namespace Foreign

namespace Memory

/-- No address is both among the `m` from `a` on and the `n` from `b` on. -/
def Apart (a : Word) (m : Nat) (b : Word) (n : Nat) : Prop :=
  ∀ i < m, ∀ j < n, a + UInt64.ofNat i ≠ b + UInt64.ofNat j

theorem Apart.symm {a b : Word} {m n : Nat} (h : Apart a m b n) : Apart b n a m :=
  fun j hj i hi heq => h i hi j hj heq.symm

theorem toNat_add_ofNat {a : Word} {i : Nat} (h : a.toNat + i < 2 ^ 64) :
    (a + UInt64.ofNat i).toNat = a.toNat + i := by
  have hi := Word.toNat_ofNat_of_lt (n := i) (by omega)
  rw [Word.toNat_add_of_lt (by omega), hi]

theorem apart_of_le {a b : Word} {m n : Nat} (hab : a.toNat + m ≤ b.toNat)
    (hb : b.toNat + n ≤ 2 ^ 64) : Apart a m b n := by
  intro i hi j hj heq
  have ha := toNat_add_ofNat (a := a) (i := i) (by have := b.toNat_lt; omega)
  have hb := toNat_add_ofNat (a := b) (i := j) (by omega)
  rw [heq] at ha
  omega

theorem byte_write_of_ne {memory : Memory} {address a : Word} {bytes : List UInt8}
    (h : ∀ i < bytes.length, a ≠ address + UInt64.ofNat i) :
    (memory.write address bytes).byte a = memory.byte a := by
  apply byte_write_of_le
  apply Nat.le_of_not_lt
  intro hlt
  apply h _ hlt
  rw [UInt64.ofNat_toNat, UInt64.add_comm, UInt64.sub_add_cancel]

theorem ne_add_of_outside {address a : Word} {n : Nat} (room : address.toNat + n ≤ 2 ^ 64)
    (outside : a.toNat < address.toNat ∨ address.toNat + n ≤ a.toNat) :
    ∀ i < n, a ≠ address + UInt64.ofNat i := by
  intro i hi heq
  have := toNat_add_ofNat (a := address) (i := i) (by omega)
  rw [← heq] at this
  omega

theorem byte_write_of_outside {memory : Memory} {address a : Word} {bytes : List UInt8}
    (room : address.toNat + bytes.length ≤ 2 ^ 64)
    (outside : a.toNat < address.toNat ∨ address.toNat + bytes.length ≤ a.toNat) :
    (memory.write address bytes).byte a = memory.byte a :=
  byte_write_of_ne (ne_add_of_outside room outside)

theorem byte_clear_of_ne {memory : Memory} {address a : Word} {size : Nat}
    (h : ∀ i < size, a ≠ address + UInt64.ofNat i) :
    (memory.clear address size).byte a = memory.byte a := by
  apply if_neg
  intro hlt
  apply h _ hlt
  rw [UInt64.ofNat_toNat, UInt64.add_comm, UInt64.sub_add_cancel]

theorem byte_clear_of_outside {memory : Memory} {address a : Word} {size : Nat}
    (room : address.toNat + size ≤ 2 ^ 64)
    (outside : a.toNat < address.toNat ∨ address.toNat + size ≤ a.toNat) :
    (memory.clear address size).byte a = memory.byte a :=
  byte_clear_of_ne (ne_add_of_outside room outside)

theorem read_congr {memory other : Memory} {address : Word} {size : Nat}
    (h : ∀ i < size, memory.byte (address + UInt64.ofNat i) = other.byte (address + UInt64.ofNat i)) :
    memory.read address size = other.read address size := by
  apply List.map_congr_left
  intro i hi
  exact h i (List.mem_range.mp hi)

theorem read_write_of_apart {memory : Memory} {address other : Word} {bytes : List UInt8} {size : Nat}
    (h : Apart address bytes.length other size) :
    (memory.write address bytes).read other size = memory.read other size := by
  apply read_congr
  intro i hi
  apply byte_write_of_ne
  intro j hj heq
  exact h j hj i hi heq.symm

/-- Putting back what was read changes nothing. -/
theorem write_read (memory : Memory) (address : Word) (size : Nat) :
    memory.write address (memory.read address size) = memory := by
  have hbyte : ∀ a, (memory.write address (memory.read address size)).byte a = memory.byte a := by
    intro a
    by_cases inside : (a - address).toNat < size
    · rw [byte_write_of_lt (by rwa [length_read])]
      simp only [read, List.getElem_map, List.getElem_range, UInt64.ofNat_toNat]
      rw [UInt64.add_comm, UInt64.sub_add_cancel]
    · exact byte_write_of_le (by rw [length_read]; exact Nat.le_of_not_lt inside)
  exact congrArg Memory.mk (funext hbyte)

theorem read_add (memory : Memory) (address : Word) (m n : Nat) :
    memory.read address (m + n) =
      memory.read address m ++ memory.read (address + UInt64.ofNat m) n := by
  rw [read, read, read, List.range_add, List.map_append, List.map_map]
  refine congrArg _ (List.map_congr_left fun i _ => ?_)
  rw [Function.comp_apply, UInt64.ofNat_add, UInt64.add_assoc]

/-- Bytes can be put down in two parts, one behind the other. -/
theorem write_append (memory : Memory) (address : Word) {front rest : List UInt8}
    (room : front.length + rest.length ≤ 2 ^ 64) :
    memory.write address (front ++ rest) =
      (memory.write address front).write (address + UInt64.ofNat front.length) rest := by
  have hbyte : ∀ a, (memory.write address (front ++ rest)).byte a =
      ((memory.write address front).write (address + UInt64.ofNat front.length) rest).byte a := by
    intro a
    by_cases none : rest = []
    · subst none
      rw [List.append_nil]
      exact (byte_write_of_le (Nat.zero_le _)).symm
    have pos := List.length_pos_iff.mpr none
    have hdistance : (a - (address + UInt64.ofNat front.length)).toNat =
        (2 ^ 64 - front.length + (a - address).toNat) % 2 ^ 64 := by
      have hfront : (UInt64.ofNat front.length).toNat = front.length := Word.toNat_ofNat_of_lt (by omega)
      have haddress := address.toNat_lt
      have ha := a.toNat_lt
      simp only [UInt64.toNat_sub, UInt64.toNat_add, hfront]
      omega
    have hlt := (a - address).toNat_lt
    by_cases inFront : (a - address).toNat < front.length
    · have passed : ((memory.write address front).write (address + UInt64.ofNat front.length) rest).byte a =
          (memory.write address front).byte a :=
        byte_write_of_le (by rw [hdistance]; omega)
      rw [passed, byte_write_of_lt inFront, byte_write_of_lt (by rw [List.length_append]; omega),
        List.getElem_append_left]
    · by_cases inRest : (a - address).toNat < front.length + rest.length
      · rw [byte_write_of_lt (by rwa [List.length_append]), byte_write_of_lt (by rw [hdistance]; omega),
          List.getElem_append_right (Nat.le_of_not_lt inFront)]
        congr 1
        rw [hdistance]
        omega
      · rw [byte_write_of_le (by rw [List.length_append]; omega), byte_write_of_le (by rw [hdistance]; omega),
          byte_write_of_le (by omega)]
  exact congrArg Memory.mk (funext hbyte)

theorem length_flatMap_of_sized {α : Type} {encode : α → List UInt8} {size : Nat} {values : List α}
    (sized : ∀ value ∈ values, (encode value).length = size) :
    (values.flatMap encode).length = values.length * size := by
  rw [List.length_flatMap, List.map_congr_left sized, List.map_const', List.sum_replicate_nat]

/-- Of values that lie one behind the other each has its bytes at its own distance. -/
theorem read_of_flatMap {α : Type} {encode : α → List UInt8} {size : Nat} {values : List α}
    {memory : Memory} {address : Word} (sized : ∀ value ∈ values, (encode value).length = size)
    (whole : memory.read address (values.length * size) = values.flatMap encode) {i : Nat}
    (lt : i < values.length) :
    memory.read (address + UInt64.ofNat (i * size)) size = encode values[i] := by
  induction values generalizing address i with
  | nil => cases lt
  | cons value rest ih =>
      obtain ⟨hvalue, hrest⟩ := List.forall_mem_cons.mp sized
      rw [List.length_cons, Nat.succ_mul, Nat.add_comm, read_add, List.flatMap_cons] at whole
      obtain ⟨first, others⟩ := List.append_inj whole (by rw [length_read, hvalue])
      cases i with
      | zero =>
          rw [Nat.zero_mul]
          exact (congrArg (memory.read · size) (UInt64.add_zero address)).trans first
      | succ i =>
          rw [Nat.succ_mul, Nat.add_comm, UInt64.ofNat_add, ← UInt64.add_assoc, List.getElem_cons_succ]
          exact ih hrest others (Nat.lt_of_succ_lt_succ lt)

/-- What is written to one of two ranges of the same size does not show in the other. -/
def Independent (a b : Word) (size : Nat) : Prop :=
  ∀ (memory : Memory) (i : Nat) (bytes : List UInt8), i + bytes.length ≤ size →
    (memory.write (a + UInt64.ofNat i) bytes).read b size = memory.read b size ∧
    (memory.write (b + UInt64.ofNat i) bytes).read a size = memory.read a size

theorem Apart.part {a b : Word} {m n i k : Nat} (h : Apart a m b n) (hi : i + k ≤ m) :
    Apart (a + UInt64.ofNat i) k b n := by
  intro j hj l hl
  rw [UInt64.add_assoc, ← UInt64.ofNat_add]
  exact h (i + j) (by omega) l hl

theorem Apart.independent {a b : Word} {size : Nat} (h : Apart a size b size) :
    Independent a b size := by
  intro memory i bytes hi
  exact ⟨read_write_of_apart (h.part hi), read_write_of_apart (h.symm.part hi)⟩

end Memory

namespace Buffer

/-- Whether `size` bytes from `address` on lie in the buffer, as numbers. -/
def Holds (extent : Buffer) (address size : Nat) : Prop :=
  extent.start.toNat ≤ address ∧ address + size ≤ extent.start.toNat + extent.size.toNat

/-- The buffer ends before the address space does. -/
def Ends (extent : Buffer) : Prop :=
  extent.start.toNat + extent.size.toNat < 2 ^ 64

/-- The buffer ends where it should and has the `size` bytes from `address` on. -/
def Spans (extent : Buffer) (address size : Word) : Prop :=
  extent.Ends ∧ extent.Holds address.toNat size.toNat

instance (extent : Buffer) (address size : Nat) : Decidable (extent.Holds address size) :=
  inferInstanceAs (Decidable (_ ∧ _))

instance (extent : Buffer) : Decidable extent.Ends :=
  inferInstanceAs (Decidable (_ < _))

instance (extent : Buffer) (address size : Word) : Decidable (extent.Spans address size) :=
  inferInstanceAs (Decidable (_ ∧ _))

theorem contains_iff_spans {extent : Buffer} {address size : Word} :
    extent.contains address size = true ↔ extent.Spans address size := by
  have hstart := extent.start.toNat_lt
  have hsize := extent.size.toNat_lt
  have hstop : extent.stop.toNat = (extent.start.toNat + extent.size.toNat) % 2 ^ 64 :=
    UInt64.toNat_add _ _
  rw [contains, Spans, Ends, Holds]
  cases h : address.add? size with
  | none =>
      have hle : 2 ^ 64 ≤ address.toNat + size.toNat := Word.add?_eq_none_iff.mp h
      simp only [Bool.and_false, Bool.false_eq_true, false_iff]
      omega
  | some stop =>
      obtain ⟨lt, rfl⟩ := Word.add?_eq_some_iff.mp h
      simp only [Bool.and_eq_true, decide_eq_true_eq, UInt64.le_iff_toNat_le,
        Word.toNat_add_of_lt lt, hstop]
      omega

theorem contains_iff_holds {extent : Buffer} (ends : extent.Ends) {address size : Word} :
    extent.contains address size = true ↔ extent.Holds address.toNat size.toNat := by
  rw [contains_iff_spans]
  exact and_iff_right ends

end Buffer

namespace Memory

/-- The two memories have the same bytes in the buffer. -/
def AgreeOn (extent : Buffer) (memory other : Memory) : Prop :=
  ∀ a : Word, extent.Holds a.toNat 1 → memory.byte a = other.byte a

variable {extent : Buffer} {memory other : Memory} {address : Word}

theorem AgreeOn.read {size : Nat} (agree : memory.AgreeOn extent other) (ends : extent.Ends)
    (holds : extent.Holds address.toNat size) : memory.read address size = other.read address size := by
  obtain ⟨hstart, hstop⟩ := holds
  change extent.start.toNat + extent.size.toNat < 2 ^ 64 at ends
  apply read_congr
  intro i hi
  apply agree
  rw [toNat_add_ofNat (by omega)]
  exact ⟨by omega, by omega⟩

/-- A write inside the buffer changes nothing outside it. -/
theorem byte_write_of_not_holds {bytes : List UInt8} (ends : extent.Ends)
    (holds : extent.Holds address.toNat bytes.length) {a : Word} (outside : ¬ extent.Holds a.toNat 1) :
    (memory.write address bytes).byte a = memory.byte a := by
  obtain ⟨hstart, hstop⟩ := holds
  change extent.start.toNat + extent.size.toNat < 2 ^ 64 at ends
  apply byte_write_of_outside (by omega)
  rw [Buffer.Holds] at outside
  omega

end Memory
end Foreign
