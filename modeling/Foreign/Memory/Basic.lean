import Foreign.Word

/-!
The byte memory of a process. Every address holds a byte; which addresses may be used is the matter of
the store. The main statements say that a read finds what the last write over it left, and that a write
changes nothing outside its range.
-/

namespace Foreign

structure Memory where
  byte : Word → UInt8

namespace Memory

def zeros : Memory := ⟨fun _ => 0⟩

/-- The `size` bytes from `address` on; the last address is followed by the first. -/
def read (memory : Memory) (address : Word) (size : Nat) : List UInt8 :=
  (List.range size).map fun i => memory.byte (address + UInt64.ofNat i)

/-- Put `bytes` at `address` and the addresses after it. -/
def write (memory : Memory) (address : Word) (bytes : List UInt8) : Memory :=
  ⟨fun a => (bytes[(a - address).toNat]?).getD (memory.byte a)⟩

/-- Put zero at `size` addresses from `address` on. -/
def clear (memory : Memory) (address : Word) (size : Nat) : Memory :=
  ⟨fun a => if (a - address).toNat < size then 0 else memory.byte a⟩

@[simp] theorem length_read (memory : Memory) (address : Word) (size : Nat) :
    (memory.read address size).length = size := by
  simp [read]

theorem byte_write_of_le {memory : Memory} {address a : Word} {bytes : List UInt8}
    (h : bytes.length ≤ (a - address).toNat) :
    (memory.write address bytes).byte a = memory.byte a := by
  simp [write, List.getElem?_eq_none h]

theorem byte_write_of_lt {memory : Memory} {address a : Word} {bytes : List UInt8}
    (h : (a - address).toNat < bytes.length) :
    (memory.write address bytes).byte a = bytes[(a - address).toNat] := by
  simp [write, List.getElem?_eq_getElem h]

theorem byte_write_add {memory : Memory} {address : Word} {bytes : List UInt8} {i : Nat}
    (hi : i < bytes.length) (h : bytes.length ≤ UInt64.size) :
    (memory.write address bytes).byte (address + UInt64.ofNat i) = bytes[i] := by
  have hn : (address + UInt64.ofNat i - address).toNat = i := by
    rw [UInt64.add_comm, UInt64.add_sub_cancel, UInt64.toNat_ofNat']
    exact Nat.mod_eq_of_lt (Nat.lt_of_lt_of_le hi h)
  rw [byte_write_of_lt (by rw [hn]; exact hi)]
  simp only [hn]

theorem read_write (memory : Memory) (address : Word) (bytes : List UInt8)
    (h : bytes.length ≤ UInt64.size) :
    (memory.write address bytes).read address bytes.length = bytes := by
  apply List.ext_getElem
  · simp
  · intro i _ hi
    simp only [read, List.getElem_map, List.getElem_range]
    exact byte_write_add hi h

end Memory
end Foreign
