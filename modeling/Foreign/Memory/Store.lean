import Foreign.Memory.Basic

/-!
The store: the memory together with the blocks that were handed out in it. An access is allowed when a
live block holds all of it. Block addresses only grow, so no two blocks ever share a byte and a released
block is never handed out again.
-/

namespace Foreign

structure Buffer where
  start : Word
  size : Word
  deriving DecidableEq, Repr, Inhabited

namespace Buffer

/-- The address behind the last byte. -/
def stop (buffer : Buffer) : Word :=
  buffer.start + buffer.size

/-- Whether the `size` bytes at `address` lie in the buffer. Nothing that runs past the end of the
address space does. -/
def contains (buffer : Buffer) (address size : Word) : Bool :=
  buffer.start ≤ address &&
    match address.add? size with
    | some stop => stop ≤ buffer.stop
    | none => false

end Buffer

structure Block where
  extent : Buffer
  live : Bool
  deriving DecidableEq, Repr, Inhabited

namespace Block

def holds (block : Block) (address size : Word) : Bool :=
  block.live && block.extent.contains address size

end Block

/-- `blocks` lists the newest block first. -/
structure Store where
  memory : Memory
  blocks : List Block

namespace Store

def empty : Store := ⟨.zeros, []⟩

instance : Inhabited Store := ⟨empty⟩

/-- Every block starts at a multiple of 16, which suits every type. -/
def blockAlign : Nat := 16

def firstAddress : Nat := 0x100000000000

/-- Addresses from here on are not handed out. -/
def addressLimit : Nat := 0x400000000000

/-- Unused bytes between two blocks. -/
def spacing : Nat := 0x40002000

/-- Where the next block starts. -/
def nextAddress (store : Store) : Nat :=
  match store.blocks with
  | [] => firstAddress
  | block :: _ =>
    let stop := block.extent.start.toNat + block.extent.size.toNat
    (stop + spacing) / blockAlign * blockAlign

/-- A new block of `size` zero bytes at `start`, wherever that is. -/
def place (store : Store) (start size : Word) : Buffer × Store :=
  let extent := ⟨start, size⟩
  (extent, ⟨store.memory.clear extent.start size.toNat, ⟨extent, true⟩ :: store.blocks⟩)

/-- Where `room` bytes can be handed out, unless the address space has no room for them. -/
def nextStart? (store : Store) (room : Word) : Option Word :=
  let start := store.nextAddress
  if start + room.toNat ≤ addressLimit then some (UInt64.ofNat start) else none

def allocate (store : Store) (size : Word) : Option (Buffer × Store) :=
  (store.nextStart? size).map fun start => store.place start size

def release (store : Store) (address : Word) : Store :=
  { store with
    blocks := store.blocks.map fun block =>
      if block.extent.start = address then { block with live := false } else block }

/-- Whether the `size` bytes at `address` may be read and written; no bytes always may. -/
def allows (store : Store) (address size : Word) : Bool :=
  size == 0 || store.blocks.any (·.holds address size)

/-- The newest live block around `address`. -/
def blockAt? (store : Store) (address : Word) : Option Block :=
  store.blocks.find? (·.holds address 1)

def load? (store : Store) (address size : Word) : Option (List UInt8) :=
  if store.allows address size then some (store.memory.read address size.toNat) else none

def save? (store : Store) (address : Word) (bytes : List UInt8) : Option Store :=
  if store.allows address (UInt64.ofNat bytes.length) then
    some { store with memory := store.memory.write address bytes }
  else none

end Store
end Foreign
