import Foreign.Call.Interface
import Foreign.Call.Native
import Foreign.Log.Event

/-!
The machine that calls run on: memory, the code that addresses lead to, the interfaces built so far, and
what has happened. Code is never taken away, so an address keeps leading to the same code.
-/

namespace Foreign

/-- A function pointer with the interface to call it through. -/
structure Function where
  address : Word
  interface : Interface
  /-- Whether the code is a callback of this program. -/
  isTrampoline : Bool

/-- What a callback does once it has its arguments, one thing after the other. -/
inductive Body where
  | value (value : Value)
  /-- Changes memory and goes on by what was there before. -/
  | memory (update : Store → Store) (next : Store → Body)
  /-- Calls a function and goes on by what it gave back, or by why the call was refused. -/
  | call (target : Function) (values : List Value) (next : Except InvocationError Value → Body)
  | panic (message : String)

/-- The bodies that a callback has for the arguments it may be called with. -/
abbrev Managed := List Value → Body

inductive Code where
  | native (native : Native)
  | trampoline (interface : Interface) (managed : Managed)

structure Machine where
  store : Store
  /-- The code at the entry addresses, in the order of the addresses. -/
  code : List Code
  interfaces : Interfaces
  events : List Event
  callsMade : Nat
  callbacksEntered : Nat
  librariesLoaded : Nat
  /-- The arguments that each run of a callback received. -/
  received : List (List Value)

namespace Machine

def ofCode (code : List Code) : Machine :=
  ⟨.empty, code, [], [], 0, 0, 0, []⟩

instance : Inhabited Machine := ⟨ofCode []⟩

/-- Entry addresses lie apart from every block. -/
def firstEntry : Nat := 0x400000000000

def entrySpacing : Nat := 16

def entryAddress (index : Nat) : Word :=
  UInt64.ofNat (firstEntry + entrySpacing * index)

def codeAt? (machine : Machine) (address : Word) : Option Code :=
  let distance := address.toNat - firstEntry
  if firstEntry ≤ address.toNat ∧ distance % entrySpacing = 0 then
    machine.code[distance / entrySpacing]?
  else none

def record (machine : Machine) (event : Event) : Machine :=
  { machine with events := machine.events ++ [event] }

def interface (machine : Machine) (signature : Signature) : Outcome (Interface × Machine) := do
  let (interface, interfaces) ← machine.interfaces.build signature
  return (interface, { machine with interfaces })

def trampoline (machine : Machine) (interface : Interface) (managed : Managed) : Function × Machine :=
  (⟨entryAddress machine.code.length, interface, true⟩,
    { machine with code := machine.code ++ [.trampoline interface managed] })

/-- Make a function pointer out of one: it stays as it is and keeps its own interface, which is reported
when another was asked for. -/
def rewrap (machine : Machine) (function : Function) (interface : Interface) : Function × Machine :=
  let own := function.interface.signature
  if own = interface.signature then (function, machine)
  else (function, machine.record (.interfaceKept own interface.signature))

end Machine

namespace Function

def toValue (function : Function) : Value :=
  .pointer (.wrap function.address .void)

end Function
end Foreign
