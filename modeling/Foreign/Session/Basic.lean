import Foreign.CType.Expression
import Foreign.Library.Linker
import Foreign.View.Ownership

/-!
Sessions: views, functions and libraries under names, over a machine that they share. Allocations are
numbered in the order in which they were made, and a view remembers which of them it was reached from, so
that its address can be told without saying where in memory anything is.
-/

namespace Foreign

/-- A view with the number of the allocation that it was reached from. -/
structure Handle where
  view : View
  origin : Option Nat

instance : Inhabited Handle := ⟨⟨default, none⟩⟩

structure Session where
  host : Host
  machine : Machine
  scope : TypeExpr.Scope
  views : List (String × Handle)
  /-- The extents of the numbered allocations, in the order of their numbers. -/
  allocations : List Buffer
  functions : List (String × Function)
  /-- Functions that were bound from libraries. -/
  bindings : List (String × Function)
  libraries : List (String × Library)

namespace Session

/-- A session in which nothing has a name yet, apart from the types of a scope. -/
def start (host : Host) (machine : Machine) (scope : TypeExpr.Scope) : Session :=
  ⟨host, machine, scope, [], [], [], [], []⟩

/-- Give a name a meaning in place of the one it has. -/
def rename (names : List (String × α)) (name : String) (meaning : α) : List (String × α) :=
  (name, meaning) :: names.filter (·.1 != name)

def dropView (session : Session) (name : String) : Session :=
  match session.views.lookup name with
  | some handle =>
    { session with
      machine := { session.machine with store := handle.view.drop session.machine.store }
      views := session.views.filter (·.1 != name) }
  | none => session

def nameView (session : Session) (name : String) (handle : Handle) : Session :=
  let session := session.dropView name
  { session with views := rename session.views name handle }

/-- Keep a view under a name. Without a name it is dropped at once. -/
def keepView (session : Session) (name : Option String) (handle : Handle) : Session :=
  match name with
  | some name => session.nameView name handle
  | none =>
    { session with
      machine := { session.machine with store := handle.view.drop session.machine.store } }

/-- Drop a view that has given up its block. -/
def leakView (session : Session) (name : String) : Session :=
  match session.views.lookup name with
  | some handle =>
    { session with
      machine := { session.machine with store := handle.view.leaked.drop session.machine.store }
      views := session.views.filter (·.1 != name) }
  | none => session

def nameFunction (session : Session) (name : String) (function : Function) : Session :=
  { session with functions := rename session.functions name function }

def keepFunction (session : Session) (name : Option String) (function : Function) : Session :=
  name.elim session (session.nameFunction · function)

def nameBinding (session : Session) (binding : Binding) : Session :=
  { session.nameFunction binding.symbol binding.function with
    bindings := rename session.bindings binding.symbol binding.function }

def keepLibrary (session : Session) (name : Option String) (library : Library) : Session :=
  name.elim session fun name =>
    { session with libraries := rename session.libraries name library }

def number (session : Session) (extent : Buffer) : Nat × Session :=
  (session.allocations.length, { session with allocations := session.allocations ++ [extent] })

def isLive (session : Session) (extent : Buffer) : Bool :=
  session.machine.store.blocks.any fun block => block.live && block.extent.start == extent.start

/-- The number of the newest live allocation around an address; one without bytes counts as one byte. -/
def originOf? (session : Session) (address : Word) : Option Nat :=
  let around := session.allocations.zipIdx.filter fun (extent, _) =>
    session.isLive extent && (⟨extent.start, max 1 extent.size⟩ : Buffer).contains address 1
  around.getLast?.map (·.2)

/-- The least of the names of the function at an address. -/
def functionName? (session : Session) (address : Word) : Option String :=
  let names := (session.functions.filter fun (_, function) => function.address == address).map (·.1)
  if address = 0 then none
  else names.foldl (fun least name =>
    match least with
    | some other => if name < other then some name else least
    | none => some name) none

end Session

/-- Where `address` lies from `start`, which `mark` stands for. -/
def Word.relative (address start : Word) (mark : String) : String :=
  let distance := (address - start).toInt
  if distance = 0 then mark
  else if 0 < distance then mark ++ "+" ++ toString distance
  else mark ++ toString distance

namespace Session

/-- An address in words: by the allocation it was reached from, by the function that is there, or by its
digits. -/
def place (session : Session) (origin : Option Nat) (address : Word) : String :=
  match origin.bind fun number => session.allocations[number]?.map (number, ·) with
  | some (number, extent) => Word.relative address extent.start s!"#{number}"
  | none =>
    match session.functionName? address with
    | some name => "fn:" ++ name
    | none => "0x" ++ address.hexDigits

/-- An address in a message about a buffer. -/
def placeIn (session : Session) (extent : Buffer) (address : Word) : String :=
  let number := (session.allocations.zipIdx.find? fun (other, _) => other.start == extent.start).map (·.2)
  session.place number address

def handlePlace (session : Session) (handle : Handle) : String :=
  session.place handle.origin handle.view.address

end Session
end Foreign
