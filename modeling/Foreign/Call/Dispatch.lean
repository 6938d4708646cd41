import Foreign.Call.Machine
import Foreign.View.Create

/-!
Calls. A call checks its arguments, hands their bytes to the code at the function's address and reads the
result back; a callback reads its arguments from those bytes, struct arguments into copies of their own,
and writes its result. Calls nest through callbacks that call functions and through library code that
calls callbacks, and every level of nesting uses up one unit of depth. What goes wrong in a callback ends
the process; only a call that is refused is told to the one who made it.
-/

namespace Foreign

/-- Run the body of a callback of this signature on a machine that makes calls by `call`. -/
def Body.run (signature : Signature) (call : Machine → Function → List Value → Outcome Value × Machine) :
    Body → Machine → Outcome Value × Machine
  | .value result, machine => (.ok result, machine)
  | .memory update next, machine =>
    (next machine.store).run signature call { machine with store := update machine.store }
  | .call target values next, machine =>
    match call machine target values with
    | (.ok result, machine) => (next (.ok result)).run signature call machine
    | (.error (.invocation cause), machine) => (next (.error cause)).run signature call machine
    | (.error failure, machine) => (.error failure, machine)
  | .panic message, machine =>
    (.error (.fault (.callbackPanic message)), machine.record (.callbackPanicked signature))

namespace Machine

/-- One argument of a callback from its bytes. A struct gets a buffer of its own. -/
def receive (machine : Machine) (type : CType) (bytes : List UInt8) : Except AllocError (Value × Machine) :=
  match type with
  | .struct layout => do
    let (view, store) ← View.newStruct machine.store layout
    let store := { store with memory := store.memory.write view.address bytes }
    return (.struct view, { machine with store }.record (.allocated layout.size))
  | _ => .ok (.decode type bytes, machine)

/-- The arguments from position `index` on. -/
def receiveFrom (machine : Machine) (index : Nat) :
    List CType → List (List UInt8) → Outcome (List Value × Machine)
  | type :: types, bytes :: rest => do
    let (value, machine) ← (machine.receive type bytes).mapError (.fault <| .unstagedArgument index ·)
    let (values, machine) ← machine.receiveFrom (index + 1) types rest
    return (value :: values, machine)
  | _, _ => .ok ([], machine)

def resultStorage (type : CType) : List UInt8 :=
  List.replicate (Marshal.resultWidth type) 0

/-- Write a callback's result and report one that is not accepted. -/
def finish (machine : Machine) (interface : Interface) (value : Value) :
    Outcome (List UInt8) × Machine :=
  let type := interface.signature.result
  match Marshal.writeResult machine.store type value (resultStorage type) with
  | .ok ⟨true, storage⟩ => (.ok storage, machine)
  | .ok ⟨false, storage⟩ =>
    (.ok storage, machine.record (.callbackMismatch interface.signature value.kindName))
  | .error failure => (.error failure, machine)

mutual

/-- Run the code at an address on the bytes of its arguments. -/
def enter (depth : Nat) (machine : Machine) (address : Word) (arguments : List (List UInt8)) :
    Outcome (List UInt8) × Machine :=
  match depth with
  | 0 => (.error .undefined, machine)
  | depth + 1 =>
    match machine.codeAt? address with
    | none => (.error .undefined, machine)
    | some (.native .applyInt) =>
      match Native.address arguments 0, Native.scalar arguments 1 .i32 with
      | .ok target, .ok value => machine.enter depth target [value.encode]
      | _, _ => (.error .undefined, machine)
    | some (.native native) =>
      match native.run arguments machine.store with
      | .ok (bytes, store) => (.ok bytes, { machine with store })
      | .error failure => (.error failure, machine)
    | some (.trampoline interface managed) =>
      let signature := interface.signature
      let machine := machine.record (.callbackEntered signature.parameters.length)
      let machine := { machine with callbacksEntered := machine.callbacksEntered + 1 }
      match machine.receiveFrom 0 signature.parameters arguments with
      | .error failure => (.error failure, machine.record (.callbackPanicked signature))
      | .ok (values, machine) =>
        let machine := { machine with received := machine.received ++ [values] }
        match (managed values).run signature
          (fun machine target values => machine.callWithin depth target values) machine with
        | (.ok value, machine) => machine.finish interface value
        | (.error failure, machine) => (.error failure, machine)

/-- Call a function. Until the arguments are known to be right nothing happens. -/
def callWithin (depth : Nat) (machine : Machine) (function : Function) (values : List Value) :
    Outcome Value × Machine :=
  match depth with
  | 0 => (.error .undefined, machine)
  | depth + 1 =>
    let signature := function.interface.signature
    if function.address = 0 then (.error (.invocation .nullTarget), machine)
    else match Marshal.slots signature.parameters values with
      | .error failure => (.error failure, machine)
      | .ok slots =>
        match Marshal.load machine.store signature.parameters slots with
        | .error failure => (.error failure, machine)
        | .ok arguments =>
          let machine := machine.record (.nativeCall values.length)
          let machine := { machine with callsMade := machine.callsMade + 1 }
          match signature.result with
          | .struct layout =>
            match View.newStruct machine.store layout with
            | .error cause => (.error (.invocation (.returnStorage cause)), machine)
            | .ok (staging, store) =>
              let machine := { machine with store }.record (.allocated layout.size)
              match machine.enter depth function.address arguments with
              | (.error failure, machine) => (.error failure, machine)
              | (.ok bytes, machine) =>
                let memory := machine.store.memory.write staging.address
                  (bytes.take layout.size.toNat)
                let machine := { machine with store := { machine.store with memory } }
                (.ok (.struct staging), machine.record .nativeReturn)
          | type =>
            match machine.enter depth function.address arguments with
            | (.error failure, machine) => (.error failure, machine)
            | (.ok storage, machine) =>
              (.ok (Marshal.readResult storage type), machine.record .nativeReturn)

end

/-- Depth for callbacks that only call functions older than themselves: library code passes on a call at
most once between two callbacks. -/
def callDepth (machine : Machine) : Nat :=
  4 * machine.code.length + 4

def call (machine : Machine) (function : Function) (values : List Value) : Outcome Value × Machine :=
  machine.callWithin machine.callDepth function values

end Machine
end Foreign
