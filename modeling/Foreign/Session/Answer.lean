import Foreign.Session.Basic

/-!
What a session answers: values with their addresses in words, and the things that a step made or found.
-/

namespace Foreign

/-- A value as it is shown. A struct is shown with the values of its fields, a pointer by where it leads. -/
inductive Shown where
  | void
  | scalar (s : Scalar)
  | pointer (place : String) (pointee : CType) (access : Access)
  | struct (name : String) (fields : List (String × List Shown)) (place : Option String)

/-- What can be told of a value by itself. -/
structure Inspection where
  kindName : String
  integer : Option (BitVec 64)
  double : Option (BitVec 64)
  isPointer : Bool
  isStruct : Bool
  /-- Whether the value fits each of the types asked about. -/
  fits : List Bool
  scalarKind : Option ScalarKind
  /-- Whether the value equals the one it was compared with. -/
  equal : Option Bool

structure CallReport where
  result : Shown
  /-- The arguments that each run of a callback received. -/
  received : List (List Shown)
  calls : Nat
  callbacks : Nat

inductive Answer where
  | done
  | truth (holds : Bool)
  | view (handle : Handle)
  /-- A view of a buffer that was made from bytes. -/
  | buffer (handle : Handle) (extent : Buffer)
  | info (handle : Handle)
  | value (shown : Shown)
  | text (text : Option String)
  | place (place : String)
  | bytes (bytes : List UInt8)
  | comparison (equal : Bool)
  | inspection (inspection : Inspection)
  | function (function : Function)
  /-- A function pointer made of another one. -/
  | rewrapped (function given : Function)
  | call (report : CallReport)
  | library (library : Library)
  | found
  | bindings (bindings : List Binding)
  | report (report : LinkReport)
  | linked (linked : LinkedModule) (loaded : Nat)

/-- Why a step has no answer: it failed, or it refers to what is not there. -/
inductive Refusal where
  | failed (failure : Failure)
  | unknownView
  | unknownFunction
  | unknownBinding
  | unknownLibrary
  | unknownType (name : TypeExpr.Unknown)

namespace Session

mutual

def showAt (session : Session) (address : Word) : CType → Shown
  | .struct layout => session.showLayout address none layout
  | .pointer pointee =>
    let target := UInt64.ofNat (LittleEndian.decode (session.machine.store.memory.read address 8))
    .pointer (session.place (session.originOf? target) target) pointee pointee.access
  | type =>
    match type.scalarKind? with
    | some kind => .scalar (Scalar.decode kind (session.machine.store.memory.read address kind.size))
    | none => .void

def showLayout (session : Session) (address : Word) (place : Option String) : Layout → Shown
  | ⟨name, fields, _, _⟩ => .struct name (session.showFields address fields) place

def showField (session : Session) (address : Word) : Field → String × List Shown
  | ⟨name, type, count, offset⟩ =>
    (name, (List.range count.toNat).map fun index =>
      session.showAt (address + offset + UInt64.ofNat index * type.stride) type)

def showFields (session : Session) (address : Word) : List Field → List (String × List Shown)
  | [] => []
  | field :: rest => session.showField address field :: session.showFields address rest

end

/-- A value whose pointer or struct was reached from a numbered allocation. -/
def showFrom (session : Session) (origin : Option Nat) : Value → Shown
  | .void => .void
  | .scalar s => .scalar s
  | .pointer view => .pointer (session.place origin view.address) view.element view.access
  | .struct view =>
    match view.element with
    | .struct layout =>
      session.showLayout view.address (some (session.place origin view.address)) layout
    | _ => .void

/-- A value that came out of memory or a call. -/
def showValue (session : Session) : Value → Shown
  | .pointer view => session.showFrom (session.originOf? view.address) (.pointer view)
  | .struct view => session.showAt view.address view.element
  | value => session.showFrom none value

def viewText (session : Session) (handle : Handle) : String :=
  let view := handle.view
  s!"Pointer \x7b address: {session.handlePlace handle}, element: {view.element.text}, " ++
    s!"backing: \"{view.backing.text}\" \x7d"

def functionText (session : Session) (function : Function) : String :=
  s!"NativeFunction \x7b address: {session.place none function.address}, " ++
    s!"signature: {function.interface.signature.text}, trampoline: {function.isTrampoline} \x7d"

end Session
end Foreign
