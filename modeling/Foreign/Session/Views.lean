import Foreign.Session.Attempt
import Foreign.View.Create
import Foreign.View.Text

/-!
The steps of a session that make and use views.
-/

namespace Foreign.Attempt

/-- The extent of the block that a store allocated last. -/
def newestExtent (store : Store) : Buffer :=
  (store.blocks.head?.map (·.extent)).getD default

/-- A view of a new allocation, and the store that has it. The store is not yet that of the session. -/
def allocated (make : Store → View.Allocated) : Attempt (View × Store) := do
  match make (← get).machine.store with
  | .ok (view, store) =>
    record (.allocated (newestExtent store).size)
    return (view, store)
  | .error cause => throw (.failed (.alloc cause))

def allocate (make : Store → View.Allocated) : Attempt View := do
  let (view, store) ← allocated make
  setStore store
  return view

def layout (expr : TypeExpr) : Attempt Layout := do
  match ← type expr with
  | .struct layout => return layout
  | type => throw (.failed (.value (.notAStruct type)))

/-- Bytes are in memory before the type of their view is known. -/
def allocation : Source → Attempt View
  | .buffer size element => do
    let element ← type element
    allocate (View.buffer · size element)
  | .bytes bytes element => do
    let (view, store) ← allocated (View.ofBytes · bytes .void)
    let element ← type element
    setStore store
    return view.cast element
  | .malloc size element => do
    let element ← type element
    allocate (View.malloc Store.nextStart? · size element)
  | .calloc count size element => do
    let element ← type element
    allocate (View.calloc Store.nextStart? · count size element)
  | .struct expr => do
    let layout ← layout expr
    allocate (View.newStruct · layout)
  | .scalars kind values => allocate (View.ofScalars · kind values)
  | .pointers names => do
    let views ← names.mapM fun name => return (← view name).view
    allocate (View.ofViews · views)
  | .text text => allocate (View.ofText · text)

def create (name : Option String) (source : Source) : Attempt Answer := do
  let view ← allocation source
  let extent := newestExtent (← get).machine.store
  let number ← modifyGet (·.number extent)
  let handle := ⟨view, some number⟩
  modify (·.keepView name handle)
  match source with
  | .bytes .. => return .buffer handle extent
  | _ => return .view handle

def derivation : Derivation → Attempt Handle
  | .wrap element address => return ⟨.wrap address (← type element), none⟩
  | .near element name distance => do
    let ⟨view, origin⟩ ← view name
    return ⟨.wrap (view.address + distance) (← type element), origin⟩
  | .null element => return ⟨.null (← type element), none⟩
  | .offset name n => do
    let ⟨view, origin⟩ ← view name
    return ⟨view.offset n, origin⟩
  | .cast name element => do
    let ⟨view, origin⟩ ← view name
    return ⟨view.cast (← type element), origin⟩
  | .reference name times => do
    let ⟨view, origin⟩ ← view name
    return ⟨times.repeat View.reference view.borrow, origin⟩
  | .field name field => do
    let ⟨view, origin⟩ ← view name
    return ⟨← ofOutcome (view.field field), origin⟩
  | .borrow name => do
    let ⟨view, origin⟩ ← view name
    return ⟨view.borrow, origin⟩

def derive (name : Option String) (made : Derivation) : Attempt Answer := do
  let handle ← derivation made
  modify (·.keepView name handle)
  return .view handle

/-- The buffer that is asked about does not outlive the question. -/
def contains (size distance count : Word) : Attempt Answer := do
  match View.buffer (← get).machine.store size .void with
  | .ok (view, _) =>
    record (.allocated size)
    let extent : Buffer := ⟨view.address, size⟩
    return .truth (extent.contains (view.address + distance) count)
  | .error cause => throw (.failed (.alloc cause))

def drop (name : String) : Attempt Answer := do
  let known := ((← get).views.lookup name).isSome
  modify (·.dropView name)
  return .truth known

def leak (name : String) : Attempt Answer := do
  let handle ← view name
  modify (·.leakView name)
  return .place ((← get).handlePlace handle)

/-- What a read finds was reached from the view's own allocation where nothing was read from memory. -/
def read (name : String) (index : Word) (keptAs : Option String) : Attempt Answer := do
  let ⟨view, origin⟩ ← view name
  let session ← get
  let value ← ofOutcome (view.read session.machine.store index)
  let origin :=
    match value with
    | .pointer target => if view.levels = 0 then session.originOf? target.address else origin
    | _ => origin
  let shown := session.showFrom origin value
  keep keptAs origin value
  return .value shown

def write (name : String) (index : Word) (expr : ValueExpr) : Attempt Answer := do
  let ⟨view, _⟩ ← view name
  let value ← value expr
  setStore (← ofOutcome (view.write (← get).machine.store index value))
  return .done

def readScalar (name : String) (kind : ScalarKind) (index : Word) : Attempt Answer := do
  let ⟨view, _⟩ ← view name
  let scalar ← ofOutcome (view.readScalar (← get).machine.store kind index)
  return .value (.scalar scalar)

def writeScalar (name : String) (index : Word) (scalar : Scalar) : Attempt Answer := do
  let ⟨view, _⟩ ← view name
  setStore (← ofOutcome (view.writeScalar (← get).machine.store index scalar))
  return .done

def readText (name : String) : Attempt Answer := do
  let ⟨view, _⟩ ← view name
  return .text (← ofOutcome (view.readText (← get).machine.store))

def addressScalar (name : String) (kind : ScalarKind) : Attempt Answer := do
  let ⟨view, _⟩ ← view name
  return .value (.scalar (view.addressScalar kind))

def bytes (name : String) : Attempt Answer := do
  let ⟨_, origin⟩ ← view name
  let session ← get
  let extent := origin.bind fun number => session.allocations[number]?
  match extent.bind fun extent =>
    if session.isLive extent then session.machine.store.load? extent.start extent.size else none with
  | some bytes => return .bytes bytes
  | none => throw (.failed .undefined)

def compare (name other : String) : Attempt Answer := do
  let ⟨view, _⟩ ← view name
  let ⟨other, _⟩ ← Attempt.view other
  return .comparison (view.same other)

def inspect (expr : ValueExpr) (types : List TypeExpr) (other : Option ValueExpr) : Attempt Answer := do
  let value ← value expr
  let types ← types.mapM type
  let other ← other.mapM Attempt.value
  return .inspection
    { kindName := value.kindName
      integer := value.integer?
      double := value.double?
      isPointer := value.pointer?.isSome
      isStruct := value.struct?.isSome
      fits := types.map value.fits
      scalarKind := match value with | .scalar s => some s.kind | _ => none
      equal := other.map value.same }

end Foreign.Attempt
