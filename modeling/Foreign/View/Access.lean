import Foreign.Value

/-!
Reading and writing through views. A buffer-backed view is held to its buffer: reading outside it is a
fault, writing outside it an error. Any other view may use what the store allows, and nothing else is
defined. A write that fails leaves no new store.
-/

namespace Foreign.View

/-- Whether the view may use the `size` bytes at `address`. -/
def reaches (view : View) (store : Store) (address size : Word) : Bool :=
  match view.backing with
  | .buffer extent => extent.contains address size
  | _ => store.allows address size

def check (view : View) (store : Store) (address size : Word) : Outcome Unit :=
  if view.reaches store address size then .ok ()
  else match view.backing with
    | .buffer extent => .error (.fault (.outsideBuffer address size extent))
    | _ => .error .undefined

/-- The extent that a write must respect: that of the buffer, when there is one. -/
def ensureExtent (view : View) (address size : Word) : Outcome Unit :=
  match view.backing with
  | .buffer extent =>
    if extent.contains address size then .ok () else .error (.value (.outOfExtent address size extent))
  | _ => .ok ()

/-- The rest of the permission to write, once the extents are respected. -/
def ensureLive (view : View) (store : Store) (address size : Word) : Outcome Unit :=
  match view.backing with
  | .buffer _ => .ok ()
  | _ => if store.allows address size then .ok () else .error .undefined

/-- The value of the element at `address`, which the view may read. A struct's value is a view of it. -/
def valueAt (view : View) (memory : Memory) (address : Word) : Value :=
  match view.element with
  | .struct layout => .struct (view.derive address (.struct layout))
  | type => .decode type (memory.read address type.size.toNat)

/-- The element `index` places on. -/
def read (view : View) (store : Store) (index : Word) : Outcome Value :=
  let address := view.elementAddress index
  if view.levels ≠ 0 then .ok (.pointer (view.dereference address))
  else do
    view.check store address view.element.size
    return view.valueAt store.memory address

/-- Write `value` to the element `index` places on. -/
def write (view : View) (store : Store) (index : Word) (value : Value) : Outcome Store :=
  if view.levels ≠ 0 then .error (.value .readOnlyIndirection)
  else if view.element.isVoid || !value.fits view.element then
    .error (.value (.typeMismatch view.element value.kindName))
  else do
    let address := view.elementAddress index
    let size := view.element.size
    view.ensureExtent address size
    match value with
    | .struct source =>
      source.ensureExtent source.address size
      view.ensureLive store address size
      source.ensureLive store source.address size
      return { store with
        memory := store.memory.write address (store.memory.read source.address size.toNat) }
    | _ =>
      view.ensureLive store address size
      return { store with memory := store.memory.write address value.encode }

/-- The address of the scalar `index` places on, whatever the view's element is. -/
def scalarAddress (view : View) (kind : ScalarKind) (index : Word) : Outcome Word := do
  let distance ← Outcome.product index (UInt64.ofNat kind.size)
  Outcome.sum view.address distance

def readScalar (view : View) (store : Store) (kind : ScalarKind) (index : Word) : Outcome Scalar := do
  let address ← view.scalarAddress kind index
  view.check store address (UInt64.ofNat kind.size)
  return Scalar.decode kind (store.memory.read address kind.size)

def writeScalar (view : View) (store : Store) (index : Word) (scalar : Scalar) : Outcome Store := do
  let address ← view.scalarAddress scalar.kind index
  view.check store address (UInt64.ofNat scalar.kind.size)
  return { store with memory := store.memory.write address scalar.encode }

/-- The low bits of the address as a scalar. -/
def addressScalar (view : View) (kind : ScalarKind) : Scalar :=
  Scalar.ofNat kind view.address.toNat

end Foreign.View
