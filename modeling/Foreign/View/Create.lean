import Foreign.View.Access
import Foreign.Text.Utf8

/-!
Allocating constructors. Each gives a view of a new block and the store that has it; what was in memory
before stays as it was.
-/

namespace Foreign.View

abbrev Allocated := Except AllocError (View × Store)

def fresh (store : Store) (size : Word) : Except AllocError (Buffer × Store) :=
  match store.allocate size with
  | some block => .ok block
  | none => .error (.outOfMemory size)

/-- Where an allocator finds room for a block, if it does. -/
abbrev Allocator := Store → Word → Option Word

/-- A view that owns a block of `size` bytes, for which the allocator is asked for `room`. -/
def owner (allocator : Allocator) (store : Store) (room size : Word) (element : CType) : Allocated :=
  match allocator store room with
  | some start =>
    let (extent, store) := store.place start size
    .ok (⟨extent.start, element, 0, .heap⟩, store)
  | none => .error (.outOfMemory size)

def malloc (allocator : Allocator) (store : Store) (size : Word) (element : CType) : Allocated :=
  owner allocator store (max 1 size) size element

/-- A view that owns an array of `count` times `size` bytes. What is asked for has an element at least, and
the element a byte. -/
def calloc (allocator : Allocator) (store : Store) (count size : Word) (element : CType) : Allocated :=
  match count.mul? size with
  | some total => owner allocator store (max 1 count * max 1 size) total element
  | none => .error (.overflow count size)

/-- A view of a buffer of `size` zero bytes. -/
def buffer (store : Store) (size : Word) (element : CType) : Allocated := do
  let (extent, store) ← fresh store size
  return (ofBuffer extent element, store)

/-- A struct instance with every byte zero. -/
def newStruct (store : Store) (layout : Layout) : Allocated :=
  buffer store layout.size (.struct layout)

/-- A view of a buffer that holds `bytes`. -/
def ofBytes (store : Store) (bytes : List UInt8) (element : CType) : Allocated := do
  let (view, store) ← buffer store (UInt64.ofNat bytes.length) element
  return (view, { store with memory := store.memory.write view.address bytes })

/-- A view of an array of scalars of one kind, given by their bits. -/
def ofScalars (store : Store) (kind : ScalarKind) (values : List (BitVec kind.width)) : Allocated :=
  if values.isEmpty then .error .zeroLength
  else ofBytes store (values.flatMap fun bits => Scalar.encode ⟨kind, bits⟩) kind.type

/-- A view of an array of the addresses of `views`, typed by the first of them. -/
def ofViews (store : Store) (views : List View) : Allocated :=
  match views with
  | [] => .error .zeroLength
  | first :: _ =>
    ofBytes store (views.flatMap fun view => LittleEndian.encode 8 view.address.toNat)
      (.pointer first.element)

/-- A view of the text's bytes with a zero byte after them. -/
def ofText (store : Store) (text : String) : Allocated :=
  ofBytes store (Utf8.encode text ++ [0]) (.int .w8 true)

end Foreign.View
