import Foreign.CType.Expression
import Foreign.Library.Linker

/-!
What a session can be asked to do. Views, functions and libraries are referred to by name, types by type
expressions, and values by expressions over both. What a step makes is kept under a name if one is given.
-/

namespace Foreign

inductive ValueExpr where
  | void
  | scalar (s : Scalar)
  | pointer (view : String)
  | struct (view : String)
  | null (pointee : TypeExpr)
  | function (name : String)

/-- What a callback gives back. -/
inductive BodyExpr where
  | constant (value : ValueExpr)
  | argument (index : Nat)
  /-- The sum of the arguments that are numbers of the scalar's sort, integer or floating-point. -/
  | sum (kind : ScalarKind)
  /-- A field of the struct that an argument is. -/
  | field (index : Nat) (name : String)
  | call (function : String)

/-- An allocation to make. -/
inductive Source where
  | buffer (size : Word) (element : TypeExpr)
  | bytes (bytes : List UInt8) (element : TypeExpr)
  | malloc (size : Word) (element : TypeExpr)
  | calloc (count size : Word) (element : TypeExpr)
  | struct (type : TypeExpr)
  | scalars (kind : ScalarKind) (values : List (BitVec kind.width))
  | pointers (views : List String)
  | text (text : String)

/-- A view to make without allocating. -/
inductive Derivation where
  | wrap (element : TypeExpr) (address : Word)
  /-- A borrowed view at a distance from another one. -/
  | near (element : TypeExpr) (view : String) (distance : Word)
  | null (element : TypeExpr)
  | offset (view : String) (n : Int64)
  | cast (view : String) (element : TypeExpr)
  | reference (view : String) (times : Nat)
  | field (view field : String)
  | borrow (view : String)

structure DeclarationExpr where
  symbol : String
  parameters : List TypeExpr
  result : TypeExpr

inductive Step where
  | create (name : Option String) (source : Source)
  | derive (name : Option String) (derivation : Derivation)
  /-- Whether a buffer of some size holds a range that begins at a distance from its start. -/
  | contains (size distance count : Word)
  | drop (view : String)
  | leak (view : String)
  | info (view : String)
  /-- Read an element and keep a pointer or struct as a view. -/
  | read (view : String) (index : Word) (name : Option String)
  | write (view : String) (index : Word) (value : ValueExpr)
  | readScalar (view : String) (kind : ScalarKind) (index : Word)
  | writeScalar (view : String) (index : Word) (scalar : Scalar)
  | readText (view : String)
  | addressScalar (view : String) (kind : ScalarKind)
  /-- The bytes of the allocation that a view was reached from. -/
  | bytes (view : String)
  | compare (view other : String)
  | inspect (value : ValueExpr) (types : List TypeExpr) (other : Option ValueExpr)
  | callback (name : Option String) (parameters : List TypeExpr) (result : TypeExpr) (body : BodyExpr)
  /-- A function pointer to the code of another function, or to nothing. -/
  | function (name : Option String) (parameters : List TypeExpr) (result : TypeExpr)
    (code : Option String)
  | rewrap (name : Option String) (function : String) (parameters : List TypeExpr) (result : TypeExpr)
  /-- Call a function, or the one that was bound to a symbol. -/
  | call (function : String) (arguments : List ValueExpr) (bound : Bool) (name : Option String)
  | openProgram (name : Option String)
  | openLibrary (name : Option String) (path : String) (searchPaths : Option (List String))
  | symbol (library symbol : String)
  | bind (library : String) (declarations : List DeclarationExpr) (linker : Linker)
  | bindAvailable (library : String) (declarations : List DeclarationExpr)
  | link (path : String) (declarations : List DeclarationExpr) (linker : Linker)

end Foreign
