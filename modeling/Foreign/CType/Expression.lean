import Foreign.Layout.Registry
import Foreign.Scalar

/-!
Types as they are written down: by name, as pointers, or as structs with their fields. The meaning of an
expression is a type, found in a scope of named types and a registry of layouts; every struct on the way
is placed afresh.
-/

namespace Foreign

inductive TypeExpr where
  | named (name : String)
  | pointer (pointee : TypeExpr)
  | pointers (type : TypeExpr) (depth : Nat)
  | struct (name : String) (fields : List (String × TypeExpr × Word))
  /-- The struct type with the layout registered under a name. -/
  | registered (name : String)

namespace TypeExpr

abbrev Scope := List (String × CType)

/-- The names that every scope has. -/
def builtin? : String → Option CType
  | "void" => some .void
  | "void*" => some .voidPointer
  | "long" => some (.int .long true)
  | "ulong" => some (.int .long false)
  | name => (ScalarKind.ofName? name).map ScalarKind.type

/-- A name that stands for nothing. -/
inductive Unknown where
  | type (name : String)
  | registered (name : String)
  deriving DecidableEq, Repr

/-- The meaning of an expression: a type, the failure of placing a struct, or an unknown name. -/
abbrev Meaning := ExceptT Unknown TracedOutcome

mutual

def elaborate (scope : Scope) (registry : Registry) : TypeExpr → Meaning CType
  | named name =>
    match builtin? name <|> scope.lookup name with
    | some type => pure type
    | none => throw (.type name)
  | pointer pointee => do
    let type ← elaborate scope registry pointee
    return .pointer type
  | pointers type depth => do
    let type ← elaborate scope registry type
    return type.pointers depth
  | struct name fields => do
    let specs ← elaborateFields scope registry fields
    let layout ← liftM (Layout.report name specs)
    return .struct layout
  | registered name =>
    match registry.get? name with
    | some layout => pure (.struct layout)
    | none => throw (.registered name)

def elaborateFields (scope : Scope) (registry : Registry) :
    List (String × TypeExpr × Word) → Meaning (List FieldSpec)
  | [] => pure []
  | (name, type, count) :: rest => do
    let type ← elaborate scope registry type
    let specs ← elaborateFields scope registry rest
    return ⟨name, type, count⟩ :: specs

end

def elaborateAll (scope : Scope) (registry : Registry) (exprs : List TypeExpr) : Meaning (List CType) :=
  exprs.mapM (elaborate scope registry)

/-- Name the meanings of expressions, each of which may use the names before it. -/
def extend (scope : Scope) : List (String × TypeExpr) → Meaning Scope
  | [] => pure scope
  | (name, expr) :: rest => do
    let type ← elaborate scope .empty expr
    extend ((name, type) :: scope) rest

end TypeExpr
end Foreign
