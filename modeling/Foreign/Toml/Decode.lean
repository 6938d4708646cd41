import Foreign.Toml.Document

/-!
Records, lists and choices in a TOML tree. A record is a table, or an array that gives its fields in
order; keys that it does not ask for are ignored. A choice among names is a string, or a table whose only
key has an empty value.
-/

namespace Foreign.Toml.Node

def string? : Node → Option String
  | .string text => some text
  | _ => none

def boolean? : Node → Option Bool
  | .boolean b => some b
  | _ => none

/-- An integer that is not negative. -/
def natural? : Node → Option Nat
  | .integer n => if 0 ≤ n then some n.toNat else none
  | _ => none

def list? : Node → Option (List Node)
  | .array items => some items
  | .tables items => some (items.map (.table .header))
  | _ => none

def isEmptyCollection : Node → Bool
  | .array items => items.isEmpty
  | .table _ entries => entries.isEmpty
  | .tables items => items.isEmpty
  | _ => false

/-- The name of a choice. -/
def choice? : Node → Option String
  | .string name => some name
  | .table _ [(name, value)] => if value.isEmptyCollection then some name else none
  | _ => none

/-- The fields of a record whose field names are `names`, in order. A date has none of them. -/
def record? (names : List String) : Node → Option Entries
  | .table _ entries => some entries
  | .dateTime => some []
  | node => node.list?.map names.zip

end Foreign.Toml.Node

namespace Foreign.Toml

/-- The value of a key, which must be there. -/
def Entries.required (entries : Entries) (key : String) (decode : Node → Option α) : Option α := do
  decode (← entries.lookup key)

/-- The value of a key, or `default` if it is not there. -/
def Entries.optional (entries : Entries) (key : String) (default : α) (decode : Node → Option α) :
    Option α :=
  match entries.lookup key with
  | some node => decode node
  | none => some default

end Foreign.Toml
