import Foreign.FileTree
import Foreign.Layout.Description
import Foreign.Toml.Decode

/-!
Struct descriptions from TOML: a list `struct` of records with a name and a list `field`.
-/

namespace Foreign

open Toml (Node)

def TypeName.ofNode? (node : Node) : Option TypeName := do
  ofSpelling? (← node.choice?)

def FieldDescription.ofNode? (node : Node) : Option FieldDescription := do
  let entries ← node.record? ["name", "type", "pointer", "target", "cardinality"]
  let name ← entries.required "name" Node.string?
  let type ← entries.required "type" TypeName.ofNode?
  let pointers ← entries.optional "pointer" 0 Node.natural?
  let target ← entries.optional "target" none fun node => some <$> node.string?
  let count ← entries.optional "cardinality" 1 Node.natural?
  return ⟨name, type, pointers, target, UInt64.ofNat count⟩

def StructDescription.ofNode? (node : Node) : Option StructDescription := do
  let entries ← node.record? ["name", "field"]
  let name ← entries.required "name" Node.string?
  let fields ← entries.optional "field" [] fun node => do
    (← node.list?).mapM FieldDescription.ofNode?
  return ⟨name, fields⟩

def DescriptionSet.ofNode? (node : Node) : Option DescriptionSet := do
  let entries ← node.record? ["struct"]
  let structs ← entries.optional "struct" [] fun node => do
    (← node.list?).mapM StructDescription.ofNode?
  return ⟨structs⟩

def DescriptionSet.ofText (text : String) : Outcome DescriptionSet :=
  match Node.ofText? text >>= DescriptionSet.ofNode? with
  | some set => .ok set
  | none => .error (.layout .unreadable)

def DescriptionSet.load (tree : FileTree) (directory : Place) (path : String) : Outcome DescriptionSet :=
  match tree.readText? directory path with
  | some text => ofText text
  | none => .error (.layout .unreadable)

end Foreign
