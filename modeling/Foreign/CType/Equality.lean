import Foreign.CType.Basic

/-!
Types compare by structure: two struct types are equal when their names, fields, sizes and alignments
are. `long` and the 64-bit integer are different types of one size.
-/

namespace Foreign

mutual

def CType.same : CType → CType → Bool
  | .void, .void => true
  | .int width signed, .int width' signed' => width == width' && signed == signed'
  | .float, .float => true
  | .double, .double => true
  | .pointer pointee, .pointer pointee' => pointee.same pointee'
  | .struct layout, .struct layout' => layout.same layout'
  | _, _ => false

def Layout.same : Layout → Layout → Bool
  | ⟨name, fields, size, align⟩, ⟨name', fields', size', align'⟩ =>
    name == name' && sameFields fields fields' && size == size' && align == align'

def Field.same : Field → Field → Bool
  | ⟨name, type, count, offset⟩, ⟨name', type', count', offset'⟩ =>
    name == name' && type.same type' && count == count' && offset == offset'

def sameFields : List Field → List Field → Bool
  | [], [] => true
  | field :: rest, field' :: rest' => field.same field' && sameFields rest rest'
  | _, _ => false

end

mutual

theorem CType.same_iff : (a b : CType) → (a.same b = true ↔ a = b)
  | .void, b => by cases b <;> simp [CType.same]
  | .int _ _, b => by cases b <;> simp [CType.same]
  | .float, b => by cases b <;> simp [CType.same]
  | .double, b => by cases b <;> simp [CType.same]
  | .pointer pointee, b => by
    cases b with
    | pointer pointee' => simp [CType.same, CType.same_iff pointee pointee']
    | _ => simp [CType.same]
  | .struct layout, b => by
    cases b with
    | struct layout' => simp [CType.same, Layout.same_iff layout layout']
    | _ => simp [CType.same]

theorem Layout.same_iff : (a b : Layout) → (a.same b = true ↔ a = b)
  | ⟨_, fields, _, _⟩, ⟨_, fields', _, _⟩ => by
    simp [Layout.same, sameFields_iff fields fields', and_assoc]

theorem Field.same_iff : (a b : Field) → (a.same b = true ↔ a = b)
  | ⟨_, type, _, _⟩, ⟨_, type', _, _⟩ => by
    simp [Field.same, CType.same_iff type type', and_assoc]

theorem sameFields_iff : (a b : List Field) → (sameFields a b = true ↔ a = b)
  | [], b => by cases b <;> simp [sameFields]
  | field :: rest, b => by
    cases b with
    | nil => simp [sameFields]
    | cons field' rest' =>
      simp [sameFields, Field.same_iff field field', sameFields_iff rest rest']

end

instance : DecidableEq CType := fun a b => decidable_of_iff _ (CType.same_iff a b)

instance : DecidableEq Layout := fun a b => decidable_of_iff _ (Layout.same_iff a b)

instance : DecidableEq Field := fun a b => decidable_of_iff _ (Field.same_iff a b)

end Foreign
