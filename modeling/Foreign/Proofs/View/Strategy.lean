import Foreign.Proofs.View.Confinement
import Foreign.Proofs.View.Creation
import Foreign.Proofs.View.RoundTrip
import Foreign.Proofs.View.Tower

/-!
How views are accessed. The access of a view goes with its type, so it can be handed on from view to view and
never be found again: whatever is made of a view, and whatever is read, the access that was handed on is
the one that the type asks for, or that of a reference with a pointer in the type for each of its levels. An
access that is handed on says all there is to reading and writing, and the type never fails to have what the
access needs.
-/

namespace Foreign

namespace Access

/-- The access of a reference to what is accessed so. -/
def refer : Access → Access
  | .indirect levels => .indirect (if levels = 255 then 255 else levels + 1)
  | _ => .indirect 1

/-- The access of what a pointer leads to that is accessed so itself. -/
def lead (target : CType) : Access → Access
  | .indirect levels => if 1 < levels then .indirect (levels - 1) else target.access
  | _ => target.access

/-- Bytes between elements that are accessed so. -/
def step (element : CType) : Access → Word
  | .void => 1
  | .indirect _ => 8
  | _ => element.stride

end Access

namespace View

/-- Views with the access that is handed on to them. -/
inductive Handed : View → Access → Prop
  | created {view : View} (created : Created view) : Handed view view.element.access
  | offset {view : View} {access : Access} (n : Int64) (handed : Handed view access) :
      Handed (view.offset n) access
  | cast {view : View} {access : Access} (type : CType) (handed : Handed view access) :
      Handed (view.cast type) type.access
  | reference {view : View} {access : Access} (handed : Handed view access) :
      Handed view.reference access.refer
  | borrow {view : View} {access : Access} (handed : Handed view access) : Handed view.borrow access
  | field {view next : View} {access : Access} {name : String} (handed : Handed view access)
      (found : view.field name = .ok next) : Handed next next.element.access
  | element {view next : View} {access : Access} {store : Store} {index : Word}
      (handed : Handed view access) (read : view.read store index = .ok (.struct next)) :
      Handed next next.element.access
  | target {view next : View} {access : Access} {store : Store} {index : Word}
      (handed : Handed view access) (read : view.read store index = .ok (.pointer next)) :
      Handed next (access.lead next.element)

/-- The value at `address` as the access alone has it. There is none if the type has not the pointee that is
asked for. -/
def valueBy (view : View) (memory : Memory) (address : Word) : Access → Option Value
  | .void => some .void
  | .scalar kind => some (.scalar (.decode kind (memory.read address kind.size)))
  | .long true => some (.scalar (.decode .i64 (memory.read address 8)))
  | .long false => some (.scalar (.decode .u64 (memory.read address 8)))
  | .pointer =>
    view.element.pointee?.map fun pointee =>
      .pointer (.wrap (UInt64.ofNat (LittleEndian.decode (memory.read address 8))) pointee)
  | .struct => some (.struct (view.derive address view.element))
  | .indirect _ => none

/-- Reading by the access alone. -/
def readBy (view : View) (access : Access) (store : Store) (index : Word) : Option (Outcome Value) :=
  let address := view.address + index * access.step view.element
  match access with
  | .indirect levels =>
    view.element.pointee?.map fun pointee =>
      .ok (.pointer ⟨address, pointee, levels - 1, view.backing.share⟩)
  | access =>
    match view.check store address view.element.size with
    | .ok () => (view.valueBy store.memory address access).map .ok
    | .error failure => some (.error failure)

/-- Putting a value that fits at `address`. There is no outcome where a void value would be put. -/
def putBy (view : View) (store : Store) (address : Word) (value : Value) : Option (Outcome Store) :=
  match value with
  | .void => none
  | value => some do
    let size := view.element.size
    view.ensureExtent address size
    ensureSourceExtent size value
    view.ensureLive store address size
    ensureSourceLive store size value
    return { store with memory := store.memory.write address (payload store size.toNat value) }

/-- Writing by the access alone. -/
def writeBy (view : View) (access : Access) (store : Store) (index : Word) (value : Value) :
    Option (Outcome Store) :=
  match access with
  | .indirect _ => some (.error (.value .readOnlyIndirection))
  | .void => some (.error (.value (.typeMismatch view.element value.kindName)))
  | access =>
    if value.fits view.element then
      view.putBy store (view.address + index * access.step view.element) value
    else some (.error (.value (.typeMismatch view.element value.kindName)))

/-- Why a view has no field of a name. -/
inductive Lacks (view : View) (name : String) : ValueError → Prop
  | notAStruct (plain : view.element.IsPlain) : Lacks view name (.notAStruct view.element)
  | unknownField {layout : Layout} (declared : view.element = .struct layout)
      (unknown : ∀ field ∈ layout.fields, field.name ≠ name) :
      Lacks view name (.unknownField layout.name name)

/-- What is known of a view and the access that was handed on to it. Neither reading nor writing comes to where
there is no outcome. -/
structure Coherent (view : View) (access : Access) : Prop where
  own : access = view.access
  resolved : access = view.element.access ∨
    ∃ levels, access = .indirect levels ∧ 1 ≤ levels.toNat ∧ levels.toNat ≤ view.element.depth
  reads : ∀ store index, view.readBy access store index = some (view.read store index)
  writes : ∀ store index value,
    view.writeBy access store index value = some (view.write store index value)
  fits : ∀ store index value, view.read store index = .ok value → value.fits view.element = true
  fields : ∀ name cause, view.field name = .error (.value cause) ↔ view.Lacks name cause

/-- The type of the view has a pointer for each reference that is counted. -/
def Deep (view : View) : Prop :=
  view.levels.toNat ≤ view.element.depth

variable {view next : View} {access : Access} {store : Store} {index : Word} {value : Value}

theorem access_of_direct (direct : view.levels = 0) : view.access = view.element.access := by
  rw [View.access, if_pos direct]

theorem access_of_reference (reference : view.levels ≠ 0) : view.access = .indirect view.levels := by
  rw [View.access, if_neg reference]

theorem refer_of_type (type : CType) : type.access.refer = .indirect 1 := by
  cases type with
  | int width signed => cases width <;> cases signed <;> rfl
  | void | float | double | pointer _ | struct _ => rfl

theorem lead_of_type (type target : CType) : type.access.lead target = target.access := by
  cases type with
  | int width signed => cases width <;> cases signed <;> rfl
  | void | float | double | pointer _ | struct _ => rfl

theorem levels_reference_ne_zero (view : View) : view.reference.levels ≠ 0 := by
  intro none
  have hlevels := view.toNat_levels_reference
  rw [none] at hlevels
  change 0 = _ at hlevels
  omega

theorem access_reference (view : View) : view.reference.access = view.access.refer := by
  rw [access_of_reference view.levels_reference_ne_zero]
  by_cases direct : view.levels = 0
  · rw [access_of_direct direct, refer_of_type]
    simp [reference, direct]
  · rw [access_of_reference direct]
    rfl

/-- The last level that is taken off leaves the access that the type asks for. -/
theorem access_dereference (reference : view.levels ≠ 0) (address : Word) :
    (view.dereference address).access = view.access.lead (view.dereference address).element := by
  have hlevels : (view.dereference address).levels.toNat = view.levels.toNat - 1 :=
    toNat_levels_under reference
  rw [access_of_reference reference, Access.lead]
  split
  · rename_i more
    have hmore : 1 < view.levels.toNat := more
    have rest : (view.dereference address).levels ≠ 0 := by
      intro none
      rw [none] at hlevels
      change 0 = _ at hlevels
      omega
    exact access_of_reference rest
  · rename_i last
    have hlast : ¬ 1 < view.levels.toNat := last
    have direct : (view.dereference address).levels = 0 := by
      apply UInt8.toNat_inj.mp
      rw [hlevels]
      change _ = 0
      omega
    exact access_of_direct direct

theorem access_derive (view : View) (address : Word) (type : CType) :
    (view.derive address type).access = type.access :=
  access_of_direct rfl

theorem deep_of_direct (direct : view.levels = 0) : view.Deep := by
  rw [Deep, direct]
  exact Nat.zero_le _

theorem Deep.exists_pointee (deep : view.Deep) (reference : view.levels ≠ 0) :
    ∃ pointee, view.element = .pointer pointee := by
  have hpos : view.levels.toNat ≠ 0 := fun h => reference (UInt8.toNat_inj.mp h)
  rw [Deep] at deep
  cases declared : view.element with
  | pointer pointee => exact ⟨pointee, rfl⟩
  | void | float | double | int _ _ | struct _ =>
      rw [declared, CType.depth] at deep
      · omega
      · exact nofun

theorem Deep.reference (deep : view.Deep) : view.reference.Deep := by
  rw [Deep] at deep ⊢
  have hdepth : view.reference.element.depth = view.element.depth + 1 := rfl
  rw [hdepth, toNat_levels_reference]
  omega

theorem Deep.dereference (deep : view.Deep) (reference : view.levels ≠ 0) (address : Word) :
    (view.dereference address).Deep := by
  obtain ⟨pointee, declared⟩ := deep.exists_pointee reference
  have hlevels : (view.dereference address).levels.toNat = view.levels.toNat - 1 :=
    toNat_levels_under reference
  have hdepth : (view.dereference address).element.depth + 1 = view.element.depth := by
    rw [View.dereference, declared]
    rfl
  rw [Deep] at deep ⊢
  omega

/-- What is made of a view, and what is read, has the access that is handed on, and a pointer for each of its
references. -/
theorem Handed.settled (handed : Handed view access) : access = view.access ∧ view.Deep := by
  induction handed with
  | created created =>
      have direct := created.fresh.direct
      exact ⟨(access_of_direct direct).symm, deep_of_direct direct⟩
  | offset n _ ih | borrow _ ih => exact ih
  | @cast view _ type _ _ => exact ⟨(view.access_derive _ _).symm, deep_of_direct rfl⟩
  | @reference view _ _ ih =>
      obtain ⟨rfl, deep⟩ := ih
      exact ⟨view.access_reference.symm, deep.reference⟩
  | @field view _ _ _ _ found _ =>
      obtain ⟨address, type, rfl⟩ := derive_of_field found
      exact ⟨(view.access_derive _ _).symm, deep_of_direct rfl⟩
  | @element view _ _ _ _ _ read _ =>
      obtain ⟨address, type, rfl⟩ := derive_of_read_struct read
      exact ⟨(view.access_derive _ _).symm, deep_of_direct rfl⟩
  | @target view next _ _ _ _ read ih =>
      obtain ⟨rfl, deep⟩ := ih
      obtain ⟨reference, heq⟩ | ⟨direct, -, heq⟩ := read_eq_ok_iff.mp read
      · cases heq
        exact ⟨(access_dereference reference _).symm, deep.dereference reference _⟩
      · obtain ⟨pointee, -, rfl⟩ := valueAt_eq_pointer_iff.mp heq.symm
        rw [access_of_direct direct, lead_of_type]
        exact ⟨(access_of_direct rfl).symm, deep_of_direct rfl⟩

theorem step_eq_step_access (view : View) : view.step = view.access.step view.element := by
  unfold View.step Access.step
  cases view.access <;> rfl

theorem valueBy_access (view : View) (memory : Memory) (address : Word) :
    view.valueBy memory address view.element.access = some (view.valueAt memory address) := by
  rw [valueAt]
  cases declared : view.element with
  | int width signed => cases width <;> cases signed <;> rfl
  | void | float | double => rfl
  | pointer pointee => simp only [CType.access, valueBy, declared]; rfl
  | struct layout => simp only [CType.access, valueBy, declared]

theorem elementAddress_eq (view : View) (index : Word) :
    view.elementAddress index = view.address + index * view.access.step view.element := by
  rw [elementAddress, step_eq_step_access]

theorem readBy_of_type (type : CType) :
    view.readBy type.access store index =
      match view.check store (view.address + index * type.access.step view.element)
        view.element.size with
      | .ok () =>
        (view.valueBy store.memory (view.address + index * type.access.step view.element)
          type.access).map .ok
      | .error failure => some (.error failure) := by
  cases type with
  | int width signed => cases width <;> cases signed <;> rfl
  | void | float | double | pointer _ | struct _ => rfl

theorem readBy_access (deep : view.Deep) (store : Store) (index : Word) :
    view.readBy view.access store index = some (view.read store index) := by
  by_cases direct : view.levels = 0
  · rw [read_of_direct direct, elementAddress_eq, access_of_direct direct, readBy_of_type]
    cases view.check store _ view.element.size with
    | error failure => rfl
    | ok passed =>
        rw [valueBy_access]
        rfl
  · obtain ⟨pointee, declared⟩ := deep.exists_pointee direct
    rw [read_of_reference direct, elementAddress_eq, access_of_reference direct, readBy]
    simp only [declared, CType.pointee?, Option.map_some, dereference, Option.getD_some]
    rfl

theorem putBy_of_fits (complete : view.element ≠ .void) (fits : value.fits view.element = true)
    (direct : view.levels = 0) (store : Store) (index : Word) :
    view.putBy store (view.elementAddress index) value = some (view.write store index value) := by
  rw [write_of_fits direct complete fits]
  cases value with
  | scalar _ | pointer _ | struct _ => rfl
  | void =>
      -- only `void` takes a void value
      generalize view.element = type at complete fits
      cases Value.fits_iff.mp fits
      exact absurd rfl complete

theorem writeBy_of_type {type : CType} (complete : type ≠ .void) :
    view.writeBy type.access store index value =
      if value.fits view.element then
        view.putBy store (view.address + index * type.access.step view.element) value
      else some (.error (.value (.typeMismatch view.element value.kindName))) := by
  cases type with
  | void => exact absurd rfl complete
  | int width signed => cases width <;> cases signed <;> rfl
  | float | double | pointer _ | struct _ => rfl

theorem writeBy_access (store : Store) (index : Word) (value : Value) :
    view.writeBy view.access store index value = some (view.write store index value) := by
  by_cases direct : view.levels = 0
  · by_cases complete : view.element ≠ .void
    · rw [access_of_direct direct, writeBy_of_type complete, ← access_of_direct direct,
        ← elementAddress_eq]
      split
      · exact putBy_of_fits complete ‹_› direct store index
      · rw [write_of_unfit direct fun fits => absurd fits.2 ‹_›]
    · have void : view.element = .void := not_not.mp complete
      have haccess : view.access = .void := by rw [access_of_direct direct, void]; rfl
      rw [write_of_unfit direct fun fits => complete fits.1, haccess]
      rfl
  · rw [access_of_reference direct, write_of_reference direct]
    rfl

theorem fits_of_read (deep : view.Deep) (read : view.read store index = .ok value) :
    value.fits view.element = true := by
  obtain ⟨reference, rfl⟩ | ⟨-, -, rfl⟩ := read_eq_ok_iff.mp read
  · obtain ⟨pointee, declared⟩ := deep.exists_pointee reference
    rw [declared]
    rfl
  · by_cases void : view.element = .void
    · rw [valueAt, void]
      rfl
    · exact Value.fits_iff.mpr (fits_valueAt void _ _)

theorem Deep.direct_of_flat (deep : view.Deep) (flat : view.element.depth = 0) : view.levels = 0 := by
  rw [Deep, flat] at deep
  exact UInt8.toNat_inj.mp (Nat.le_zero.mp deep)

theorem field_of_struct {layout : Layout} (deep : view.Deep) (declared : view.element = .struct layout)
    (name : String) :
    view.field name = match layout.fields.find? (·.name == name) with
      | some field => do
        let address ← Outcome.sum view.address field.offset
        return view.derive address field.type
      | none => .error (.value (.unknownField layout.name name)) := by
  have direct := deep.direct_of_flat (by rw [declared]; rfl)
  rw [View.field, access_of_direct direct, declared]
  rfl

theorem field_of_plain (plain : view.element.IsPlain) (name : String) :
    view.field name = .error (.value (.notAStruct view.element)) := by
  rw [View.field]
  split
  · rename_i layout _ declared
    exact absurd declared (plain layout)
  · rfl

theorem lacks_iff_of_struct {layout : Layout} (declared : view.element = .struct layout) {name : String}
    {cause : ValueError} :
    view.Lacks name cause ↔
      cause = .unknownField layout.name name ∧ ∀ field ∈ layout.fields, field.name ≠ name := by
  constructor
  · intro lacks
    cases lacks with
    | notAStruct plain => exact absurd declared (plain layout)
    | unknownField other unknown =>
        cases declared.symm.trans other
        exact ⟨rfl, unknown⟩
  · rintro ⟨rfl, unknown⟩
    exact .unknownField declared unknown

theorem lacks_iff_of_plain (plain : view.element.IsPlain) {name : String} {cause : ValueError} :
    view.Lacks name cause ↔ cause = .notAStruct view.element := by
  constructor
  · intro lacks
    cases lacks with
    | notAStruct _ => rfl
    | unknownField declared _ => exact absurd declared (plain _)
  · rintro rfl
    exact .notAStruct plain

theorem field_eq_error_iff (deep : view.Deep) {name : String} {cause : ValueError} :
    view.field name = .error (.value cause) ↔ view.Lacks name cause := by
  by_cases struct : ∃ layout, view.element = .struct layout
  · obtain ⟨layout, declared⟩ := struct
    rw [field_of_struct deep declared, lacks_iff_of_struct declared]
    cases found : layout.fields.find? (·.name == name) with
    | none =>
        have unknown : ∀ field ∈ layout.fields, field.name ≠ name := by
          simpa using List.find?_eq_none.mp found
        constructor
        · rintro ⟨⟩
          exact ⟨rfl, unknown⟩
        · rintro ⟨rfl, -⟩
          rfl
    | some field =>
        have known : field.name = name := by simpa using List.find?_some found
        constructor
        · intro failed
          -- the place of a field can only overflow, which is a fault
          obtain overflow | ⟨address, -, derived⟩ := Outcome.bind_eq_error_iff.mp failed
          · cases (Outcome.sum_eq_error_iff.mp overflow).2
          · cases derived
        · rintro ⟨-, unknown⟩
          exact absurd known (unknown field (List.mem_of_find?_eq_some found))
  · have plain : view.element.IsPlain := not_exists.mp struct
    rw [field_of_plain plain, lacks_iff_of_plain plain]
    simp only [Except.error.injEq, Failure.value.injEq, eq_comm]

/-- However a view came about, the access that was handed on to it is the one its type asks for, or that of no
more references than the type has pointers. It decides every reading and writing, what is read fits the type,
and the fields of the view are those of its struct. -/
theorem coherent_of_handed (handed : Handed view access) : view.Coherent access := by
  obtain ⟨rfl, deep⟩ := handed.settled
  refine ⟨rfl, ?_, readBy_access deep, writeBy_access, fun _ _ _ => fits_of_read deep,
    fun _ _ => field_eq_error_iff deep⟩
  by_cases direct : view.levels = 0
  · exact .inl (access_of_direct direct)
  · have hpos : view.levels.toNat ≠ 0 := fun h => direct (UInt8.toNat_inj.mp h)
    exact .inr ⟨view.levels, access_of_reference direct, Nat.one_le_iff_ne_zero.mpr hpos, deep⟩

/-- The reference that a reference of a reference reads as. -/
theorem coherent_of_handed_reference :
    let number := ofBuffer ⟨4096, 8⟩ (.int .w32 true)
    number.reference.reference.read .empty 0 = .ok (.pointer number.reference) ∧
      number.reference.Coherent (.indirect 1) := by
  intro number
  have ends : Buffer.Ends ⟨4096, 8⟩ := by decide
  have handed : Handed number (.scalar .i32) := .created (.ofBuffer _ ends)
  have again : number.reference.reference.under = number.reference :=
    (under_reference _ (by decide)).trans number.borrow_reference
  have read : number.reference.reference.read .empty 0 = .ok (.pointer number.reference) := by
    rw [read_of_reference (levels_reference_ne_zero _), elementAddress_zero]
    exact congrArg (Except.ok ∘ Value.pointer) again
  exact ⟨read, coherent_of_handed (.target handed.reference.reference read)⟩

end View
end Foreign
