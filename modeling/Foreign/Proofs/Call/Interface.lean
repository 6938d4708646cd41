import Mathlib.Data.List.Nodup
import Foreign.Call.Machine
import Foreign.Proofs.Call.Registers
import Foreign.Proofs.Call.Survey

/-!
Interfaces and the cache that shares them. Preparing depends on nothing but the signature, apart from the
serial that a new interface gets. The cache keeps one interface for each signature and gives every new one
a serial of its own, so a signature that is found again comes to what preparing it would. Preparing fails
for what is wrong with the signature and for nothing else.
-/

namespace Foreign

/-- No parameter is void, and of the structs by value, at any depth, none is empty and none has more members
than can be listed; a pointer hides what it leads to. -/
structure Signature.WellFormed (signature : Signature) : Prop where
  complete : ∀ type ∈ signature.parameters, type ≠ .void
  passable : ∀ type ∈ signature.result :: signature.parameters, ∀ layout, type = .struct layout →
    ∀ inner : Layout, inner.Within layout → inner.Passable

/-- What a signature asks of the structs that it passes by value, parameter by parameter, those of the result
last. -/
def Signature.demands (signature : Signature) : List Demand :=
  (signature.parameters ++ [signature.result]).flatMap CType.demands

/-- `inner` lies in what the signature passes by value, at some depth. -/
def Signature.Passes (signature : Signature) (inner : Layout) : Prop :=
  ∃ type ∈ signature.parameters ++ [signature.result], ∃ layout, type = .struct layout ∧ inner.Within layout

/-- The signature passes a struct in which, at some depth, there is an empty one. -/
def Signature.PassesEmpty (signature : Signature) : Prop :=
  ∃ inner, signature.Passes inner ∧ inner.fields = []

/-- The signature passes a struct in which, at some depth, there is one with too many members. -/
def Signature.PassesCrowded (signature : Signature) : Prop :=
  ∃ inner, signature.Passes inner ∧ MachineType.memberLimit ≤ Layout.memberCount inner.fields

/-- What is wrong with a signature. A void parameter is a fault before any struct is; of the structs, the first
demand that is not met is at fault. -/
inductive Signature.Malformed (signature : Signature) : Fault → Prop
  | void {index : Nat} (parameter : signature.parameters[index]? = some .void)
      (first : ∀ earlier < index, signature.parameters[earlier]? ≠ some .void) :
      Malformed signature (.voidParameter index signature)
  | empty {before after : List Demand} {layout : Layout} (complete : .void ∉ signature.parameters)
      (met : signature.demands = before ++ .inhabited layout :: after)
      (first : ∀ earlier ∈ before, earlier.Met) (empty : layout.fields = []) :
      Malformed signature (.emptyStruct layout.name)
  | crowded {before after : List Demand} {members : Nat} (complete : .void ∉ signature.parameters)
      (met : signature.demands = before ++ .room members :: after)
      (first : ∀ earlier ∈ before, earlier.Met) (crowded : MachineType.memberLimit ≤ members) :
      Malformed signature .capacityOverflow

namespace Interface

variable {signature : Signature} {serial : Nat}

theorem voidParameter?_eq_none_iff :
    voidParameter? signature = none ↔ ∀ type ∈ signature.parameters, type ≠ .void := by
  rw [voidParameter?, List.findIdx?_eq_none_iff]
  simp only [← Bool.not_eq_true, CType.isVoid_iff, ne_eq]

theorem voidParameter?_eq_some_iff {index : Nat} :
    voidParameter? signature = some index ↔ signature.parameters[index]? = some .void ∧
      ∀ earlier < index, signature.parameters[earlier]? ≠ some .void := by
  rw [voidParameter?, List.findIdx?_eq_some_iff_getElem]
  simp only [CType.isVoid_iff, List.getElem?_eq_some_iff, ne_eq, not_exists]
  constructor
  · rintro ⟨bound, void, first⟩
    exact ⟨⟨bound, void⟩, fun earlier lt _ => first earlier lt⟩
  · rintro ⟨⟨bound, void⟩, first⟩
    exact ⟨bound, void, fun earlier lt => first earlier lt (Nat.lt_trans lt bound)⟩

/-- Where no parameter is void, preparing fails for the first demand that is not met, and for nothing else:
there are registers or a place on the stack for every argument. -/
theorem surveyed_prepare (complete : voidParameter? signature = none) :
    Surveyed signature.demands (prepare serial signature) := by
  obtain ⟨shapes, hshapes⟩ := Convention.platform.exists_shapes signature.parameters
  rw [prepare, complete, hshapes, Signature.demands, List.flatMap_append, List.flatMap_singleton,
    ← List.append_nil signature.result.demands]
  exact (Surveyed.mapM CType.surveyed signature.parameters).bind fun _ _ =>
    signature.result.surveyed.bind fun _ _ => .pure _

/-- Without a void parameter the first demand that is not met is what is wrong. -/
theorem malformed_iff_of_complete (complete : .void ∉ signature.parameters) {fault : Fault} :
    signature.Malformed fault ↔ firstFault? signature.demands = some fault := by
  rw [firstFault?_eq_some_iff]
  constructor
  · intro malformed
    cases malformed with
    | void void _ => exact absurd (List.mem_of_getElem? void) complete
    | empty _ met first empty => exact ⟨_, _, _, met, if_pos (List.isEmpty_iff.mpr empty), first⟩
    | crowded _ met first crowded => exact ⟨_, _, _, met, if_neg (Nat.not_lt.mpr crowded), first⟩
  · rintro ⟨before, demand, after, met, unmet, first⟩
    cases demand with
    | inhabited layout =>
        obtain ⟨empty, ⟨⟩⟩ := Option.ite_none_right_eq_some.mp unmet
        exact .empty complete met first (List.isEmpty_iff.mp empty)
    | room members =>
        obtain ⟨full, ⟨⟩⟩ := Option.ite_none_left_eq_some.mp unmet
        exact .crowded complete met first (Nat.not_lt.mp full)

theorem prepare_eq_error_iff {failure : Failure} :
    prepare serial signature = .error failure ↔
      ∃ fault, signature.Malformed fault ∧ failure = .fault fault := by
  cases parameter : voidParameter? signature with
  | some index =>
      obtain ⟨void, first⟩ := voidParameter?_eq_some_iff.mp parameter
      rw [prepare, parameter]
      constructor
      · rintro ⟨⟩
        exact ⟨_, .void void first, rfl⟩
      · rintro ⟨fault, malformed, rfl⟩
        cases malformed with
        | void void' first' =>
            have same := voidParameter?_eq_some_iff.mpr ⟨void', first'⟩
            rw [parameter, Option.some.injEq] at same
            rw [same]
        | empty complete _ _ _ => exact absurd (List.mem_of_getElem? void) complete
        | crowded complete _ _ _ => exact absurd (List.mem_of_getElem? void) complete
  | none =>
      have complete : .void ∉ signature.parameters :=
        fun mem => voidParameter?_eq_none_iff.mp parameter _ mem rfl
      simp only [(surveyed_prepare parameter).eq_error_iff, malformed_iff_of_complete complete]

theorem met_iff : (∀ demand ∈ signature.demands, demand.Met) ↔
    ∀ inner, signature.Passes inner → inner.Passable := by
  simp only [Signature.demands, List.mem_flatMap, Signature.Passes]
  constructor
  · rintro met inner ⟨type, mem, layout, struct, within⟩
    exact CType.met_iff.mp (fun demand asks => met demand ⟨type, mem, asks⟩) layout struct inner within
  · rintro passable demand ⟨type, mem, asks⟩
    exact CType.met_iff.mpr (fun layout struct inner within =>
      passable inner ⟨type, mem, layout, struct, within⟩) demand asks

/-- Nothing is wrong with a signature but a void parameter, an empty struct or one with too many members. -/
theorem exists_malformed_iff : (∃ fault, signature.Malformed fault) ↔
    .void ∈ signature.parameters ∨ signature.PassesEmpty ∨ signature.PassesCrowded := by
  by_cases void : .void ∈ signature.parameters
  · refine iff_of_true ?_ (.inl void)
    cases parameter : voidParameter? signature with
    | none => exact absurd rfl (voidParameter?_eq_none_iff.mp parameter _ void)
    | some index =>
        obtain ⟨void, first⟩ := voidParameter?_eq_some_iff.mp parameter
        exact ⟨_, .void void first⟩
  · simp only [malformed_iff_of_complete void, void, false_or, ← Option.isSome_iff_exists]
    rw [← not_iff_not, Option.not_isSome_iff_eq_none, firstFault?_eq_none_iff, met_iff]
    constructor
    · rintro passable (⟨inner, passes, empty⟩ | ⟨inner, passes, crowded⟩)
      · exact (passable inner passes).inhabited empty
      · exact absurd (passable inner passes).roomy (Nat.not_lt.mpr crowded)
    · intro sound inner passes
      exact ⟨fun empty => sound (.inl ⟨inner, passes, empty⟩),
        Nat.lt_of_not_le fun crowded => sound (.inr ⟨inner, passes, crowded⟩)⟩

theorem wellFormed_iff : signature.WellFormed ↔ ¬ ∃ fault, signature.Malformed fault := by
  rw [exists_malformed_iff]
  constructor
  · rintro ⟨complete, passable⟩ (void | ⟨inner, ⟨type, mem, layout, struct, within⟩, empty⟩ |
      ⟨inner, ⟨type, mem, layout, struct, within⟩, crowded⟩)
    · exact complete _ void rfl
    · have mem' := (List.perm_append_singleton _ _).mem_iff.mp mem
      exact (passable type mem' layout struct inner within).inhabited empty
    · have mem' := (List.perm_append_singleton _ _).mem_iff.mp mem
      exact Nat.not_lt.mpr crowded (passable type mem' layout struct inner within).roomy
  · intro sound
    refine ⟨fun type mem void => sound (.inl (void ▸ mem)), fun type mem layout struct inner within => ?_⟩
    have passes : signature.Passes inner :=
      ⟨type, (List.perm_append_singleton _ _).mem_iff.mpr mem, layout, struct, within⟩
    exact ⟨fun empty => sound (.inr (.inl ⟨inner, passes, empty⟩)),
      Nat.lt_of_not_le fun crowded => sound (.inr (.inr ⟨inner, passes, crowded⟩))⟩

theorem prepare_eq_ok_iff {interface : Interface} :
    prepare serial signature = .ok interface ↔
      voidParameter? signature = none ∧ ∃ arguments result shapes,
        signature.parameters.mapM CType.machineType = .ok arguments ∧
        signature.result.machineType = .ok result ∧
        Convention.platform.shapes signature.parameters = .ok shapes ∧
        interface = ⟨serial, signature, shapes, arguments, result⟩ := by
  rw [prepare]
  cases voidParameter? signature with
  | some index => simp
  | none =>
      simp only [Outcome.bind_eq_ok_iff, true_and, pure, Except.pure, Except.ok.injEq]
      constructor
      · rintro ⟨arguments, harguments, result, hresult, shapes, hshapes, rfl⟩
        exact ⟨arguments, result, shapes, harguments, hresult, hshapes, rfl⟩
      · rintro ⟨arguments, result, shapes, harguments, hresult, hshapes, rfl⟩
        exact ⟨arguments, harguments, result, hresult, shapes, hshapes, rfl⟩

theorem signature_of_prepare {interface : Interface}
    (prepared : prepare serial signature = .ok interface) : interface.signature = signature := by
  obtain ⟨-, _, _, _, -, -, -, rfl⟩ := prepare_eq_ok_iff.mp prepared
  rfl

/-- The interface whatever its serial. -/
def contents (interface : Interface) : Interface :=
  { interface with serial := 0 }

/-- The serial has no part in preparing. -/
theorem prepare_contents (serial : Nat) (signature : Signature) :
    (prepare serial signature).map contents = (prepare 0 signature).map contents := by
  rw [prepare, prepare]
  cases voidParameter? signature with
  | some index => rfl
  | none =>
      cases signature.parameters.mapM CType.machineType with
      | error failure => rfl
      | ok arguments =>
          cases signature.result.machineType with
          | error failure => rfl
          | ok result =>
              cases Convention.platform.shapes signature.parameters with
              | error failure => rfl
              | ok shapes => rfl

end Interface
namespace Interfaces

/-- What asking for an interface can come to. -/
inductive Built (interfaces : Interfaces) (signature : Signature) :
    Outcome (Interface × Interfaces) → Prop
  | kept {interface : Interface} (mem : interface ∈ interfaces)
      (same : interface.signature = signature) :
      Built interfaces signature (.ok (interface, interfaces))
  | new {interface : Interface} (absent : ∀ other ∈ interfaces, other.signature ≠ signature)
      (prepared : Interface.prepare interfaces.length signature = .ok interface) :
      Built interfaces signature (.ok (interface, interface :: interfaces))
  | failed {failure : Failure} (absent : ∀ other ∈ interfaces, other.signature ≠ signature)
      (failed : Interface.prepare interfaces.length signature = .error failure) :
      Built interfaces signature (.error failure)

theorem built (interfaces : Interfaces) (signature : Signature) :
    Built interfaces signature (interfaces.build signature) := by
  rw [build]
  split
  · rename_i interface found
    have same := List.find?_some found
    exact .kept (List.mem_of_find?_eq_some found) (of_decide_eq_true same)
  · rename_i found
    have absent : ∀ other ∈ interfaces, other.signature ≠ signature := by
      simpa [List.find?_eq_none] using found
    cases prepared : Interface.prepare interfaces.length signature with
    | ok interface => exact .new absent prepared
    | error failure => exact .failed absent prepared

/-- Each interface is what preparing its signature comes to, and has its signature and its serial to
itself. -/
structure Lawful (interfaces : Interfaces) : Prop where
  prepared : ∀ interface ∈ interfaces,
    Interface.prepare interface.serial interface.signature = .ok interface
  signatures : (interfaces.map (·.signature)).Nodup
  serials : (interfaces.map (·.serial)).Nodup
  below : ∀ interface ∈ interfaces, interface.serial < interfaces.length

theorem lawful_nil : Lawful [] :=
  ⟨by simp, .nil, .nil, by simp⟩

variable {interfaces next : Interfaces} {signature : Signature} {interface : Interface}

theorem signature_of_build (built : interfaces.build signature = .ok (interface, next)) :
    interface.signature = signature := by
  have outcome := interfaces.built signature
  rw [built] at outcome
  cases outcome with
  | kept _ same => exact same
  | new _ prepared => exact Interface.signature_of_prepare prepared

theorem Lawful.cons (lawful : interfaces.Lawful)
    (absent : ∀ other ∈ interfaces, other.signature ≠ signature)
    (prepared : Interface.prepare interfaces.length signature = .ok interface) :
    Lawful (interface :: interfaces) := by
  obtain ⟨-, _, _, _, -, -, -, rfl⟩ := Interface.prepare_eq_ok_iff.mp prepared
  refine ⟨List.forall_mem_cons.mpr ⟨prepared, lawful.prepared⟩, ?_, ?_, ?_⟩
  · refine List.nodup_cons.mpr ⟨?_, lawful.signatures⟩
    simpa [List.mem_map] using absent
  · refine List.nodup_cons.mpr ⟨?_, lawful.serials⟩
    rw [List.mem_map]
    rintro ⟨other, mem, hserial⟩
    exact absurd (lawful.below other mem) (Nat.not_lt_of_ge (Nat.le_of_eq hserial.symm))
  · refine List.forall_mem_cons.mpr ⟨Nat.lt_succ_self _, fun other mem => ?_⟩
    exact Nat.lt_succ_of_lt (lawful.below other mem)

/-- Asking for an interface puts the one that it gives into the cache, and takes none out of it. -/
theorem Lawful.build (lawful : interfaces.Lawful)
    (built : interfaces.build signature = .ok (interface, next)) :
    next.Lawful ∧ ∀ other, other ∈ next ↔ other = interface ∨ other ∈ interfaces := by
  have outcome := interfaces.built signature
  rw [built] at outcome
  cases outcome with
  | kept mem _ =>
      refine ⟨lawful, fun other => ⟨.inr, ?_⟩⟩
      rintro (rfl | earlier)
      · exact mem
      · exact earlier
  | new absent prepared => exact ⟨lawful.cons absent prepared, fun _ => List.mem_cons⟩

theorem Lawful.eq_of_signature (lawful : interfaces.Lawful) {other : Interface}
    (mem : interface ∈ interfaces) (mem' : other ∈ interfaces)
    (same : interface.signature = other.signature) : interface = other :=
  List.inj_on_of_nodup_map lawful.signatures mem mem' same

theorem Lawful.eq_of_serial (lawful : interfaces.Lawful) {other : Interface}
    (mem : interface ∈ interfaces) (mem' : other ∈ interfaces)
    (same : interface.serial = other.serial) : interface = other :=
  List.inj_on_of_nodup_map lawful.serials mem mem' same

theorem Lawful.find?_eq_some_iff (lawful : interfaces.Lawful) :
    interfaces.find? (·.signature = signature) = some interface ↔
      interface ∈ interfaces ∧ interface.signature = signature := by
  constructor
  · intro found
    have same := List.find?_some found
    exact ⟨List.mem_of_find?_eq_some found, of_decide_eq_true same⟩
  · rintro ⟨mem, rfl⟩
    cases found : interfaces.find? (·.signature = interface.signature) with
    | none => exact absurd (decide_eq_true rfl) (List.find?_eq_none.mp found interface mem)
    | some other =>
        have same := List.find?_some found
        rw [lawful.eq_of_signature (List.mem_of_find?_eq_some found) mem (of_decide_eq_true same)]

/-- A cache makes no difference to what comes of a signature. -/
theorem Lawful.build_contents (lawful : interfaces.Lawful) (signature : Signature) :
    (interfaces.build signature).map (·.1.contents) =
      (Interface.prepare 0 signature).map Interface.contents := by
  have outcome := interfaces.built signature
  generalize interfaces.build signature = built at outcome
  cases outcome with
  | kept mem same =>
      rw [← Interface.prepare_contents, ← same, lawful.prepared _ mem]
      rfl
  | new _ prepared | failed _ prepared =>
      rw [← Interface.prepare_contents, prepared]
      rfl

/-- Whatever the cache holds, there is something wrong with a signature that gets no interface. -/
theorem malformed_of_build {failure : Failure} (failed : interfaces.build signature = .error failure) :
    ∃ fault, signature.Malformed fault ∧ failure = .fault fault := by
  have outcome := interfaces.built signature
  rw [failed] at outcome
  cases outcome with
  | failed _ failed => exact Interface.prepare_eq_error_iff.mp failed

end Interfaces
namespace Machine

variable {machine prepared : Machine} {signature : Signature} {interface : Interface}

theorem interface_eq_ok_iff : machine.interface signature = .ok (interface, prepared) ↔
    ∃ interfaces, machine.interfaces.build signature = .ok (interface, interfaces) ∧
      prepared = { machine with interfaces } := by
  rw [Machine.interface, Outcome.bind_eq_ok_iff]
  constructor
  · rintro ⟨⟨found, interfaces⟩, built, heq⟩
    cases heq
    exact ⟨interfaces, built, rfl⟩
  · rintro ⟨interfaces, built, rfl⟩
    exact ⟨(interface, interfaces), built, rfl⟩

theorem interface_eq_error_iff {failure : Failure} :
    machine.interface signature = .error failure ↔ machine.interfaces.build signature = .error failure := by
  rw [Machine.interface, Outcome.bind_eq_error_iff]
  refine ⟨fun h => h.resolve_right ?_, .inl⟩
  rintro ⟨made, -, ⟨⟩⟩

/-- An interface, kept or new, is for the signature that was asked for, and getting it changes nothing
else. -/
theorem interface_eq_ok (built : machine.interface signature = .ok (interface, prepared)) :
    interface.signature = signature ∧ ∃ interfaces, prepared = { machine with interfaces } := by
  obtain ⟨interfaces, hbuild, rfl⟩ := interface_eq_ok_iff.mp built
  exact ⟨Interfaces.signature_of_build hbuild, interfaces, rfl⟩

end Machine
end Foreign
