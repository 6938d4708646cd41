import Foreign.Proofs.Call.Delivery
import Foreign.Proofs.Call.Survey
import Foreign.Proofs.Layout.Leaf

/-!
Structs as the machine sees them. Placement counts an array as one step of its whole size; the machine's
rule takes the elements of an array one by one, rounds before each of them and knows nothing of the sizes
that a layout has stored. Both come to the same offsets, size and alignment, at every depth of nesting, so
that a struct passed by value is moved with exactly the bytes of its buffer.
-/

namespace Foreign

namespace Exact

/-- A part behind what is there: from the running size on, rounded up to the alignment of the part. -/
def join (running part : Exact) : Exact :=
  ⟨alignUp running.size part.align + part.size, max running.align part.align⟩

/-- Parts in order, with the size rounded up to the strictest alignment at the end. -/
def aggregate (parts : List Exact) : Exact :=
  let whole := parts.foldl join ⟨0, 0⟩
  ⟨alignUp whole.size whole.align, whole.align⟩

def starts (running : Exact) : List Exact → List Nat
  | [] => []
  | part :: rest => alignUp running.size part.align :: starts (running.join part) rest

theorem starts_append (running : Exact) (front rest : List Exact) :
    starts running (front ++ rest) = starts running front ++ starts (front.foldl join running) rest := by
  induction front generalizing running with
  | nil => rfl
  | cons part front ih => rw [List.cons_append, starts, starts, ih, List.foldl_cons, List.cons_append]

section

variable {part : Exact} (pos : 0 < part.align) (multiple : part.align ∣ part.size)
include pos multiple

/-- Behind one element of an array nothing has to be rounded for the next. -/
theorem alignUp_join (running : Exact) :
    alignUp (running.join part).size part.align = (running.join part).size :=
  alignUp_of_dvd pos (Nat.dvd_add (dvd_alignUp _ _) multiple)

theorem foldl_replicate (running : Exact) (count : Nat) :
    (List.replicate (count + 1) part).foldl join running =
      ⟨alignUp running.size part.align + part.size * (count + 1), max running.align part.align⟩ := by
  induction count generalizing running with
  | zero => rw [Nat.zero_add, Nat.mul_one]; rfl
  | succ count ih =>
      rw [List.replicate_succ, List.foldl_cons, ih, alignUp_join pos multiple, join, Nat.max_assoc,
        Nat.max_self, Nat.mul_add part.size (count + 1), Nat.mul_one, Nat.add_assoc,
        Nat.add_comm part.size]

theorem starts_replicate (running : Exact) (count : Nat) :
    starts running (List.replicate count part) =
      (List.range count).map fun k => alignUp running.size part.align + k * part.size := by
  induction count generalizing running with
  | zero => rfl
  | succ count ih =>
      rw [List.replicate_succ, starts, ih, alignUp_join pos multiple, List.range_succ_eq_map,
        List.map_cons, List.map_map, Nat.zero_mul, Nat.add_zero, List.cons.injEq]
      refine ⟨rfl, List.map_congr_left fun k _ => ?_⟩
      rw [join, Function.comp_apply, Nat.add_assoc, Nat.succ_mul, Nat.add_comm part.size]

end
end Exact

mutual

/-- Size and alignment of a type by the machine's rule for aggregates. The machine gives void a byte. -/
def MachineType.extent : MachineType → Exact
  | .void => ⟨1, 1⟩
  | .word size align => ⟨size.toNat, align.toNat⟩
  | .aggregate members => Exact.aggregate (memberExtents members)

/-- The same of members one by one, each as often as it is repeated. -/
def memberExtents : List (Word × MachineType) → List Exact
  | [] => []
  | (count, type) :: rest => List.replicate count.toNat type.extent ++ memberExtents rest

end

namespace MachineType

def expand : List (Word × MachineType) → List MachineType
  | [] => []
  | (count, type) :: rest => List.replicate count.toNat type ++ expand rest

theorem memberExtents_eq_map (members : List (Word × MachineType)) :
    memberExtents members = (expand members).map extent := by
  induction members with
  | nil => rfl
  | cons member rest ih => rw [memberExtents, ih, expand, List.map_append, List.map_replicate]

/-- Where the machine puts the members of an aggregate. -/
def memberOffsets (members : List (Word × MachineType)) : List Nat :=
  Exact.starts ⟨0, 0⟩ ((expand members).map extent)

end MachineType

namespace Layout

theorem Within.placed {inner outer : Layout} (within : inner.Within outer) (built : outer.Built)
    (fits : outer.exact.size < 2 ^ 64) : inner.Built ∧ inner.exact.size < 2 ^ 64 := by
  induction within with
  | self => exact ⟨built, fits⟩
  | field mem struct _ ih =>
      obtain ⟨hbuilt, hfits⟩ := (built.regular fits).nested _ mem _ struct
      exact ih hbuilt hfits

/-- The elements of the fields in exact numbers, each field as often as it is counted. -/
def elements (fields : List Field) : List Exact :=
  fields.flatMap fun field => List.replicate field.count.toNat field.type.exact

theorem foldl_count {field : Field} (counted : field.count ≠ 0) (running : Exact) :
    (List.replicate field.count.toNat field.type.exact).foldl Exact.join running =
      ⟨Exact.alignUp running.size field.member.type.align + field.member.size,
        max running.align field.member.type.align⟩ := by
  rw [ne_eq, ← UInt64.toNat_inj, UInt64.toNat_zero] at counted
  rw [field.member_eq, Exact.Member.size, Exact.Member.stride_of_type]
  obtain ⟨count, hcount⟩ := Nat.exists_eq_succ_of_ne_zero counted
  rw [hcount]
  exact Exact.foldl_replicate field.type.exact_align_pos field.type.exact_align_dvd_size running count

theorem foldl_elements {fields : List Field} (counted : ∀ field ∈ fields, field.count ≠ 0)
    {running : Exact} (one : 1 ≤ running.align) :
    (elements fields).foldl Exact.join running =
      ⟨Exact.stop running.size (fields.map Field.member),
        max running.align (Exact.strictest (fields.map Field.member))⟩ := by
  induction fields generalizing running with
  | nil => rw [List.map_nil, Exact.strictest, Nat.max_eq_left one]; rfl
  | cons field rest ih =>
      obtain ⟨hfield, hrest⟩ := List.forall_mem_cons.mp counted
      have hone : 1 ≤ max running.align field.member.type.align :=
        Nat.le_trans one (Nat.le_max_left _ _)
      rw [elements, List.flatMap_cons, List.foldl_append, foldl_count hfield, ← elements, ih hrest hone,
        List.map_cons, Exact.stop, Exact.strictest, Nat.max_assoc]

/-- One by one the elements come to what the fields come to. -/
theorem aggregate_elements {fields : List Field} (inhabited : fields ≠ [])
    (counted : ∀ field ∈ fields, field.count ≠ 0) :
    Exact.aggregate (elements fields) = Exact.ofMembers (fields.map Field.member) := by
  obtain ⟨field, rest, rfl⟩ := List.exists_cons_of_ne_nil inhabited
  obtain ⟨hfield, hrest⟩ := List.forall_mem_cons.mp counted
  have hwhole : (elements (field :: rest)).foldl Exact.join ⟨0, 0⟩ =
      ⟨Exact.stop 0 ((field :: rest).map Field.member),
        Exact.strictest ((field :: rest).map Field.member)⟩ := by
    rw [elements, List.flatMap_cons, List.foldl_append, foldl_count hfield, Nat.zero_max]
    exact foldl_elements hrest (field.member_align ▸ field.type.exact_align_pos)
  rw [Exact.aggregate, hwhole]
  rfl

/-- Element by element from where each field was placed. -/
theorem starts_elements {fields : List Field} (counted : ∀ field ∈ fields, field.count ≠ 0)
    (agree : ∀ field ∈ fields, field.type.IsExact) {running : Exact}
    (consecutive : Consecutive running.size fields) :
    Exact.starts running (elements fields) = fields.flatMap fun field =>
      (List.range field.count.toNat).map fun k =>
        field.offset.toNat + k * field.type.stride.toNat := by
  induction fields generalizing running with
  | nil => rfl
  | cons field rest ih =>
      obtain ⟨hfield, hrest⟩ := List.forall_mem_cons.mp counted
      obtain ⟨hexact, hagree⟩ := List.forall_mem_cons.mp agree
      have hpos := field.type.exact_align_pos
      have hoffset := consecutive.offset_eq
      rw [field.member_align] at hoffset
      rw [elements, List.flatMap_cons, Exact.starts_append, foldl_count hfield, List.flatMap_cons,
        Exact.starts_replicate hpos field.type.exact_align_dvd_size, hoffset, hexact.toNat_stride]
      congr 1
      apply ih hrest hagree
      rw [field.member_align, ← hoffset]
      exact consecutive.2

end Layout

/-- Whatever describes the type comes to its exact size and alignment. -/
def CType.Measured (type : CType) : Prop :=
  ∀ described, type.machineType = .ok described → described.extent = type.exact

theorem CType.measured_of_plain {type : CType} (plain : type.IsPlain) (complete : type ≠ .void) :
    type.Measured := by
  intro described h
  cases type with
  | void => exact absurd rfl complete
  | struct layout => exact absurd rfl (plain layout)
  | int _ _ | float | double | pointer _ =>
      cases h
      rfl

namespace Layout

def Described (fields : List Field) (members : List (Word × MachineType)) : Prop :=
  List.Forall₂ (fun field member => member.1 = field.count ∧ field.type.machineType = .ok member.2)
    fields members

theorem described_of_machineMembers {fields : List Field} {members : List (Word × MachineType)} {before : Nat}
    (described : machineMembers before fields = .ok members) : Described fields members := by
  induction fields generalizing before members with
  | nil =>
      cases described
      exact .nil
  | cons field rest ih =>
      rw [machineMembers] at described
      obtain ⟨member, hmember, described⟩ := Outcome.bind_eq_ok_iff.mp described
      obtain ⟨total, -, described⟩ := Outcome.bind_eq_ok_iff.mp described
      obtain ⟨others, hothers, described⟩ := Outcome.bind_eq_ok_iff.mp described
      cases described
      rw [Field.machineType_eq] at hmember
      obtain ⟨type, htype, rfl⟩ := Outcome.map_eq_ok_iff.mp hmember
      exact .cons ⟨rfl, htype⟩ (ih hothers)

theorem described_of_machineType {layout : Layout} {type : MachineType}
    (described : layout.machineType = .ok type) :
    ∃ members, type = .aggregate members ∧ Described layout.fields members := by
  obtain ⟨name, fields, size, align⟩ := layout
  cases fields with
  | nil => cases described
  | cons field rest =>
      rw [Layout.machineType] at described
      · obtain ⟨members, hmembers, rfl⟩ := Outcome.map_eq_ok_iff.mp described
        exact ⟨members, rfl, described_of_machineMembers hmembers⟩
      · exact List.cons_ne_nil field rest

theorem memberExtents_of_described {fields : List Field} {members : List (Word × MachineType)}
    (described : Described fields members) (measured : ∀ field ∈ fields, field.type.Measured) :
    memberExtents members = elements fields := by
  induction described with
  | nil => rfl
  | @cons field member fields members hfield _ ih =>
      obtain ⟨hcount, htype⟩ := hfield
      obtain ⟨hmeasured, hrest⟩ := List.forall_mem_cons.mp measured
      rw [memberExtents, ih hrest, hcount, hmeasured _ htype, elements, elements, List.flatMap_cons]

theorem extent_of_described {layout : Layout} {members : List (Word × MachineType)}
    (described : Described layout.fields members) (inhabited : layout.fields ≠ [])
    (counted : ∀ field ∈ layout.fields, field.count ≠ 0)
    (measured : ∀ field ∈ layout.fields, field.type.Measured) :
    (MachineType.aggregate members).extent = layout.exact := by
  rw [MachineType.extent, memberExtents_of_described described measured, aggregate_elements inhabited counted,
    exact_eq_ofMembers, member_specs]

theorem inhabited_of_machineType {layout : Layout} {type : MachineType}
    (described : layout.machineType = .ok type) : layout.fields ≠ [] := by
  rintro none
  obtain ⟨name, fields, size, align⟩ := layout
  obtain rfl : fields = [] := none
  cases described

end Layout

theorem CType.Built.measured {type : CType} (built : type.Built) : type ≠ .void → type.Measured := by
  refine built.induction (P := fun type => type ≠ .void → type.Measured)
    (fun _ plain complete => CType.measured_of_plain plain complete) ?_
  intro name specs layout inner computed _ described htype
  have built : layout.Built := .placed (fun spec hspec => (inner spec hspec).1) computed
  have measured : ∀ field ∈ layout.fields, field.type.Measured := by
    intro field hfield
    have hspec := Layout.specs_of_compute computed ▸ Layout.mem_specs hfield
    exact (inner _ hspec).2 (built.complete field hfield)
  obtain ⟨members, rfl, hmembers⟩ := Layout.described_of_machineType htype
  exact Layout.extent_of_described hmembers (Layout.inhabited_of_machineType htype) built.counted measured

namespace Layout

/-- The struct moves with `size` bytes: instances have them, an argument is read from them, a callback gets
it in a buffer of as many that holds what was handed over, and a result comes in storage of as many. -/
structure Conveyed (layout : Layout) (size : Nat) : Prop where
  backed : ∀ (store after : Store) (view : View), View.newStruct store layout = .ok (view, after) →
    ∃ buffer, view = .ofBuffer buffer (.struct layout) ∧ buffer.size.toNat = size
  lent : ∀ (view : View) (slot : Slot) (store : Store) (bytes : List UInt8),
    Slot.ofValue? (.struct layout) (.struct view) = some slot →
    slot.load? (.struct layout) store = some bytes → bytes = store.memory.read view.address size
  received : ∀ (machine after : Machine) (bytes : List UInt8) (value : Value),
    machine.receive (.struct layout) bytes = .ok (value, after) → bytes.length = size →
    ∃ buffer, value = .struct (.ofBuffer buffer (.struct layout)) ∧ buffer.size.toNat = size ∧
      after.store.memory.read buffer.start size = bytes
  returned : Marshal.resultWidth (.struct layout) = size

theorem backed_of_newStruct {layout : Layout} {store after : Store} {view : View}
    (created : View.newStruct store layout = .ok (view, after)) :
    ∃ buffer, view = .ofBuffer buffer (.struct layout) ∧ buffer.size.toNat = layout.size.toNat := by
  obtain ⟨buffer, allocated, rfl⟩ := View.buffer_eq_ok_iff.mp created
  exact ⟨buffer, rfl, congrArg _ (Store.start_of_allocate allocated).2.1⟩

theorem conveyed (layout : Layout) : layout.Conveyed layout.size.toNat where
  backed _ _ _ created := backed_of_newStruct created
  lent view slot store bytes slotted loaded := by
    rw [Slot.ofValue?] at slotted
    split at slotted
    · cases slotted
      rw [Slot.load?, Store.load?] at loaded
      split at loaded
      · exact (Option.some.inj loaded).symm
      · cases loaded
    · cases slotted
  received machine after bytes value received length := by
    rw [Machine.receive] at received
    cases created : View.newStruct machine.store layout with
    | error cause => rw [created] at received; cases received
    | ok made =>
        obtain ⟨view, store⟩ := made
        obtain ⟨buffer, rfl, hsize⟩ := backed_of_newStruct created
        rw [created] at received
        cases received
        refine ⟨buffer, rfl, hsize, ?_⟩
        rw [← length]
        exact Memory.read_write store.memory buffer.start bytes (length ▸ Nat.le_of_lt layout.size.toNat_lt)
  returned := rfl

/-- The machine's description of a struct against its layout. Members stand for fields, the elements of an
array for the steps within it, and the struct moves with as many bytes as the machine counts. -/
structure Agrees (layout : Layout) (members : List (Word × MachineType)) : Prop where
  described : layout.machineType = .ok (.aggregate members)
  parts : Described layout.fields members
  extent : (MachineType.aggregate members).extent = ⟨layout.size.toNat, layout.align.toNat⟩
  offsets : MachineType.memberOffsets members = layout.fields.flatMap fun field =>
    (List.range field.count.toNat).map fun k => field.offset.toNat + k * field.type.stride.toNat
  conveyed : layout.Conveyed (MachineType.aggregate members).extent.size

/-- A struct that was placed without wrapping, and in which no struct is empty: it has a description just
where the members of every struct in it can be listed, and its description, like that of every struct in it,
agrees with its layout. -/
theorem machineType_agrees {layout : Layout} (built : layout.Built) (fits : layout.exact.size < 2 ^ 64)
    (inhabited : ∀ inner : Layout, inner.Within layout → inner.fields ≠ []) :
    ∀ inner : Layout, inner.Within layout →
      ((∃ type, inner.machineType = .ok type) ↔
        ∀ deeper : Layout, deeper.Within inner → memberCount deeper.fields < MachineType.memberLimit) ∧
      ∀ type, inner.machineType = .ok type → ∃ members, type = .aggregate members ∧ inner.Agrees members := by
  intro inner within
  refine ⟨?_, fun type described => ?_⟩
  · rw [inner.surveyed.exists_ok_iff, Layout.met_iff]
    constructor
    · exact fun passable deeper within => (passable deeper within).roomy
    · exact fun roomy deeper within' => ⟨inhabited deeper (within'.trans within), roomy deeper within'⟩
  obtain ⟨hbuilt, hfits⟩ := within.placed built fits
  have measured : ∀ field ∈ inner.fields, field.type.Measured := fun field hfield =>
    CType.Built.measured (hbuilt.compute_specs.2 _ (mem_specs hfield)) (hbuilt.complete field hfield)
  obtain ⟨members, rfl, hparts⟩ := described_of_machineType described
  obtain ⟨hsize, halign⟩ := hbuilt.isExact hfits
  have hlayout : (MachineType.aggregate members).extent = ⟨inner.size.toNat, inner.align.toNat⟩ := by
    rw [extent_of_described hparts (inhabited inner within) hbuilt.counted measured]
    exact Exact.mk.injEq .. ▸ ⟨hsize.symm, halign.symm⟩
  refine ⟨members, rfl, described, hparts, hlayout, ?_, hlayout ▸ inner.conveyed⟩
  rw [MachineType.memberOffsets, ← MachineType.memberExtents_eq_map, memberExtents_of_described hparts measured]
  exact starts_elements hbuilt.counted (hbuilt.exact_fields hfits) (hbuilt.consecutive hfits)

/-- The elements of the array of pairs are placed one by one, from 4 on, eight bytes apart. -/
theorem machineType_agrees_sample :
    ∃ members, sample.machineType = .ok (.aggregate members) ∧
      (MachineType.aggregate members).extent = ⟨40, 8⟩ ∧
      MachineType.memberOffsets members = [0, 4, 12, 20, 32] := by
  have inside : ∀ inner : Layout, inner.Within sample → inner = sample ∨ inner = samplePair := by
    intro inner within
    cases within with
    | self => exact .inl rfl
    | field mem struct deeper =>
        simp only [sample, List.mem_cons, List.not_mem_nil, or_false] at mem
        obtain rfl | rfl | rfl := mem
        · cases struct
        · cases struct
          cases deeper with
          | self => exact .inr rfl
          | field mem struct _ =>
              simp only [samplePair, List.mem_cons, List.not_mem_nil, or_false] at mem
              obtain rfl | rfl := mem <;> cases struct
        · cases struct
  have inhabited : ∀ inner : Layout, inner.Within sample → inner.fields ≠ [] := by
    intro inner within
    obtain rfl | rfl := inside inner within <;> exact List.cons_ne_nil _ _
  have roomy : ∀ inner : Layout, inner.Within sample →
      memberCount inner.fields < MachineType.memberLimit := by
    intro inner within
    obtain rfl | rfl := inside inner within <;> decide
  obtain ⟨described, agrees⟩ := machineType_agrees sample_built (by decide) inhabited sample .self
  obtain ⟨type, htype⟩ := described.mpr roomy
  obtain ⟨members, rfl, agrees⟩ := agrees type htype
  exact ⟨members, agrees.described, agrees.extent, agrees.offsets⟩

end Layout
end Foreign
