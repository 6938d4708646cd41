import Foreign.Call.Interface
import Foreign.Proofs.Word

/-!
What describing a type for the machine asks of the structs that travel by value in it: that each has a field,
and that there is room for its members. The demands are listed in the order in which they are met: a struct
before what lies in it, fields in their order, the type of a field before its elements, nothing behind a
pointer. Describing fails just where a demand is not met, and for the first of those.
-/

namespace Foreign

/-- Members that fields make, the elements of arrays one by one. -/
def Layout.memberCount : List Field → Nat
  | [] => 0
  | field :: rest => field.count.toNat + memberCount rest

theorem Layout.memberCount_append (front rest : List Field) :
    memberCount (front ++ rest) = memberCount front + memberCount rest := by
  induction front with
  | nil => rw [List.nil_append, memberCount, Nat.zero_add]
  | cons field front ih => rw [List.cons_append, memberCount, memberCount, ih, Nat.add_assoc]

/-- `inner` is the struct `outer` itself or lies in it by value, at any depth. -/
inductive Layout.Within (inner : Layout) : Layout → Prop
  | self : Within inner inner
  | field {outer nested : Layout} {field : Field} (mem : field ∈ outer.fields)
      (struct : field.type = .struct nested) (deeper : Within inner nested) : Within inner outer

theorem Layout.Within.trans {deeper inner outer : Layout} (first : deeper.Within inner)
    (second : inner.Within outer) : deeper.Within outer := by
  induction second with
  | self => exact first
  | field mem struct _ ih => exact .field mem struct ih

inductive Demand where
  /-- The struct has a field. -/
  | inhabited (layout : Layout)
  /-- So many members can be listed. -/
  | room (members : Nat)

namespace Demand

/-- What describing ends in if the demand is not met. -/
def fault? : Demand → Option Fault
  | .inhabited layout => if layout.fields.isEmpty then some (.emptyStruct layout.name) else none
  | .room members => if members < MachineType.memberLimit then none else some .capacityOverflow

def Met : Demand → Prop
  | .inhabited layout => layout.fields ≠ []
  | .room members => members < MachineType.memberLimit

theorem fault?_eq_none_iff {demand : Demand} : demand.fault? = none ↔ demand.Met := by
  cases demand with
  | inhabited layout => simp [fault?, Met]
  | room members => simp [fault?, Met]

end Demand

mutual

/-- The demands of a type. -/
def CType.demands : CType → List Demand
  | .struct layout => layout.demands
  | .void | .int _ _ | .float | .double | .pointer _ => []

def Layout.demands : Layout → List Demand
  | ⟨name, fields, size, align⟩ => .inhabited ⟨name, fields, size, align⟩ :: demandsOfFields 0 fields

/-- The elements of an array have one type, which is described once. -/
def Field.demands : Field → List Demand
  | ⟨_, type, _, _⟩ => type.demands

/-- The demands of fields behind so many members. -/
def demandsOfFields : Nat → List Field → List Demand
  | _, [] => []
  | members, field :: rest =>
    field.demands ++ .room (members + field.count.toNat) ::
      demandsOfFields (members + field.count.toNat) rest

end

theorem Field.demands_eq (field : Field) : field.demands = field.type.demands := by
  cases field
  rw [Field.demands]

theorem Layout.demands_eq (layout : Layout) :
    layout.demands = .inhabited layout :: demandsOfFields 0 layout.fields := by
  cases layout
  rw [Layout.demands]

/-- The members are counted up to each field in turn, that field included. -/
theorem mem_demandsOfFields {members : Nat} {fields : List Field} {demand : Demand} :
    demand ∈ demandsOfFields members fields ↔ (∃ field ∈ fields, demand ∈ field.type.demands) ∨
      ∃ front rest, fields = front ++ rest ∧ front ≠ [] ∧
        demand = .room (members + Layout.memberCount front) := by
  induction fields generalizing members with
  | nil => simp [demandsOfFields]
  | cons field rest ih =>
      rw [demandsOfFields, List.mem_append, List.mem_cons, ih, Field.demands_eq, List.exists_mem_cons_iff]
      constructor
      · rintro (inside | own | further | ⟨front, after, rfl, some, rfl⟩)
        · exact .inl (.inl inside)
        · exact .inr ⟨[field], rest, rfl, List.cons_ne_nil _ _, own⟩
        · exact .inl (.inr further)
        · refine .inr ⟨field :: front, after, rfl, List.cons_ne_nil _ _, ?_⟩
          rw [Layout.memberCount, Nat.add_assoc]
      · rintro ((inside | further) | ⟨front, after, split, some, rfl⟩)
        · exact .inl inside
        · exact .inr (.inr (.inl further))
        · obtain ⟨first, front, rfl⟩ := List.exists_cons_of_ne_nil some
          obtain ⟨rfl, rfl⟩ := List.cons.inj split
          rw [Layout.memberCount, ← Nat.add_assoc]
          cases front with
          | nil => exact .inr (.inl rfl)
          | cons second front => exact .inr (.inr (.inr ⟨_, after, rfl, List.cons_ne_nil _ _, rfl⟩))

/-- What the struct asks by itself, apart from the structs in it. -/
inductive Layout.Asks (layout : Layout) : Demand → Prop
  | inhabited : Asks layout (.inhabited layout)
  | room {front rest : List Field} (split : layout.fields = front ++ rest) (some : front ≠ []) :
      Asks layout (.room (Layout.memberCount front))

mutual

theorem CType.asks_of_mem_demands {demand : Demand} : (type : CType) → demand ∈ type.demands →
    ∃ layout, type = .struct layout ∧ ∃ inner : Layout, inner.Within layout ∧ inner.Asks demand
  | .void, h | .int _ _, h | .float, h | .double, h | .pointer _, h => nomatch h
  | .struct layout, h => ⟨layout, rfl, layout.asks_of_mem_demands h⟩

theorem Layout.asks_of_mem_demands {demand : Demand} : (layout : Layout) → demand ∈ layout.demands →
    ∃ inner : Layout, inner.Within layout ∧ inner.Asks demand
  | ⟨name, fields, size, align⟩, h => by
    rw [Layout.demands, List.mem_cons, mem_demandsOfFields] at h
    rcases h with rfl | ⟨field, mem, inside⟩ | ⟨front, rest, split, some, rfl⟩
    · exact ⟨_, .self, .inhabited⟩
    · obtain ⟨nested, struct, inner, within, asks⟩ := asks_of_mem_fields fields field mem inside
      exact ⟨inner, .field mem struct within, asks⟩
    · rw [Nat.zero_add]
      exact ⟨_, .self, .room split some⟩

theorem Field.asks_of_mem_demands {demand : Demand} : (field : Field) → demand ∈ field.type.demands →
    ∃ layout, field.type = .struct layout ∧ ∃ inner : Layout, inner.Within layout ∧ inner.Asks demand
  | ⟨_, type, _, _⟩, h => type.asks_of_mem_demands h

theorem asks_of_mem_fields {demand : Demand} : (fields : List Field) →
    ∀ field ∈ fields, demand ∈ field.type.demands →
    ∃ layout, field.type = .struct layout ∧ ∃ inner : Layout, inner.Within layout ∧ inner.Asks demand
  | [], _, mem, _ => nomatch mem
  | first :: rest, field, mem, h => by
    rcases List.mem_cons.mp mem with same | mem
    · rw [same] at h ⊢
      exact first.asks_of_mem_demands h
    · exact asks_of_mem_fields rest field mem h

end

/-- The demands of a struct are its own and those of the structs in it, at any depth. -/
theorem Layout.mem_demands_iff {layout : Layout} {demand : Demand} :
    demand ∈ layout.demands ↔ ∃ inner : Layout, inner.Within layout ∧ inner.Asks demand := by
  refine ⟨layout.asks_of_mem_demands, ?_⟩
  rintro ⟨inner, within, asks⟩
  induction within with
  | self =>
      rw [Layout.demands_eq, List.mem_cons, mem_demandsOfFields]
      cases asks with
      | inhabited => exact .inl rfl
      | room split some => exact .inr (.inr ⟨_, _, split, some, by rw [Nat.zero_add]⟩)
  | field mem struct _ ih =>
      rw [Layout.demands_eq, List.mem_cons, mem_demandsOfFields]
      refine .inr (.inl ⟨_, mem, ?_⟩)
      rw [struct, CType.demands]
      exact ih

theorem CType.mem_demands_iff {type : CType} {demand : Demand} :
    demand ∈ type.demands ↔
      ∃ layout, type = .struct layout ∧ ∃ inner : Layout, inner.Within layout ∧ inner.Asks demand := by
  refine ⟨type.asks_of_mem_demands, ?_⟩
  rintro ⟨layout, rfl, found⟩
  exact Layout.mem_demands_iff.mpr found

/-- The struct can be passed by value as far as it alone goes. -/
structure Layout.Passable (layout : Layout) : Prop where
  inhabited : layout.fields ≠ []
  roomy : Layout.memberCount layout.fields < MachineType.memberLimit

/-- Room for all members is room for those of the first fields. -/
theorem Layout.passable_iff {layout : Layout} :
    layout.Passable ↔ ∀ demand, layout.Asks demand → demand.Met := by
  constructor
  · rintro ⟨inhabited, roomy⟩ demand asks
    cases asks with
    | inhabited => exact inhabited
    | room split _ =>
        rw [split, Layout.memberCount_append] at roomy
        exact Nat.lt_of_le_of_lt (Nat.le_add_right _ _) roomy
  · intro met
    have inhabited : layout.fields ≠ [] := met _ .inhabited
    exact ⟨inhabited, met _ (.room (List.append_nil _).symm inhabited)⟩

theorem Layout.met_iff {layout : Layout} : (∀ demand ∈ layout.demands, demand.Met) ↔
    ∀ inner : Layout, inner.Within layout → inner.Passable := by
  simp only [Layout.mem_demands_iff, Layout.passable_iff]
  constructor
  · exact fun met inner within demand asks => met demand ⟨inner, within, asks⟩
  · rintro passable demand ⟨inner, within, asks⟩
    exact passable inner within demand asks

theorem CType.met_iff {type : CType} : (∀ demand ∈ type.demands, demand.Met) ↔
    ∀ layout, type = .struct layout → ∀ inner : Layout, inner.Within layout → inner.Passable := by
  simp only [CType.mem_demands_iff, Layout.passable_iff]
  constructor
  · intro met layout struct inner within demand asks
    exact met demand ⟨layout, struct, inner, within, asks⟩
  · rintro passable demand ⟨layout, struct, inner, within, asks⟩
    exact passable layout struct inner within demand asks

/-- What the first of the demands that is not met ends in. -/
def firstFault? (demands : List Demand) : Option Fault :=
  demands.findSome? Demand.fault?

theorem firstFault?_append (front rest : List Demand) :
    firstFault? (front ++ rest) = (firstFault? front).or (firstFault? rest) :=
  List.findSome?_append

theorem firstFault?_eq_none_iff {demands : List Demand} :
    firstFault? demands = none ↔ ∀ demand ∈ demands, demand.Met := by
  simp only [firstFault?, List.findSome?_eq_none_iff, Demand.fault?_eq_none_iff]

theorem firstFault?_eq_some_iff {demands : List Demand} {fault : Fault} :
    firstFault? demands = some fault ↔ ∃ before demand after, demands = before ++ demand :: after ∧
      demand.fault? = some fault ∧ ∀ earlier ∈ before, earlier.Met := by
  simp only [firstFault?, List.findSome?_eq_some_iff, Demand.fault?_eq_none_iff]

/-- What a computation over a list of demands can come to: it fails for the first of them that is not met, or
all are. -/
inductive Surveyed {α : Type} (demands : List Demand) : Outcome α → Prop
  | done {a : α} (met : firstFault? demands = none) : Surveyed demands (.ok a)
  | failed {fault : Fault} (first : firstFault? demands = some fault) :
      Surveyed demands (.error (.fault fault))

namespace Surveyed

variable {α β : Type} {demands rest : List Demand} {x : Outcome α}

theorem pure (a : α) : Surveyed [] (.ok a) :=
  .done rfl

theorem map (surveyed : Surveyed demands x) (f : α → β) : Surveyed demands (x.map f) := by
  cases surveyed with
  | done met => exact .done met
  | failed first => exact .failed first

/-- What comes second is surveyed only if there was nothing to complain of in what came first. -/
theorem bind {f : α → Outcome β} (surveyed : Surveyed demands x)
    (next : ∀ a, x = .ok a → Surveyed rest (f a)) : Surveyed (demands ++ rest) (x >>= f) := by
  cases surveyed with
  | @done a met =>
      change Surveyed (demands ++ rest) (f a)
      have hnext := next a rfl
      generalize f a = y at hnext
      cases hnext with
      | done met' => exact .done (by rw [firstFault?_append, met, met', Option.none_or])
      | failed first => exact .failed (by rw [firstFault?_append, met, Option.none_or, first])
  | failed first => exact .failed (by rw [firstFault?_append, first, Option.some_or])

theorem mapM {f : β → Outcome α} {demands : β → List Demand}
    (surveyed : ∀ b, Surveyed (demands b) (f b)) (bs : List β) :
    Surveyed (bs.flatMap demands) (bs.mapM f) := by
  induction bs with
  | nil =>
      rw [List.mapM_nil]
      exact pure []
  | cons b bs ih =>
      rw [List.mapM_cons, List.flatMap_cons]
      refine (surveyed b).bind fun a _ => ?_
      rw [← List.append_nil (bs.flatMap demands)]
      exact ih.bind fun rest _ => pure (a :: rest)

theorem grow (members : Nat) (count : Word) :
    Surveyed [.room (members + count.toNat)] (MachineType.grow members count) := by
  rw [MachineType.grow]
  split
  case isTrue room => exact .done (by simp [firstFault?, Demand.fault?, room])
  case isFalse full => exact .failed (by simp [firstFault?, Demand.fault?, full])

/-- Whether all demands are met is whether there is an outcome. -/
theorem exists_ok_iff (surveyed : Surveyed demands x) :
    (∃ a, x = .ok a) ↔ ∀ demand ∈ demands, demand.Met := by
  rw [← firstFault?_eq_none_iff]
  cases surveyed with
  | done met => exact iff_of_true ⟨_, rfl⟩ met
  | failed first =>
      refine iff_of_false (fun ⟨_, h⟩ => nomatch h) ?_
      rw [first]
      nofun

theorem eq_error_iff (surveyed : Surveyed demands x) {failure : Failure} :
    x = .error failure ↔ ∃ fault, firstFault? demands = some fault ∧ failure = .fault fault := by
  cases surveyed with
  | done met => simp [met]
  | failed first => simp [first, eq_comm]

end Surveyed

theorem MachineType.eq_of_grow {members total : Nat} {count : Word}
    (grown : MachineType.grow members count = .ok total) : total = members + count.toNat := by
  rw [MachineType.grow] at grown
  split at grown
  · exact (Except.ok.inj grown).symm
  · cases grown

theorem Field.machineType_eq (field : Field) :
    field.machineType = field.type.machineType.map fun member => (field.count, member) := by
  cases field
  rw [Field.machineType]

theorem Field.count_of_machineType {field : Field} {member : Word × MachineType}
    (described : field.machineType = .ok member) : member.1 = field.count := by
  rw [Field.machineType_eq] at described
  obtain ⟨type, -, rfl⟩ := Outcome.map_eq_ok_iff.mp described
  rfl

mutual

theorem CType.surveyed : (type : CType) → Surveyed type.demands type.machineType
  | .void | .int _ _ | .float | .double | .pointer _ => .pure _
  | .struct layout => layout.surveyed

theorem Layout.surveyed : (layout : Layout) → Surveyed layout.demands layout.machineType
  | ⟨name, [], size, align⟩ => by
    have first : firstFault? (Layout.demands ⟨name, [], size, align⟩) = some (.emptyStruct name) := rfl
    exact .failed first
  | ⟨name, field :: rest, size, align⟩ => by
    have described := (surveyed_machineMembers 0 (field :: rest)).map MachineType.aggregate
    rw [Layout.demands, Layout.machineType]
    · generalize (machineMembers 0 (field :: rest)).map MachineType.aggregate = outcome at described
      -- the struct itself has a field, so it is passed over
      cases described with
      | done met => exact .done met
      | failed first => exact .failed first
    · exact List.cons_ne_nil field rest

theorem Field.surveyed : (field : Field) → Surveyed field.demands field.machineType
  | ⟨_, type, count, _⟩ => by
    rw [Field.demands, Field.machineType]
    exact type.surveyed.map fun member => (count, member)

theorem surveyed_machineMembers : (members : Nat) → (fields : List Field) →
    Surveyed (demandsOfFields members fields) (machineMembers members fields)
  | _, [] => .pure []
  | members, field :: rest => by
    rw [demandsOfFields, machineMembers]
    refine field.surveyed.bind fun member described => ?_
    rw [Field.count_of_machineType described]
    refine Surveyed.bind (Surveyed.grow members field.count) fun total grown => ?_
    rw [MachineType.eq_of_grow grown, ← List.append_nil (demandsOfFields _ rest)]
    exact (surveyed_machineMembers _ rest).bind fun others _ => .pure (member :: others)

end

end Foreign
