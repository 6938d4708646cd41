import Foreign.Proofs.Layout.Leaf
import Foreign.Proofs.Memory.Blocks
import Foreign.Proofs.View.Access
import Foreign.View.Create

/-!
A struct instance is a record. Every way to a leaf arrives at the leaf's own bytes, so what is written to a
leaf is read there again, and neither the other leaves nor the padding notice.
-/

namespace Foreign

/-- How an element of a field is come to: by moving the view of the field, or by reading it at an index. -/
inductive Manner where
  | move
  | read

/-- A way to a leaf: a hop into each struct that is around it, and one to the leaf itself. -/
inductive Walk where
  | last (hop : Layout.Hop) (manner : Manner)
  | enter (hop : Layout.Hop) (manner : Manner) (rest : Walk)

def Walk.path : Walk → List Layout.Hop
  | last hop _ => [hop]
  | enter hop _ rest => hop :: rest.path

theorem Walk.path_ne_nil (walk : Walk) : walk.path ≠ [] := by
  cases walk <;> exact List.cons_ne_nil _ _

namespace View

def enter (view : View) (store : Store) (hop : Layout.Hop) : Manner → Outcome View
  | .move => do
    let first ← view.field hop.name
    return first.offset hop.index.toInt64
  | .read => do
    let first ← view.field hop.name
    let value ← first.read store hop.index
    match value.struct? with
    | some inner => return inner
    | none => .error (.value (.notAStruct first.element))

/-- Where a walk ends: a view, and the index at which to read or write it. -/
def arrive (view : View) (store : Store) : Walk → Outcome (View × Word)
  | .last hop .move => do
    let first ← view.field hop.name
    return (first.offset hop.index.toInt64, 0)
  | .last hop .read => do
    let first ← view.field hop.name
    return (first, hop.index)
  | .enter hop manner rest => do
    let inner ← view.enter store hop manner
    inner.arrive store rest

def get (view : View) (store : Store) (walk : Walk) : Outcome Value := do
  let (target, index) ← view.arrive store walk
  target.read store index

def set (view : View) (store : Store) (walk : Walk) (value : Value) : Outcome Store := do
  let (target, index) ← view.arrive store walk
  target.write store index value

/-- A view of elements of type `type` whose first element is at `place`, held to `extent`. -/
structure Located (extent : Buffer) (type : CType) (place : Nat) (view : View) : Prop where
  element : view.element = type
  direct : view.levels = 0
  backed : view.backing = .buffer extent
  address : view.address.toNat = place

/-- An element of such a view, itself at `place`. -/
structure Element (extent : Buffer) (type : CType) (place : Nat) (view : View) (index : Word) : Prop where
  element : view.element = type
  direct : view.levels = 0
  backed : view.backing = .buffer extent
  address : (view.elementAddress index).toNat = place

variable {extent : Buffer} {type : CType} {place : Nat} {view : View} {index : Word}

theorem Located.first (located : Located extent type place view) : Element extent type place view 0 := by
  refine ⟨located.element, located.direct, located.backed, ?_⟩
  rw [elementAddress, UInt64.zero_mul, UInt64.add_zero, located.address]

theorem Located.at (located : Located extent type place view) (complete : type ≠ .void) (index : Word)
    (room : place + type.stride.toNat * index.toNat < 2 ^ 64) :
    Element extent type (place + type.stride.toNat * index.toNat) view index := by
  refine ⟨located.element, located.direct, located.backed, ?_⟩
  have hstep : view.step = type.stride := by
    rw [step_of_direct located.direct (located.element ▸ complete), located.element]
  have hdistance : (index * view.step).toNat = type.stride.toNat * index.toNat := by
    rw [hstep, Word.toNat_mul_of_lt (by rw [Nat.mul_comm]; omega), Nat.mul_comm]
  rw [elementAddress, Word.toNat_add_of_lt (by rw [located.address, hdistance]; exact room),
    located.address, hdistance]

theorem Element.offset (element : Element extent type place view index) :
    Located extent type place (view.offset index.toInt64) := by
  refine ⟨element.element, element.direct, share_of_backed element.backed, ?_⟩
  rw [View.offset, UInt64.toUInt64_toInt64]
  exact element.address

theorem Element.derive (element : Element extent type place view index) (other : CType) :
    Located extent other place (view.derive (view.elementAddress index) other) :=
  ⟨rfl, rfl, share_of_backed element.backed, element.address⟩

theorem Element.elementAddress_eq (element : Element extent type place view index) :
    view.elementAddress index = UInt64.ofNat place := by
  rw [← element.address, UInt64.ofNat_toNat]

theorem Element.reaches (element : Element extent type place view index) (ends : extent.Ends)
    (holds : extent.Holds place type.size.toNat) (store : Store) :
    view.reaches store (view.elementAddress index) view.element.size = true := by
  rw [View.reaches, element.backed, element.element]
  refine (Buffer.contains_iff_holds ends).mpr ?_
  rwa [element.address]

theorem Element.read (element : Element extent type place view index) (ends : extent.Ends)
    (holds : extent.Holds place type.size.toNat) (plain : type.IsPlain) (store : Store) :
    view.read store index =
      .ok (.decode type (store.memory.read (UInt64.ofNat place) type.size.toNat)) := by
  rw [read_of_reaches element.direct (element.reaches ends holds store),
    valueAt_of_plain (element.element ▸ plain), element.element, element.elementAddress_eq]

theorem Element.read_struct {layout : Layout} (element : Element extent (.struct layout) place view index)
    (ends : extent.Ends) (holds : extent.Holds place layout.size.toNat) (store : Store) :
    view.read store index =
      .ok (.struct (view.derive (view.elementAddress index) (.struct layout))) := by
  rw [read_of_reaches element.direct (element.reaches ends holds store),
    valueAt_of_struct element.element]

theorem Element.write (element : Element extent type place view index) (ends : extent.Ends)
    (holds : extent.Holds place type.size.toNat) (plain : type.IsPlain) (complete : type ≠ .void)
    {value : Value} (fits : value.fits type = true) (store : Store) :
    view.write store index value =
      .ok { store with memory := store.memory.write (UInt64.ofNat place) value.encode } := by
  rw [write_of_plain element.direct (element.element ▸ complete) (element.element ▸ plain)
    (element.element ▸ fits) (element.reaches ends holds store), element.elementAddress_eq]

theorem Located.field {layout : Layout} (located : Located extent (.struct layout) place view)
    {name : String} {field : Field} (found : layout.field? name = some field)
    (room : place + field.offset.toNat < 2 ^ 64) :
    ∃ first, view.field name = .ok first ∧
      Located extent field.type (place + field.offset.toNat) first := by
  have hroom : view.address.toNat + field.offset.toNat < 2 ^ 64 := by rwa [located.address]
  have hfound : layout.fields.find? (·.name == name) = some field := found
  refine ⟨view.derive (view.address + field.offset) field.type, ?_, rfl, rfl,
    share_of_backed located.backed, ?_⟩
  · simp only [View.field, access, located.direct, located.element, CType.access, if_true, hfound,
      Outcome.sum_of_lt hroom]
    rfl
  · change (view.address + field.offset).toNat = _
    rw [Word.toNat_add_of_lt hroom, located.address]

/-- The view of a field has the element that a hop chooses at its index. -/
theorem Located.hop {layout : Layout} (located : Located extent (.struct layout) place view)
    (ends : extent.Ends) (holds : extent.Holds place layout.size.toNat) (regular : layout.Regular)
    {hop : Layout.Hop} {field : Field} (found : layout.field? hop.name = some field)
    (bound : hop.index.toNat < field.count.toNat) :
    ∃ first, view.field hop.name = .ok first ∧
      Element extent field.type (place + field.elementOffset hop.index) first hop.index := by
  have mem := (Layout.mem_of_field? found).1
  have hinside := regular.element_inside mem bound
  obtain ⟨hstart, hstop⟩ := holds
  change extent.start.toNat + extent.size.toNat < 2 ^ 64 at ends
  rw [Field.elementOffset] at hinside ⊢
  obtain ⟨first, hfield, hfirst⟩ := located.field found (by omega)
  have hat := hfirst.at (regular.complete field mem) hop.index (by omega)
  rw [Nat.add_assoc] at hat
  exact ⟨first, hfield, hat⟩

theorem Located.enter {layout inner : Layout} (located : Located extent (.struct layout) place view)
    (ends : extent.Ends) (holds : extent.Holds place layout.size.toNat) (regular : layout.Regular)
    {hop : Layout.Hop} {field : Field} (found : layout.field? hop.name = some field)
    (bound : hop.index.toNat < field.count.toNat) (struct : field.type = .struct inner) (store : Store)
    (manner : Manner) :
    ∃ element, view.enter store hop manner = .ok element ∧
      Located extent (.struct inner) (place + field.elementOffset hop.index) element := by
  have hinside := regular.element_inside (Layout.mem_of_field? found).1 bound
  obtain ⟨first, hfield, hat⟩ := located.hop ends holds regular found bound
  rw [struct] at hat
  cases manner with
  | move => exact ⟨_, by rw [View.enter, hfield]; rfl, hat.offset⟩
  | read =>
      rw [struct, CType.size] at hinside
      have hread := hat.read_struct ends ⟨Nat.le_trans holds.1 (Nat.le_add_right _ _),
        Nat.le_trans (by omega) holds.2⟩ store
      refine ⟨_, ?_, hat.derive (.struct inner)⟩
      rw [View.enter, hfield]
      simp only [Outcome.ok_bind, hread, Value.struct?]
      rfl

/-- Every walk along the path of a leaf arrives there: induction on the path, with the view that the walk
has come to so far. -/
theorem Located.arrive {layout : Layout} (located : Located extent (.struct layout) place view)
    (ends : extent.Ends) (holds : extent.Holds place layout.size.toNat) (regular : layout.Regular)
    {path : List Layout.Hop} {offset : Nat} {target : CType} (leaf : layout.Leaf path offset target)
    (store : Store) {walk : Walk} (along : walk.path = path) :
    ∃ arrived index, view.arrive store walk = .ok (arrived, index) ∧
      Element extent target (place + offset) arrived index := by
  induction leaf generalizing place view walk with
  | plain found bound plain =>
      cases walk with
      | enter _ _ rest => exact absurd (List.cons.inj along).2 rest.path_ne_nil
      | last turn manner =>
          obtain rfl := (List.cons.inj along).1
          obtain ⟨first, hfield, hat⟩ := located.hop ends holds regular found bound
          cases manner with
          | move => exact ⟨_, _, by rw [View.arrive, hfield]; rfl, hat.offset.first⟩
          | read => exact ⟨_, _, by rw [View.arrive, hfield]; rfl, hat⟩
  | nested found bound struct rest ih =>
      have mem := (Layout.mem_of_field? found).1
      have hinside := regular.element_inside mem bound
      rw [struct, CType.size] at hinside
      cases walk with
      | last _ _ =>
          obtain rfl := (List.cons.inj along).2
          cases rest
      | enter turn manner onward =>
          obtain ⟨rfl, halong⟩ := List.cons.inj along
          obtain ⟨element, henter, helement⟩ :=
            located.enter ends holds regular found bound struct store manner
          obtain ⟨hstart, hstop⟩ := holds
          obtain ⟨arrived, index, harrive, hat⟩ := ih helement ⟨by omega, by omega⟩
            (regular.inner mem struct) halong
          rw [Nat.add_assoc] at hat
          exact ⟨arrived, index, by rw [View.arrive, henter]; exact harrive, hat⟩

section

variable {layout : Layout} (located : Located extent (.struct layout) place view) (ends : extent.Ends)
  (holds : extent.Holds place layout.size.toNat) (regular : layout.Regular) {path : List Layout.Hop}
  {offset : Nat} {target : CType} (leaf : layout.Leaf path offset target) (store : Store)

include holds regular leaf

theorem leaf_holds : extent.Holds (place + offset) target.size.toNat := by
  have hinside := leaf.inside regular
  obtain ⟨hstart, hstop⟩ := holds
  exact ⟨by omega, by omega⟩

include located ends

theorem Located.get {walk : Walk} (along : walk.path = path) :
    view.get store walk =
      .ok (.decode target (store.memory.read (UInt64.ofNat (place + offset)) target.size.toNat)) := by
  obtain ⟨arrived, index, harrive, hat⟩ := located.arrive ends holds regular leaf store along
  rw [View.get, harrive]
  exact hat.read ends (leaf_holds holds regular leaf) leaf.plain_type store

theorem Located.set {walk : Walk} (along : walk.path = path) {value : Value}
    (fits : value.fits target = true) :
    view.set store walk value =
      .ok { store with memory := store.memory.write (UInt64.ofNat (place + offset)) value.encode } := by
  obtain ⟨arrived, index, harrive, hat⟩ := located.arrive ends holds regular leaf store along
  rw [View.set, harrive]
  exact hat.write ends (leaf_holds holds regular leaf) leaf.plain_type (leaf.complete regular) fits store

/-- A leaf that was written gives the value back. -/
theorem Located.get_written {walk : Walk} (along : walk.path = path) {value : Value}
    (fits : Value.Fits value target) :
    view.get { store with
        memory := store.memory.write (UInt64.ofNat (place + offset)) value.encode } walk =
      .ok (value.asRead target) := by
  have hlength : value.encode.length = target.size.toNat :=
    Value.length_encode_of_fits fits leaf.plain_type
  have hbound : value.encode.length ≤ 2 ^ 64 := by
    rw [hlength]
    exact Nat.le_of_lt target.size.toNat_lt
  rw [located.get ends holds regular leaf _ along, ← hlength, Memory.read_write _ _ _ hbound,
    Value.decode_encode_of_fits fits leaf.plain_type]

/-- Every other leaf is as it was. -/
theorem Located.get_of_ne {walk : Walk} {start : Nat} (leaf' : layout.Leaf walk.path start type)
    (ne : path ≠ walk.path) {value : Value} (fits : Value.Fits value target) :
    view.get { store with
        memory := store.memory.write (UInt64.ofNat (place + offset)) value.encode } walk =
      view.get store walk := by
  have hlimit : place + layout.size.toNat < 2 ^ 64 := Nat.lt_of_le_of_lt holds.2 ends
  have hinside := leaf.inside regular
  have hinside' := leaf'.inside regular
  have hplace : (UInt64.ofNat (place + offset)).toNat = place + offset :=
    Word.toNat_ofNat_of_lt (by omega)
  have hplace' : (UInt64.ofNat (place + start)).toNat = place + start :=
    Word.toNat_ofNat_of_lt (by omega)
  have happart : Memory.Apart (UInt64.ofNat (place + offset)) target.size.toNat
      (UInt64.ofNat (place + start)) type.size.toNat := by
    cases leaf.apart regular leaf' ne with
    | inl before => exact Memory.apart_of_le (by omega) (by omega)
    | inr behind => exact (Memory.apart_of_le (by omega) (by omega)).symm
  rw [← Value.length_encode_of_fits fits leaf.plain_type] at happart
  rw [located.get ends holds regular leaf' _ rfl, located.get ends holds regular leaf' _ rfl,
    Memory.read_write_of_apart happart]

end

theorem buffer_eq_ok_iff {before after : Store} {size : Word} :
    View.buffer before size type = .ok (view, after) ↔
      ∃ extent, before.allocate size = some (extent, after) ∧ view = ofBuffer extent type := by
  rw [View.buffer, fresh]
  cases h : before.allocate size with
  | none => exact ⟨fun h => (nomatch h), fun ⟨_, h, _⟩ => (nomatch h)⟩
  | some block =>
      constructor
      · intro heq
        cases heq
        exact ⟨_, rfl, rfl⟩
      · rintro ⟨extent, heq, rfl⟩
        cases heq
        rfl

theorem located_of_newStruct {layout : Layout} {before after : Store}
    (created : View.newStruct before layout = .ok (view, after)) :
    ∃ extent : Buffer, extent.Ends ∧ extent.Holds view.address.toNat layout.size.toNat ∧
      Located extent (.struct layout) view.address.toNat view := by
  obtain ⟨extent, hallocated, rfl⟩ := buffer_eq_ok_iff.mp created
  have hsize := (Store.start_of_allocate hallocated).2.1
  refine ⟨extent, Store.ends_of_allocate hallocated, ?_, rfl, rfl, rfl, rfl⟩
  rw [← hsize]
  exact ⟨Nat.le_refl _, Nat.le_refl _⟩

/-- An instance is a record of its leaves. A walk to a leaf succeeds and stays in the buffer, in whatever
state the store is by then; what was written to the leaf is read from it along every walk; the other leaves
and the padding are as before. -/
theorem newStruct_record {layout : Layout} (built : layout.Built) (fits : layout.exact.size < 2 ^ 64)
    {before after : Store} (created : View.newStruct before layout = .ok (view, after))
    {walk : Walk} {offset : Nat} (leaf : layout.Leaf walk.path offset type) (now : Store) :
    (∃ extent, view.backing = .buffer extent ∧
      extent.Holds (view.address.toNat + offset) type.size.toNat ∧
      ∃ target index, view.arrive now walk = .ok (target, index) ∧ target.backing = .buffer extent ∧
        target.element = type ∧
        (target.elementAddress index).toNat = view.address.toNat + offset) ∧
    view.get now walk =
      .ok (.decode type (now.memory.read (view.address + UInt64.ofNat offset) type.size.toNat)) ∧
    ∀ value : Value, value.fits type = true → ∃ later, view.set now walk value = .ok later ∧
      later.blocks = now.blocks ∧
      (∀ again : Walk, again.path = walk.path → view.get later again = .ok (value.asRead type)) ∧
      (∀ (other : Walk) (place : Nat) (target : CType), other.path ≠ walk.path →
        layout.Leaf other.path place target → view.get later other = view.get now other) ∧
      ∀ n, layout.IsPadding n →
        later.memory.byte (view.address + UInt64.ofNat n) =
          now.memory.byte (view.address + UInt64.ofNat n) := by
  have regular := built.regular fits
  obtain ⟨extent, ends, holds, located⟩ := located_of_newStruct created
  have hlimit : view.address.toNat + layout.size.toNat < 2 ^ 64 := Nat.lt_of_le_of_lt holds.2 ends
  have haddress : ∀ n, view.address + UInt64.ofNat n = UInt64.ofNat (view.address.toNat + n) := by
    intro n
    rw [UInt64.ofNat_add, UInt64.ofNat_toNat]
  have hinside := leaf.inside regular
  refine ⟨?_, ?_, ?_⟩
  · obtain ⟨target, index, harrive, hat⟩ := located.arrive ends holds regular leaf now rfl
    exact ⟨extent, located.backed, leaf_holds holds regular leaf, target, index, harrive,
      hat.backed, hat.element, hat.address⟩
  · rw [haddress]
    exact located.get ends holds regular leaf now rfl
  · intro value hvalue
    have hfits : Value.Fits value type := Value.fits_iff.mp hvalue
    have hlength : value.encode.length = type.size.toNat :=
      Value.length_encode_of_fits hfits leaf.plain_type
    have hplace : (UInt64.ofNat (view.address.toNat + offset)).toNat = view.address.toNat + offset :=
      Word.toNat_ofNat_of_lt (by omega)
    refine ⟨_, located.set ends holds regular leaf now rfl hvalue, rfl, ?_, ?_, ?_⟩
    · intro again hagain
      exact located.get_written ends holds regular leaf now hagain hfits
    · intro other place target hne hother
      exact located.get_of_ne ends holds regular leaf now hother hne.symm hfits
    · intro n hn
      have hpadding := hn.2 walk.path offset type leaf
      have hbyte : (view.address + UInt64.ofNat n).toNat = view.address.toNat + n :=
        Memory.toNat_add_ofNat (by have := hn.1; omega)
      apply Memory.byte_write_of_outside <;> rw [hplace, hlength]
      · omega
      · rw [hbyte]
        omega

end View

namespace Layout

def sample : Layout :=
  ⟨"sample", [⟨"tag", .int .w16 true, 1, 0⟩, ⟨"pairs", .struct samplePair, 3, 4⟩,
    ⟨"weight", .double, 1, 32⟩], 40, 8⟩

theorem sample_built : sample.Built := by
  have computed : compute "sample" sampleSpecs = .ok sample := by rfl
  exact .placed sampleSpecs_built computed

end Layout

/-- The wider number of the third pair, written by one walk and read by another. -/
theorem View.newStruct_record_sample :
    ∃ view after, View.newStruct .empty Layout.sample = .ok (view, after) ∧
      Layout.sample.Leaf [⟨"pairs", 2⟩, ⟨"high", 0⟩] 24 (.int .w32 true) ∧
      ∃ later, view.set after (.enter ⟨"pairs", 2⟩ .read (.last ⟨"high", 0⟩ .move))
          (.scalar (.ofInt .i32 (-2))) = .ok later ∧
        view.get later (.enter ⟨"pairs", 2⟩ .move (.last ⟨"high", 0⟩ .read)) =
          .ok (.scalar (.ofInt .i32 (-2))) := by
  have number : Layout.samplePair.Leaf [⟨"high", 0⟩] 4 (.int .w32 true) :=
    @Layout.Leaf.plain Layout.samplePair ⟨"high", 0⟩ ⟨"high", .int .w32 true, 1, 4⟩ rfl (by decide)
      (fun _ h => (nomatch h))
  have leaf : Layout.sample.Leaf [⟨"pairs", 2⟩, ⟨"high", 0⟩] 24 (.int .w32 true) :=
    @Layout.Leaf.nested Layout.sample Layout.samplePair ⟨"pairs", 2⟩
      ⟨"pairs", .struct Layout.samplePair, 3, 4⟩ [⟨"high", 0⟩] 4 _ rfl (by decide) rfl number
  obtain ⟨view, after, created⟩ :
      ∃ view after, View.newStruct .empty Layout.sample = .ok (view, after) := ⟨_, _, rfl⟩
  obtain ⟨-, -, hset⟩ := newStruct_record Layout.sample_built (by decide) created
    (show Layout.sample.Leaf (Walk.path (.enter ⟨"pairs", 2⟩ .read (.last ⟨"high", 0⟩ .move))) _ _
      from leaf) after
  obtain ⟨later, hlater, -, hget, -, -⟩ := hset (.scalar (.ofInt .i32 (-2))) rfl
  exact ⟨view, after, created, leaf, later, hlater, hget _ rfl⟩

end Foreign
