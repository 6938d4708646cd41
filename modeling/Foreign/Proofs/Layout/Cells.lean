import Mathlib.Data.Nat.Prime.Basic
import Foreign.Proofs.Layout.Wrapping
import Foreign.Proofs.View.Instance

/-!
A struct as the scalars and pointers that it holds in the end, with nested structs and arrays taken apart.
They come in the order of memory and without overlap, and each at a multiple of its own alignment: an
alignment divides every stricter one, so it is enough that a struct starts where its own alignment wants.
-/

namespace Foreign

/-- A scalar or a pointer in its place. -/
structure Cell where
  offset : Nat
  type : CType

def Cell.stop (cell : Cell) : Nat :=
  cell.offset + cell.type.size.toNat

mutual

/-- The cells of a value of the type that starts at `base`. -/
def CType.cells (base : Nat) : CType → List Cell
  | .struct layout => layout.cells base
  | type => [⟨base, type⟩]

def Layout.cells (base : Nat) : Layout → List Cell
  | ⟨_, fields, _, _⟩ => cellsOfFields base fields

def Field.cells (base : Nat) : Field → List Cell
  | ⟨_, type, count, offset⟩ =>
      (List.range count.toNat).flatMap fun index =>
        type.cells (base + offset.toNat + type.stride.toNat * index)

def cellsOfFields (base : Nat) : List Field → List Cell
  | [] => []
  | field :: rest => field.cells base ++ cellsOfFields base rest

end

theorem CType.cells_of_plain {type : CType} (plain : type.IsPlain) (base : Nat) :
    type.cells base = [⟨base, type⟩] := by
  cases type with
  | struct layout => exact absurd rfl (plain layout)
  | void | int _ _ | float | double | pointer _ => rfl

theorem Layout.cells_eq (layout : Layout) (base : Nat) :
    layout.cells base = cellsOfFields base layout.fields := by
  cases layout
  rfl

theorem Field.cells_eq (field : Field) (base : Nat) :
    field.cells base = (List.range field.count.toNat).flatMap fun index =>
      field.type.cells (base + field.offset.toNat + field.type.stride.toNat * index) := by
  cases field
  rfl

/-- Cells from `start` on and before `stop`, one behind the other and each at a multiple of its alignment. -/
structure Tiled (start stop : Nat) (cells : List Cell) : Prop where
  ordered : cells.Pairwise fun cell next => cell.stop ≤ next.offset
  inside : ∀ cell ∈ cells, start ≤ cell.offset ∧ cell.stop ≤ stop
  aligned : ∀ cell ∈ cells, cell.type.align.toNat ∣ cell.offset

namespace Tiled

variable {start middle stop : Nat} {cells later : List Cell}

theorem nil (start stop : Nat) : Tiled start stop [] :=
  ⟨.nil, by simp, by simp⟩

theorem widen (tiled : Tiled start stop cells) {start' stop' : Nat} (hstart : start' ≤ start)
    (hstop : stop ≤ stop') : Tiled start' stop' cells := by
  refine ⟨tiled.ordered, ?_, tiled.aligned⟩
  intro cell mem
  have := tiled.inside cell mem
  omega

theorem append (first : Tiled start middle cells) (second : Tiled middle stop later)
    (hstart : start ≤ middle) (hstop : middle ≤ stop) : Tiled start stop (cells ++ later) := by
  refine ⟨?_, ?_, ?_⟩
  · refine List.pairwise_append.mpr ⟨first.ordered, second.ordered, ?_⟩
    intro cell mem next mem'
    exact Nat.le_trans (first.inside cell mem).2 (second.inside next mem').1
  · exact List.forall_mem_append.mpr
      ⟨(first.widen (Nat.le_refl start) hstop).inside, (second.widen hstart (Nat.le_refl stop)).inside⟩
  · exact List.forall_mem_append.mpr ⟨first.aligned, second.aligned⟩

end Tiled

theorem tiled_of_plain {type : CType} (plain : type.IsPlain) {base : Nat}
    (aligned : type.align.toNat ∣ base) :
    Tiled base (base + type.size.toNat) (type.cells base) := by
  rw [CType.cells_of_plain plain]
  refine ⟨List.pairwise_singleton _ _, ?_, ?_⟩
  · exact List.forall_mem_singleton.mpr ⟨Nat.le_refl _, Nat.le_refl _⟩
  · exact List.forall_mem_singleton.mpr aligned

/-- The elements of an array, by induction on their number. -/
theorem tiled_elements {type : CType}
    (element : ∀ base, type.align.toNat ∣ base →
      Tiled base (base + type.size.toNat) (type.cells base))
    (tight : type.stride.toNat = type.size.toNat) (multiple : type.align.toNat ∣ type.size.toNat)
    {base : Nat} (aligned : type.align.toNat ∣ base) (count : Nat) :
    Tiled base (base + type.stride.toNat * count)
      ((List.range count).flatMap fun index => type.cells (base + type.stride.toNat * index)) := by
  induction count with
  | zero => exact .nil _ _
  | succ count ih =>
      have place : type.align.toNat ∣ base + type.stride.toNat * count :=
        Nat.dvd_add aligned (Dvd.dvd.mul_right (tight ▸ multiple) count)
      have last := element _ place
      rw [← tight] at last
      rw [List.range_succ, List.flatMap_append, List.flatMap_singleton, Nat.mul_succ, ← Nat.add_assoc]
      exact ih.append last (Nat.le_add_right _ _) (Nat.le_add_right _ _)

/-- Of two alignments the weaker divides the stricter. -/
theorem Exact.align_dvd_of_le {a b : Nat} (ha : a ∣ 8) (hb : b ∣ 8) (le : a ≤ b) : a ∣ b := by
  obtain ⟨i, -, rfl⟩ := (Nat.dvd_prime_pow Nat.prime_two).mp (show a ∣ 2 ^ 3 from ha)
  obtain ⟨j, -, rfl⟩ := (Nat.dvd_prime_pow Nat.prime_two).mp (show b ∣ 2 ^ 3 from hb)
  exact Nat.pow_dvd_pow 2 ((Nat.pow_le_pow_iff_right (by decide)).mp le)

theorem Exact.align_le_strictest {members : List Exact.Member} {member : Exact.Member}
    (mem : member ∈ members) : member.type.align ≤ Exact.strictest members := by
  induction members with
  | nil => cases mem
  | cons first rest ih =>
      rw [Exact.strictest]
      cases List.mem_cons.mp mem with
      | inl heq => exact heq ▸ Nat.le_max_left _ _
      | inr hrest => exact Nat.le_trans (ih hrest) (Nat.le_max_right _ _)

namespace Layout

theorem exact_eq_of_fields (layout : Layout) :
    layout.exact = Exact.ofMembers (layout.fields.map Field.member) := by
  rw [exact_eq_ofMembers, member_specs]

theorem align_dvd_of_mem {layout : Layout} {field : Field} (mem : field ∈ layout.fields) :
    field.type.exact.align ∣ layout.exact.align := by
  have le : field.type.exact.align ≤ layout.exact.align := by
    have := Exact.align_le_strictest (List.mem_map_of_mem (f := Field.member) mem)
    rw [field.member_align] at this
    rwa [exact_eq_of_fields]
  exact Exact.align_dvd_of_le field.type.exact_align_dvd layout.exact_align_dvd le

/-- The fields of a struct, by induction over them: `start` is where the fields in front end. -/
theorem tiled_fields {base start : Nat} {fields : List Field} (consecutive : Consecutive start fields)
    (exact : ∀ field ∈ fields, field.type.IsExact)
    (aligned : ∀ field ∈ fields, field.type.align.toNat ∣ base)
    (element : ∀ field ∈ fields, ∀ place, field.type.align.toNat ∣ place →
      Tiled place (place + field.type.size.toNat) (field.type.cells place)) :
    Tiled (base + start) (base + Exact.stop start (fields.map Field.member))
      (cellsOfFields base fields) := by
  induction fields generalizing start with
  | nil => exact .nil _ _
  | cons field rest ih =>
      obtain ⟨hfield, hexact⟩ := List.forall_mem_cons.mp exact
      obtain ⟨hbase, haligned⟩ := List.forall_mem_cons.mp aligned
      obtain ⟨hcells, helement⟩ := List.forall_mem_cons.mp element
      have tight : field.type.stride.toNat = field.type.size.toNat :=
        hfield.toNat_stride.trans hfield.1.symm
      have multiple : field.type.align.toNat ∣ field.type.size.toNat := by
        rw [hfield.1, hfield.2]
        exact field.type.exact_align_dvd_size
      have place : field.type.align.toNat ∣ base + field.offset.toNat :=
        Nat.dvd_add hbase (hfield.2 ▸ consecutive.1.1.1)
      have first := tiled_elements hcells tight multiple place field.count.toNat
      have later := ih consecutive.2 hexact haligned helement
      rw [← member_size_of_isExact hfield, Nat.add_assoc, ← Field.cells_eq] at first
      rw [cellsOfFields, List.map_cons, Exact.stop, ← consecutive.offset_eq]
      have hstart : base + start ≤ base + field.offset.toNat :=
        Nat.add_le_add_left consecutive.1.1.2 base
      have hstop :=
        Exact.start_le_stop (align_pos_of_mem_members rest) (field.offset.toNat + field.member.size)
      exact (first.widen hstart (Nat.le_refl _)).append later (by omega) (by omega)

/-- By induction over the structs within structs. -/
theorem Built.tiled {layout : Layout} (built : layout.Built) (fits : layout.exact.size < 2 ^ 64)
    {base : Nat} (aligned : layout.align.toNat ∣ base) :
    Tiled base (base + layout.size.toNat) (layout.cells base) := by
  induction built generalizing base with
  | @placed name specs layout inner computed ih =>
      have built : layout.Built := .placed inner computed
      obtain ⟨hsize, halign⟩ := built.isExact fits
      have exact := built.exact_fields fits
      have hbase : ∀ field ∈ layout.fields, field.type.align.toNat ∣ base := by
        intro field mem
        rw [(exact field mem).2]
        exact Nat.dvd_trans (align_dvd_of_mem mem) (halign ▸ aligned)
      have element : ∀ field ∈ layout.fields, ∀ place, field.type.align.toNat ∣ place →
          Tiled place (place + field.type.size.toNat) (field.type.cells place) := by
        intro field mem place hplace
        by_cases plain : field.type.IsPlain
        · exact tiled_of_plain plain hplace
        · obtain ⟨nested, hnested⟩ := not_forall_not.mp plain
          have hspec := mem_specs mem
          rw [specs_of_compute computed] at hspec
          have nestedFits := ((built.regular fits).nested field mem nested hnested).2
          rw [hnested] at hplace ⊢
          exact ih _ hspec nested hnested nestedFits hplace
      have tiled := tiled_fields (built.consecutive fits) exact hbase element
      rw [← layout.cells_eq] at tiled
      refine tiled.widen (Nat.le_refl base) (Nat.add_le_add_left ?_ base)
      change _ ≤ (CType.struct layout).size.toNat
      rw [hsize]
      change _ ≤ layout.exact.size
      rw [exact_eq_of_fields]
      exact Exact.le_alignUp _ (Exact.one_le_strictest _)

theorem mem_cellsOfFields {base : Nat} {fields : List Field} {cell : Cell} :
    cell ∈ cellsOfFields base fields ↔ ∃ field ∈ fields, ∃ index : Word,
      index.toNat < field.count.toNat ∧ cell ∈ field.type.cells (base + field.elementOffset index) := by
  have hfield : ∀ field : Field, cell ∈ field.cells base ↔ ∃ index : Word,
      index.toNat < field.count.toNat ∧ cell ∈ field.type.cells (base + field.elementOffset index) := by
    intro field
    rw [field.cells_eq, List.mem_flatMap]
    constructor
    · rintro ⟨index, bound, mem⟩
      have bound := List.mem_range.mp bound
      have hindex : (UInt64.ofNat index).toNat = index :=
        Word.toNat_ofNat_of_lt (Nat.lt_trans bound field.count.toNat_lt)
      refine ⟨UInt64.ofNat index, by rwa [hindex], ?_⟩
      rwa [Field.elementOffset, hindex, ← Nat.add_assoc]
    · rintro ⟨index, bound, mem⟩
      rw [Field.elementOffset, ← Nat.add_assoc] at mem
      exact ⟨index.toNat, List.mem_range.mpr bound, mem⟩
  induction fields with
  | nil => simp [cellsOfFields]
  | cons field rest ih =>
      simp only [cellsOfFields, List.mem_append, hfield, ih, List.exists_mem_cons_iff]

/-- The cells are the places that paths lead to. -/
theorem Built.mem_cells_iff {layout : Layout} (built : layout.Built) {base : Nat} {cell : Cell} :
    cell ∈ layout.cells base ↔
      ∃ path offset, layout.Leaf path offset cell.type ∧ cell.offset = base + offset := by
  induction built generalizing base with
  | @placed name specs layout inner computed ih =>
      have sound : WellFormed layout.specs := specs_of_compute computed ▸ wellFormed_of_compute computed
      rw [layout.cells_eq, mem_cellsOfFields]
      constructor
      · rintro ⟨field, mem, index, bound, hcell⟩
        have found : layout.field? (Hop.mk field.name index).name = some field := sound.field?_of_mem mem
        by_cases plain : field.type.IsPlain
        · rw [CType.cells_of_plain plain, List.mem_singleton] at hcell
          subst hcell
          exact ⟨_, _, .plain found bound plain, rfl⟩
        · obtain ⟨nested, hnested⟩ := not_forall_not.mp plain
          have hspec := mem_specs mem
          rw [specs_of_compute computed] at hspec
          rw [hnested] at hcell
          obtain ⟨path, offset, leaf, heq⟩ := (ih _ hspec nested hnested).mp hcell
          exact ⟨_, _, .nested found bound hnested leaf, by rw [heq, Nat.add_assoc]⟩
      · rintro ⟨path, offset, leaf, heq⟩
        obtain ⟨place, type⟩ := cell
        cases leaf with
        | @plain _ hop field found bound plain =>
            refine ⟨field, (mem_of_field? found).1, hop.index, bound, ?_⟩
            rw [CType.cells_of_plain plain, List.mem_singleton]
            exact congrArg (Cell.mk · _) heq
        | @nested _ nested hop field path offset _ found bound struct rest =>
            have mem := (mem_of_field? found).1
            have hspec := mem_specs mem
            rw [specs_of_compute computed] at hspec
            refine ⟨field, mem, hop.index, bound, ?_⟩
            rw [struct]
            exact (ih _ hspec nested struct).mpr ⟨path, offset, rest, by rw [Nat.add_assoc]; exact heq⟩

end Layout

theorem CType.size_pos {type : CType} (plain : type.IsPlain) (complete : type ≠ .void) :
    0 < type.size.toNat := by
  cases type with
  | void => exact absurd rfl complete
  | struct layout => exact absurd rfl (plain layout)
  | int width _ => cases width <;> exact Nat.succ_pos _
  | float | double | pointer _ => exact Nat.succ_pos _

namespace Store

theorem dvd_nextAddress (store : Store) : blockAlign ∣ store.nextAddress := by
  rw [nextAddress]
  cases store.blocks with
  | nil => decide
  | cons block _ => exact Nat.dvd_mul_left _ _

end Store

theorem View.dvd_address_of_newStruct {layout : Layout} {before after : Store} {view : View}
    (created : View.newStruct before layout = .ok (view, after)) :
    Store.blockAlign ∣ view.address.toNat := by
  obtain ⟨extent, allocated, rfl⟩ := View.buffer_eq_ok_iff.mp created
  rw [show (View.ofBuffer extent (.struct layout)).address = extent.start from rfl,
    (Store.start_of_allocate allocated).1]
  exact before.dvd_nextAddress

namespace Layout

/-- Cells as they ought to lie in a struct of `size` bytes. -/
structure Orderly (size : Nat) (cells : List Cell) : Prop where
  increasing : cells.Pairwise fun cell next => cell.offset < next.offset
  separate : cells.Pairwise fun cell next => cell.stop ≤ next.offset
  inside : ∀ cell ∈ cells, cell.stop ≤ size
  aligned : ∀ cell ∈ cells, cell.type.align.toNat ∣ cell.offset

theorem Built.orderly {layout : Layout} (built : layout.Built) (fits : layout.exact.size < 2 ^ 64) :
    Orderly layout.size.toNat (layout.cells 0) := by
  have tiled := built.tiled fits (Nat.dvd_zero _)
  have positive : ∀ cell ∈ layout.cells 0, cell.offset < cell.stop := by
    intro cell mem
    obtain ⟨path, offset, leaf, -⟩ := built.mem_cells_iff.mp mem
    exact Nat.lt_add_of_pos_right (CType.size_pos leaf.plain_type (leaf.complete (built.regular fits)))
  refine ⟨tiled.ordered.imp_of_mem ?_, tiled.ordered, ?_, tiled.aligned⟩
  · intro cell next mem _ hle
    exact Nat.lt_of_lt_of_le (positive cell mem) hle
  · intro cell mem
    have := (tiled.inside cell mem).2
    rwa [Nat.zero_add] at this

/-- Sizes are multiples of alignments, and these are powers of two up to eight. So the cells of a struct, which
are all that paths in it lead to, lie in order and each at a multiple of its alignment, and so do they in an
instance, where any walk to a cell arrives at its address. -/
theorem cells_aligned :
    (∀ type : CType, type.Built → (∃ k, type.align.toNat = 2 ^ k) ∧ type.align.toNat ∣ 8 ∧
      type.align.toNat ∣ type.size.toNat ∧ type.stride = type.size) ∧
    ∀ layout : Layout, layout.Built → layout.exact.size < 2 ^ 64 →
      (∀ offset type, ⟨offset, type⟩ ∈ layout.cells 0 ↔ ∃ path, layout.Leaf path offset type) ∧
      Orderly layout.size.toNat (layout.cells 0) ∧
      ∀ before view after, View.newStruct before layout = .ok (view, after) →
        ∀ cell ∈ layout.cells 0, cell.type.align.toNat ∣ view.address.toNat + cell.offset ∧
          ∀ (walk : Walk) (now : Store), layout.Leaf walk.path cell.offset cell.type →
            ∃ target index, view.arrive now walk = .ok (target, index) ∧ target.element = cell.type ∧
              (target.elementAddress index).toNat = view.address.toNat + cell.offset := by
  refine ⟨?_, ?_⟩
  · intro type built
    have aligned := built.aligned
    obtain ⟨k, -, hk⟩ := (Nat.dvd_prime_pow Nat.prime_two).mp (show _ ∣ 2 ^ 3 from aligned.eight)
    exact ⟨⟨k, hk⟩, aligned.eight, aligned.multiple, UInt64.toNat_inj.mp aligned.toNat_stride⟩
  · intro layout built fits
    have orderly := built.orderly fits
    refine ⟨?_, orderly, ?_⟩
    · intro offset type
      rw [built.mem_cells_iff]
      simp
    · intro before view after created cell mem
      obtain ⟨path, offset, leaf, -⟩ := built.mem_cells_iff.mp mem
      have eight := (CType.aligned_of_not_struct leaf.plain_type).eight
      have sixteen : cell.type.align.toNat ∣ Store.blockAlign := Nat.dvd_trans eight (by decide)
      refine ⟨?_, ?_⟩
      · exact Nat.dvd_add (Nat.dvd_trans sixteen (View.dvd_address_of_newStruct created))
          (orderly.aligned cell mem)
      · intro walk now along
        obtain ⟨extent, ends, holds, located⟩ := View.located_of_newStruct created
        obtain ⟨target, index, arrived, at_⟩ :=
          located.arrive ends holds (built.regular fits) along now rfl
        exact ⟨target, index, arrived, at_.element, at_.address⟩

/-- A number, three pairs and a wider number: eight cells, in an instance at an address of its own. -/
theorem cells_aligned_sample :
    (CType.struct sample).Built ∧ sample.exact.size < 2 ^ 64 ∧
      (CType.struct sample).stride = (CType.struct sample).size ∧
      (sample.cells 0).map Cell.offset = [0, 4, 8, 12, 16, 20, 24, 32] ∧
      Orderly 40 (sample.cells 0) ∧
      ∃ view after, View.newStruct .empty sample = .ok (view, after) ∧
        ∀ cell ∈ sample.cells 0, cell.type.align.toNat ∣ view.address.toNat + cell.offset := by
  have built : (CType.struct sample).Built := fun _ h => CType.struct.inj h ▸ sample_built
  have fits : sample.exact.size < 2 ^ 64 := by decide
  obtain ⟨-, -, -, stride⟩ := cells_aligned.1 (.struct sample) built
  obtain ⟨-, orderly, aligned⟩ := cells_aligned.2 sample sample_built fits
  obtain ⟨view, after, created⟩ :
      ∃ view after, View.newStruct .empty sample = .ok (view, after) := ⟨_, _, rfl⟩
  exact ⟨built, fits, stride, rfl, orderly, view, after, created,
    fun cell mem => (aligned .empty view after created cell mem).1⟩

end Layout
end Foreign
