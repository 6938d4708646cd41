import Foreign.Proofs.Call.Registers

/-!
What one argument has to do with the places of the others. Placing an argument reads the convention and the
count of one kind of registers, and changes that count at most. So two runs whose counts of one kind agree
place the next argument of that kind alike, and an argument of the other kind leaves them in agreement; an
argument that goes to the stack leaves everything as it was.
-/

namespace Foreign

namespace Convention

/-- Arguments of the type get registers of the floats' own. -/
def countsFloat (convention : Convention) (type : CType) : Bool :=
  type.isFloat && convention.hasFloatRegisters

/-- The types whose arguments get registers of one kind. -/
def ofKind (convention : Convention) (floats : Bool) (types : List CType) : List CType :=
  types.filter fun type => convention.countsFloat type == floats

/-- The shapes of the arguments that get registers of one kind. -/
def shapesOfKind (convention : Convention) (floats : Bool) (types : List CType) (shapes : List Shape) :
    List Shape :=
  ((types.zip shapes).filter fun argument => convention.countsFloat argument.1 == floats).map (·.2)

theorem ofKind_cons (convention : Convention) (floats : Bool) (type : CType) (types : List CType) :
    convention.ofKind floats (type :: types) =
      if convention.countsFloat type = floats then type :: convention.ofKind floats types
      else convention.ofKind floats types := by
  simp only [ofKind, List.filter_cons, beq_iff_eq]

theorem shapesOfKind_cons (convention : Convention) (floats : Bool) (type : CType) (types : List CType)
    (shape : Shape) (shapes : List Shape) :
    convention.shapesOfKind floats (type :: types) (shape :: shapes) =
      if convention.countsFloat type = floats then shape :: convention.shapesOfKind floats types shapes
      else convention.shapesOfKind floats types shapes := by
  simp only [shapesOfKind, List.zip_cons_cons, List.filter_cons, beq_iff_eq]
  split <;> rfl

end Convention

namespace RegisterFile

variable {file other after last : RegisterFile} {floats isFloat : Bool}
  {count : Word} {type : CType} {types : List CType} {shape : Shape} {shapes : List Shape}

/-- All that the placing of arguments of one kind reads of a file. -/
def share (file : RegisterFile) (floats : Bool) : Convention × Word :=
  (file.convention, if floats then file.floats else file.integers)

theorem share_eq_iff :
    other.share (file.countsFloat isFloat) = file.share (file.countsFloat isFloat) ↔
      other.convention = file.convention ∧ other.taken isFloat = file.taken isFloat := by
  rw [share, share, Prod.mk.injEq]
  refine and_congr_right fun same => ?_
  rw [taken, taken, countsFloat, countsFloat, same]

theorem canTake_of_share
    (agree : other.share (file.countsFloat isFloat) = file.share (file.countsFloat isFloat)) :
    other.canTake isFloat count = file.canTake isFloat count := by
  obtain ⟨hconvention, htaken⟩ := share_eq_iff.mp agree
  rw [canTake, canTake, htaken, hconvention]

theorem take_of_share
    (agree : other.share (file.countsFloat isFloat) = file.share (file.countsFloat isFloat))
    (htake : file.take isFloat count = .ok after) :
    ∃ next, other.take isFloat count = .ok next ∧
      next.share (file.countsFloat isFloat) = after.share (file.countsFloat isFloat) := by
  obtain ⟨hconvention, htaken⟩ := share_eq_iff.mp agree
  obtain ⟨total, hsum, ⟨⟩⟩ := Outcome.bind_eq_ok_iff.mp htake
  have hcounts : other.countsFloat isFloat = file.countsFloat isFloat := by
    rw [countsFloat, countsFloat, hconvention]
  rw [take, htaken, hsum, Outcome.ok_bind, hcounts]
  refine ⟨_, rfl, ?_⟩
  cases file.countsFloat isFloat with
  | false => exact congrArg (·, total) hconvention
  | true => exact congrArg (·, total) hconvention

/-- Files that agree on the registers that an argument gets give it the same shape, and agree on them
again. -/
theorem classify_of_share
    (agree : other.share (file.countsFloat type.isFloat) = file.share (file.countsFloat type.isFloat))
    (hclassify : file.classify type = .ok (shape, after)) :
    ∃ next, other.classify type = .ok (shape, next) ∧
      next.share (file.countsFloat type.isFloat) = after.share (file.countsFloat type.isFloat) := by
  have hfloat := isFloat_classOf file.convention type
  have hconvention := (share_eq_iff.mp agree).1
  rw [classify] at hclassify ⊢
  rw [hconvention]
  generalize classOf file.convention type = classes at hfloat hclassify ⊢
  obtain ⟨argumentClass, byReference⟩ := classes
  dsimp only at hfloat hclassify ⊢
  rw [hfloat] at hclassify ⊢
  rw [canTake_of_share agree]
  split at hclassify
  · rename_i eligible
    rw [if_pos eligible]
    obtain ⟨free, hfree, placed⟩ := Outcome.bind_eq_ok_iff.mp hclassify
    rw [hfree, Outcome.ok_bind]
    cases free with
    | false =>
        cases placed
        exact ⟨other, rfl, agree⟩
    | true =>
        obtain ⟨_, htake, ⟨⟩⟩ := Outcome.bind_eq_ok_iff.mp placed
        obtain ⟨next, hnext, again⟩ := take_of_share agree htake
        rw [if_pos rfl, hnext]
        exact ⟨next, rfl, again⟩
  · rename_i ineligible
    rw [if_neg ineligible]
    cases hclassify
    exact ⟨other, rfl, agree⟩

theorem unchanged_or_charged (hclassify : file.classify type = .ok (shape, after)) :
    after = file ∨ file.Charged after type.isFloat (file.convention.demand type) := by
  have classified := file.classified type
  rw [hclassify] at classified
  cases classified with
  | stack => exact .inl rfl
  | register _ _ _ charged => exact .inr charged

theorem convention_of_classify (hclassify : file.classify type = .ok (shape, after)) :
    after.convention = file.convention := by
  rcases unchanged_or_charged hclassify with rfl | charged
  · rfl
  · exact charged.convention

/-- An argument of one kind leaves the registers of the other as they were. -/
theorem share_of_classify (hclassify : file.classify type = .ok (shape, after))
    (foreign : file.countsFloat type.isFloat ≠ floats) : after.share floats = file.share floats := by
  rcases unchanged_or_charged hclassify with rfl | charged
  · rfl
  · refine Prod.ext charged.convention (UInt64.toNat_inj.mp ?_)
    cases floats with
    | false =>
        have integers := charged.integers
        rwa [if_pos (Bool.of_not_eq_false foreign)] at integers
    | true =>
        have hfloats := charged.floats
        rwa [if_neg foreign] at hfloats

theorem classifyAll_cons_eq_ok_iff :
    file.classifyAll (type :: types) = .ok (shapes, last) ↔
      ∃ shape after rest, file.classify type = .ok (shape, after) ∧
        after.classifyAll types = .ok (rest, last) ∧ shapes = shape :: rest := by
  simp only [classifyAll, Outcome.bind_eq_ok_iff, Prod.exists]
  constructor
  · rintro ⟨shape, after, hclassify, rest, final, hrest, ⟨⟩⟩
    exact ⟨shape, after, rest, hclassify, hrest, rfl⟩
  · rintro ⟨shape, after, rest, hclassify, hrest, rfl⟩
    exact ⟨shape, after, hclassify, rest, last, hrest, rfl⟩

/-- Later arguments have no part in the shapes of earlier ones. -/
theorem classifyAll_take (h : file.classifyAll types = .ok (shapes, last)) (count : Nat) :
    ∃ final, file.classifyAll (types.take count) = .ok (shapes.take count, final) := by
  induction types generalizing file shapes count with
  | nil =>
      cases h
      rw [List.take_nil, List.take_nil]
      exact ⟨_, rfl⟩
  | cons type types ih =>
      obtain ⟨shape, after, rest, hclassify, hrest, rfl⟩ := classifyAll_cons_eq_ok_iff.mp h
      cases count with
      | zero => exact ⟨file, rfl⟩
      | succ count =>
          obtain ⟨final, hfinal⟩ := ih hrest count
          exact ⟨final, classifyAll_cons_eq_ok_iff.mpr ⟨shape, after, _, hclassify, hfinal, rfl⟩⟩

/-- An argument on the stack can be taken away, and the rest of the run is as it was. -/
theorem classifyAll_eraseIdx (h : file.classifyAll types = .ok (shapes, last)) {index : Nat}
    (found : shapes[index]? = some shape) (placed : shape.placement = .stack) :
    file.classifyAll (types.eraseIdx index) = .ok (shapes.eraseIdx index, last) := by
  induction types generalizing file shapes index with
  | nil =>
      cases h
      cases found
  | cons type types ih =>
      obtain ⟨own, after, rest, hclassify, hrest, rfl⟩ := classifyAll_cons_eq_ok_iff.mp h
      cases index with
      | zero =>
          cases found
          cases (accounts _).kept type _ after hclassify placed
          exact hrest
      | succ index =>
          exact classifyAll_cons_eq_ok_iff.mpr ⟨own, after, _, hclassify, ih hrest found, rfl⟩

/-- The arguments that get registers of one kind are placed alike by themselves, and from any file that
agrees on that kind. The induction carries the agreement: an argument of the kind keeps it when both runs
place it, and one of the other kind when only the longer run does. -/
theorem classifyAll_ofKind (h : file.classifyAll types = .ok (shapes, last))
    (agree : other.share floats = file.share floats) :
    ∃ final, other.classifyAll (file.convention.ofKind floats types) =
      .ok (file.convention.shapesOfKind floats types shapes, final) := by
  induction types generalizing file other shapes with
  | nil => exact ⟨other, rfl⟩
  | cons type types ih =>
      obtain ⟨shape, after, rest, hclassify, hrest, rfl⟩ := classifyAll_cons_eq_ok_iff.mp h
      rw [Convention.ofKind_cons, Convention.shapesOfKind_cons, ← convention_of_classify hclassify]
      split
      · rename_i own
        rw [convention_of_classify hclassify] at own
        subst own
        obtain ⟨next, hnext, again⟩ := classify_of_share agree hclassify
        obtain ⟨final, hfinal⟩ := ih hrest again
        exact ⟨final, classifyAll_cons_eq_ok_iff.mpr ⟨shape, next, _, hnext, hfinal, rfl⟩⟩
      · rename_i foreign
        rw [convention_of_classify hclassify] at foreign
        exact ih hrest (agree.trans (share_of_classify hclassify foreign).symm)

theorem length_of_classifyAll (h : file.classifyAll types = .ok (shapes, last)) :
    shapes.length = types.length := by
  induction types generalizing file shapes with
  | nil =>
      cases h
      rfl
  | cons type types ih =>
      obtain ⟨shape, after, rest, -, hrest, rfl⟩ := classifyAll_cons_eq_ok_iff.mp h
      exact congrArg (· + 1) (ih hrest)

end RegisterFile

namespace Convention

variable {convention : Convention} {types others : List CType} {shapes found : List Shape}

theorem shapes_eq_ok_iff :
    convention.shapes types = .ok shapes ↔
      ∃ last, (RegisterFile.fresh convention).classifyAll types = .ok (shapes, last) := by
  simp only [Convention.shapes, Outcome.bind_eq_ok_iff, Prod.exists]
  constructor
  · rintro ⟨_, last, h, ⟨⟩⟩
    exact ⟨last, h⟩
  · rintro ⟨last, h⟩
    exact ⟨shapes, last, h, rfl⟩

/-- The arguments that get registers of one kind have by themselves the shapes that they have among the
others. -/
theorem shapes_ofKind (h : convention.shapes types = .ok shapes) (floats : Bool) :
    convention.shapes (convention.ofKind floats types) =
      .ok (convention.shapesOfKind floats types shapes) := by
  obtain ⟨last, hall⟩ := shapes_eq_ok_iff.mp h
  exact shapes_eq_ok_iff.mpr (RegisterFile.classifyAll_ofKind hall rfl)

/-- What the shapes of arguments do not depend on: on what comes later, on what goes to the stack, and on
what gets registers of the other kind. -/
structure Independent (convention : Convention) (types : List CType) (shapes : List Shape) : Prop where
  length : shapes.length = types.length
  earlier : ∀ count, convention.shapes (types.take count) = .ok (shapes.take count)
  stacked : ∀ index shape, shapes[index]? = some shape → shape.placement = .stack →
    convention.shapes (types.eraseIdx index) = .ok (shapes.eraseIdx index)
  separate : convention.hasFloatRegisters = true → ∀ floats,
    convention.shapes (types.filter (·.isFloat == floats)) =
      .ok (((types.zip shapes).filter (·.1.isFloat == floats)).map (·.2))
  alike : ∀ floats others found, convention.ofKind floats others = convention.ofKind floats types →
    convention.shapes others = .ok found →
    convention.shapesOfKind floats others found = convention.shapesOfKind floats types shapes

/-- An argument has a part in the shapes of later arguments only, and only of those that get registers of
the same kind; and none in any if it goes to the stack. -/
theorem shapes_independent (convention : Convention) (types : List CType) :
    ∃ shapes, convention.shapes types = .ok shapes ∧ convention.Independent types shapes := by
  obtain ⟨shapes, hshapes⟩ := convention.exists_shapes types
  obtain ⟨last, hall⟩ := shapes_eq_ok_iff.mp hshapes
  refine ⟨shapes, hshapes, RegisterFile.length_of_classifyAll hall, fun count => ?_, ?_, ?_, ?_⟩
  · exact shapes_eq_ok_iff.mpr (RegisterFile.classifyAll_take hall count)
  · intro index shape found placed
    exact shapes_eq_ok_iff.mpr ⟨last, RegisterFile.classifyAll_eraseIdx hall found placed⟩
  · intro hasFloats floats
    have counts : ∀ type : CType, convention.countsFloat type = type.isFloat := fun type => by
      rw [countsFloat, hasFloats, Bool.and_true]
    have alone := shapes_ofKind hshapes floats
    simpa only [ofKind, shapesOfKind, counts] using alone
  · intro floats others found same hfound
    have alone := shapes_ofKind hfound floats
    rw [same, shapes_ofKind hshapes floats] at alone
    exact (Except.ok.inj alone).symm

/-- Too large for registers wherever the size decides. -/
def sampleRow : CType :=
  .struct ⟨"row", [⟨"cells", .int .w64 true, 5, 0⟩], 40, 8⟩

/-- The row stays out of the registers, and what is behind it is placed as if it were not there. -/
theorem shapes_independent_row :
    sysV.shapes [sampleRow, .int .long true, .double] =
        .ok [⟨.aggregate, 5, .stack, false⟩, ⟨.integer, 1, .register, false⟩,
          ⟨.float, 1, .register, false⟩] ∧
      sysV.shapes [.int .long true, .double] =
        .ok [⟨.integer, 1, .register, false⟩, ⟨.float, 1, .register, false⟩] ∧
      sysV.shapes [.double] = .ok [⟨.float, 1, .register, false⟩] := by
  obtain ⟨shapes, hshapes, independent⟩ := sysV.shapes_independent [sampleRow, .int .long true, .double]
  have known : sysV.shapes [sampleRow, .int .long true, .double] =
      .ok [⟨.aggregate, 5, .stack, false⟩, ⟨.integer, 1, .register, false⟩,
        ⟨.float, 1, .register, false⟩] := by
    rfl
  obtain rfl := Except.ok.inj (hshapes.symm.trans known)
  exact ⟨hshapes, independent.stacked 0 _ rfl rfl, independent.separate rfl true⟩

end Convention
end Foreign
