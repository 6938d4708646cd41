import Foreign.Call.Convention
import Foreign.Proofs.Word

/-!
Which arguments get registers. Placing an argument comes to one of three things, decided by the registers
that are taken already and those that it asks for: it gets all that it asks for, it goes to the stack and
takes none, or the two numbers have no sum in a word. The rest follows for every run of placing arguments
and taking registers by hand. Where nothing is taken by hand the counts stay small, and the third thing
never happens.
-/

namespace Foreign

/-- A value takes as many words as its bytes fill, the last of them perhaps in part. -/
theorem CType.toNat_words (type : CType) : type.words.toNat = max 1 ((type.size.toNat + 7) / 8) := by
  have hsize := type.size.toNat_lt
  have hdiv : (type.size / 8).toNat = type.size.toNat / 8 := UInt64.toNat_div ..
  have hmod : (type.size % 8).toNat = type.size.toNat % 8 := UInt64.toNat_mod ..
  have hrest : (if type.size % 8 = 0 then 0 else 1 : Word).toNat =
      if type.size.toNat % 8 = 0 then 0 else 1 := by
    simp only [← UInt64.toNat_inj, hmod, UInt64.toNat_zero]
    split <;> rfl
  have hceil : (type.size / 8 + if type.size % 8 = 0 then 0 else 1).toNat =
      (type.size.toNat + 7) / 8 := by
    rw [Word.toNat_add_of_lt, hdiv, hrest] <;> rw [hdiv, hrest] at * <;> split <;> omega
  rw [words, Word.toNat_max, hceil, UInt64.toNat_one]

namespace Convention

/-- Arguments of the type may travel in registers: all do but the aggregates that neither travel by
reference nor are small enough. -/
def Admits (convention : Convention) (type : CType) : Prop :=
  ∀ layout, type = .struct layout →
    convention.passesByReference layout.size = true ∨ layout.size ≤ convention.largestInRegisters

/-- Registers that an argument of the type asks for. -/
def demand (convention : Convention) : CType → Nat
  | .float | .double => 1
  | .struct layout =>
      if convention.passesByReference layout.size then 1 else (CType.struct layout).words.toNat
  | type => type.words.toNat

theorem demand_le (convention : Convention) (type : CType) : convention.demand type ≤ 2 ^ 61 := by
  have hwords : type.words.toNat ≤ 2 ^ 61 := by
    have hsize := type.size.toNat_lt
    rw [type.toNat_words]
    omega
  cases type with
  | float | double => exact Nat.one_le_two_pow
  | void | int _ _ | pointer _ => exact hwords
  | struct layout =>
      rw [demand]
      split
      · exact Nat.one_le_two_pow
      · exact hwords

theorem registers_le (convention : Convention) : convention.registers.toNat ≤ 8 := by
  cases convention <;> decide

end Convention

namespace RegisterFile

theorem isFloat_classOf (convention : Convention) (type : CType) :
    ((classOf convention type).1 == .float) = type.isFloat := by
  cases type <;> rfl

theorem toNat_need (convention : Convention) (type : CType) :
    (need type (classOf convention type).1 (classOf convention type).2).toNat =
      convention.demand type := by
  cases type with
  | struct layout =>
      rw [classOf, need, Convention.demand]
      split <;> rfl
  | void | int _ _ | float | double | pointer _ => rfl

theorem eligible_iff (convention : Convention) (type : CType) :
    eligible convention type (classOf convention type).1 (classOf convention type).2 = true ↔
      convention.Admits type := by
  cases type with
  | struct layout =>
      have hadmits : convention.Admits (.struct layout) ↔
          convention.passesByReference layout.size = true ∨
            layout.size ≤ convention.largestInRegisters := by
        simp [Convention.Admits]
      rw [hadmits, eligible, classOf, Bool.or_eq_true, decide_eq_true_iff]
      rfl
  | void | int _ _ | float | double | pointer _ => simp [classOf, eligible, Convention.Admits]

/-- The registers in use of those that arguments of the type get. -/
def used (file : RegisterFile) (type : CType) : Nat :=
  (file.taken type.isFloat).toNat

/-- `count` more registers are in use, of the floats' own where there are such and it is for a float. -/
structure Charged (file after : RegisterFile) (isFloat : Bool) (count : Nat) : Prop where
  convention : after.convention = file.convention
  integers : after.integers.toNat = file.integers.toNat + if file.countsFloat isFloat then 0 else count
  floats : after.floats.toNat = file.floats.toNat + if file.countsFloat isFloat then count else 0

theorem take_of_lt {file : RegisterFile} {isFloat : Bool} {count : Word}
    (room : (file.taken isFloat).toNat + count.toNat < 2 ^ 64) :
    ∃ after, file.take isFloat count = .ok after ∧ file.Charged after isFloat count.toNat := by
  rw [take, Outcome.sum_of_lt room]
  refine ⟨_, rfl, ?_⟩
  rw [taken] at room ⊢
  split
  · rename_i h
    rw [if_pos h] at room
    exact ⟨rfl, by simp [h], by simp [h, Word.toNat_add_of_lt room]⟩
  · rename_i h
    rw [if_neg h] at room
    exact ⟨rfl, by simp [h, Word.toNat_add_of_lt room], by simp [h]⟩

theorem take_of_le {file : RegisterFile} {isFloat : Bool} {count : Word}
    (wraps : 2 ^ 64 ≤ (file.taken isFloat).toNat + count.toNat) :
    file.take isFloat count = .error (.fault .addOverflow) := by
  rw [take, Outcome.sum_of_le wraps]
  rfl

theorem canTake_of_lt {file : RegisterFile} {isFloat : Bool} {count : Word}
    (room : (file.taken isFloat).toNat + count.toNat < 2 ^ 64) :
    file.canTake isFloat count =
      .ok (decide ((file.taken isFloat).toNat + count.toNat ≤ file.convention.registers.toNat)) := by
  rw [canTake, Outcome.sum_of_lt room, Outcome.ok_bind]
  simp only [UInt64.le_iff_toNat_le, Word.toNat_add_of_lt room]
  rfl

theorem canTake_of_le {file : RegisterFile} {isFloat : Bool} {count : Word}
    (wraps : 2 ^ 64 ≤ (file.taken isFloat).toNat + count.toNat) :
    file.canTake isFloat count = .error (.fault .addOverflow) := by
  rw [canTake, Outcome.sum_of_le wraps]
  rfl

/-- What placing an argument can come to. -/
inductive Classified (file : RegisterFile) (type : CType) : Outcome (Shape × RegisterFile) → Prop
  | register {shape : Shape} {after : RegisterFile} (admitted : file.convention.Admits type)
      (room : file.used type + file.convention.demand type ≤ file.convention.registers.toNat)
      (placed : shape.placement = .register)
      (charged : file.Charged after type.isFloat (file.convention.demand type)) :
      Classified file type (.ok (shape, after))
  | stack {shape : Shape}
      (full : file.convention.Admits type →
        file.convention.registers.toNat < file.used type + file.convention.demand type ∧
          file.used type + file.convention.demand type < 2 ^ 64)
      (placed : shape.placement = .stack) : Classified file type (.ok (shape, file))
  | overflow (admitted : file.convention.Admits type)
      (wraps : 2 ^ 64 ≤ file.used type + file.convention.demand type) :
      Classified file type (.error (.fault .addOverflow))

theorem classified (file : RegisterFile) (type : CType) : file.Classified type (file.classify type) := by
  have hfloat := isFloat_classOf file.convention type
  have hneed := toNat_need file.convention type
  have heligible := eligible_iff file.convention type
  rw [classify]
  generalize classOf file.convention type = classes at hfloat hneed heligible ⊢
  obtain ⟨argumentClass, byReference⟩ := classes
  dsimp only at hfloat hneed heligible ⊢
  rw [hfloat]
  by_cases admitted : file.convention.Admits type
  · rw [if_pos (heligible.mpr admitted)]
    by_cases room : file.used type + file.convention.demand type < 2 ^ 64
    · rw [used, ← hneed] at room
      rw [canTake_of_lt room, Outcome.ok_bind]
      by_cases free : file.used type + file.convention.demand type ≤ file.convention.registers.toNat
      · obtain ⟨after, htake, charged⟩ := take_of_lt room
        rw [used, ← hneed] at free
        rw [decide_eq_true free, if_pos rfl, htake]
        rw [hneed] at charged free
        exact .register admitted free rfl charged
      · rw [used, ← hneed] at free
        rw [decide_eq_false free, if_neg Bool.false_ne_true]
        rw [hneed] at free room
        exact .stack (fun _ => ⟨Nat.lt_of_not_le free, room⟩) rfl
    · have wraps := Nat.le_of_not_lt room
      rw [used, ← hneed] at wraps
      rw [canTake_of_le wraps, Outcome.error_bind]
      exact .overflow admitted (Nat.le_of_not_lt room)
  · rw [if_neg (mt heligible.mp admitted)]
    exact .stack (fun h => absurd h admitted) rfl

/-- The argument gets registers. -/
def Places (file : RegisterFile) (type : CType) : Prop :=
  ∃ shape after, file.classify type = .ok (shape, after) ∧ shape.placement = .register

theorem places_iff (file : RegisterFile) (type : CType) :
    file.Places type ↔ file.convention.Admits type ∧
      file.used type + file.convention.demand type ≤ file.convention.registers.toNat := by
  have limit := file.convention.registers_le
  rw [Places]
  generalize file.classify type = outcome, file.classified type = classified
  cases classified with
  | register admitted room placed charged => simp [placed, admitted, room]
  | stack full placed =>
      constructor
      · rintro ⟨shape, after, heq, hplacement⟩
        cases heq
        cases placed.symm.trans hplacement
      · rintro ⟨admitted, room⟩
        exact absurd room (Nat.not_le_of_lt (full admitted).1)
  | overflow admitted wraps =>
      constructor
      · rintro ⟨shape, after, heq, -⟩
        cases heq
      · rintro ⟨-, room⟩
        omega

/-- What an allocator of registers is asked to do. -/
inductive Request where
  | place (type : CType)
  | take (isFloat : Bool) (count : Word)

/-- The registers in use after a request. One that fails changes nothing. -/
def serve (file : RegisterFile) : Request → RegisterFile
  | .place type => ((file.classify type).toOption.map (·.2)).getD file
  | .take isFloat count => (file.take isFloat count).toOption.getD file

def serveAll (file : RegisterFile) (requests : List Request) : RegisterFile :=
  requests.foldl serve file

/-- The file, or the file with more registers in use. -/
structure Grows (file after : RegisterFile) : Prop where
  convention : after.convention = file.convention
  integers : file.integers.toNat ≤ after.integers.toNat
  floats : file.floats.toNat ≤ after.floats.toNat

theorem Grows.refl (file : RegisterFile) : file.Grows file :=
  ⟨rfl, Nat.le_refl _, Nat.le_refl _⟩

theorem Grows.trans {file next after : RegisterFile} (first : file.Grows next)
    (second : next.Grows after) : file.Grows after :=
  ⟨second.convention.trans first.convention, Nat.le_trans first.integers second.integers,
    Nat.le_trans first.floats second.floats⟩

theorem Charged.grows {file after : RegisterFile} {isFloat : Bool} {count : Nat}
    (charged : file.Charged after isFloat count) : file.Grows after := by
  refine ⟨charged.convention, ?_, ?_⟩
  · rw [charged.integers]
    exact Nat.le_add_right _ _
  · rw [charged.floats]
    exact Nat.le_add_right _ _

theorem grows_serve (file : RegisterFile) (request : Request) : file.Grows (file.serve request) := by
  cases request with
  | place type =>
      rw [serve]
      generalize file.classify type = outcome, file.classified type = classified
      cases classified with
      | register _ _ _ charged => exact charged.grows
      | stack | overflow => exact .refl file
  | take isFloat count =>
      rw [serve]
      by_cases room : (file.taken isFloat).toNat + count.toNat < 2 ^ 64
      · obtain ⟨after, htake, charged⟩ := take_of_lt room
        rw [htake]
        exact charged.grows
      · rw [take_of_le (Nat.le_of_not_lt room)]
        exact .refl file

theorem grows_serveAll (file : RegisterFile) (requests : List Request) :
    file.Grows (file.serveAll requests) := by
  induction requests generalizing file with
  | nil => exact .refl file
  | cons request rest ih => exact (file.grows_serve request).trans (ih (file.serve request))

theorem Grows.used_le {file after : RegisterFile} (grows : file.Grows after) {type next : CType}
    (same : file.countsFloat next.isFloat = file.countsFloat type.isFloat) :
    file.used type ≤ after.used next := by
  have hcounts : after.countsFloat next.isFloat = file.countsFloat type.isFloat := by
    rw [← same, countsFloat, countsFloat, grows.convention]
  rw [used, used, taken, taken, hcounts]
  split
  · exact grows.floats
  · exact grows.integers

/-- No more registers are in use than there are. -/
structure Bounded (file : RegisterFile) : Prop where
  integers : file.integers.toNat ≤ file.convention.registers.toNat
  floats : file.floats.toNat ≤ file.convention.registers.toNat

theorem Bounded.used_le {file : RegisterFile} (bounded : file.Bounded) (type : CType) :
    file.used type ≤ file.convention.registers.toNat := by
  rw [used, taken]
  split
  · exact bounded.floats
  · exact bounded.integers

/-- While no more are in use than there are, every argument is placed. -/
theorem Bounded.classify {file : RegisterFile} (bounded : file.Bounded) (type : CType) :
    ∃ shape after, file.classify type = .ok (shape, after) ∧ after.Bounded := by
  generalize file.classify type = outcome, file.classified type = classified
  cases classified with
  | @register shape after admitted room placed charged =>
      refine ⟨shape, after, rfl, ?_, ?_⟩
      · rw [charged.integers, charged.convention]
        split
        · exact bounded.integers
        · rename_i h
          rwa [used, taken, if_neg h] at room
      · rw [charged.floats, charged.convention]
        split
        · rename_i h
          rwa [used, taken, if_pos h] at room
        · exact bounded.floats
  | @stack shape full placed => exact ⟨shape, file, rfl, bounded⟩
  | overflow admitted wraps =>
      have := bounded.used_le type
      have := file.convention.demand_le type
      have := file.convention.registers_le
      omega

theorem Bounded.classifyAll {file : RegisterFile} (bounded : file.Bounded) (types : List CType) :
    ∃ shapes, file.classifyAll types = .ok (shapes, file.serveAll (types.map .place)) ∧
      (file.serveAll (types.map .place)).Bounded := by
  induction types generalizing file with
  | nil => exact ⟨[], rfl, bounded⟩
  | cons type rest ih =>
      obtain ⟨shape, after, hclassify, hafter⟩ := bounded.classify type
      obtain ⟨shapes, hrest, hbounded⟩ := ih hafter
      have hserve : file.serve (.place type) = after := by rw [serve, hclassify]; rfl
      rw [List.map_cons, serveAll, List.foldl_cons, hserve, ← serveAll]
      refine ⟨shape :: shapes, ?_, hbounded⟩
      rw [RegisterFile.classifyAll, hclassify, Outcome.ok_bind]
      dsimp only
      rw [hrest]
      rfl

theorem bounded_fresh (convention : Convention) : (fresh convention).Bounded :=
  ⟨Nat.zero_le _, Nat.zero_le _⟩

end RegisterFile

theorem Convention.exists_shapes (convention : Convention) (types : List CType) :
    ∃ shapes, convention.shapes types = .ok shapes := by
  obtain ⟨shapes, hshapes, -⟩ := (RegisterFile.bounded_fresh convention).classifyAll types
  rw [Convention.shapes, hshapes]
  exact ⟨shapes, rfl⟩

namespace RegisterFile

/-- How the next argument is placed, and what placing it, or taking registers by hand, does to those in
use. Once an argument that may have registers is refused them, so is every later one that asks for as many
of the same kind. -/
structure Accounts (file : RegisterFile) : Prop where
  placed : ∀ type, file.Places type ↔ file.convention.Admits type ∧
    file.used type + file.convention.demand type ≤ file.convention.registers.toNat
  charged : ∀ type shape after, file.classify type = .ok (shape, after) →
    shape.placement = .register → file.Charged after type.isFloat (file.convention.demand type)
  kept : ∀ type shape after, file.classify type = .ok (shape, after) →
    shape.placement = .stack → after = file
  failed : ∀ type failure, file.classify type = .error failure →
    failure = .fault .addOverflow ∧ file.convention.Admits type ∧
      2 ^ 64 ≤ file.used type + file.convention.demand type
  taken : ∀ isFloat count, (file.taken isFloat).toNat + count.toNat < 2 ^ 64 →
    ∃ after, file.take isFloat count = .ok after ∧ file.Charged after isFloat count.toNat
  refused : ∀ type, file.convention.Admits type → ¬ file.Places type → ∀ requests next,
    file.countsFloat next.isFloat = file.countsFloat type.isFloat →
    file.convention.demand type ≤ file.convention.demand next →
    ¬ (file.serveAll requests).Places next

theorem accounts (file : RegisterFile) : file.Accounts := by
  refine ⟨file.places_iff, ?_, ?_, ?_, fun _ _ => take_of_lt, ?_⟩
  · intro type shape after hclassify hplacement
    have classified := file.classified type
    rw [hclassify] at classified
    cases classified with
    | register _ _ _ charged => exact charged
    | stack _ placed => cases placed.symm.trans hplacement
  · intro type shape after hclassify hplacement
    have classified := file.classified type
    rw [hclassify] at classified
    cases classified with
    | register _ _ placed _ => cases placed.symm.trans hplacement
    | stack => rfl
  · intro type failure hclassify
    have classified := file.classified type
    rw [hclassify] at classified
    cases classified with
    | overflow admitted wraps => exact ⟨rfl, admitted, wraps⟩
  · intro type admitted refused requests next same more placed
    have grows := file.grows_serveAll requests
    have room := ((file.serveAll requests).places_iff next).mp placed
    rw [grows.convention] at room
    have hused := grows.used_le same
    have := room.2
    exact refused ((file.places_iff type).mpr ⟨admitted, by omega⟩)

/-- Registers are accounted for exactly, after any run of placing arguments and taking registers by hand.
Where nothing is taken by hand no more are ever in use than there are, and every argument is placed. -/
theorem serveAll_accounts (convention : Convention) (requests : List Request) :
    ((fresh convention).serveAll requests).convention = convention ∧
      ((fresh convention).serveAll requests).Accounts ∧
      ∀ types, requests = types.map .place →
        ((fresh convention).serveAll requests).Bounded ∧
        (∃ shapes, convention.shapes types = .ok shapes) ∧
        ∀ type, ∃ shape after, ((fresh convention).serveAll requests).classify type = .ok (shape, after) := by
  refine ⟨((fresh convention).grows_serveAll requests).convention, accounts _, ?_⟩
  rintro types rfl
  obtain ⟨-, -, bounded⟩ := (bounded_fresh convention).classifyAll types
  refine ⟨bounded, convention.exists_shapes types, fun type => ?_⟩
  obtain ⟨shape, after, hclassify, -⟩ := bounded.classify type
  exact ⟨shape, after, hclassify⟩

end RegisterFile
end Foreign
