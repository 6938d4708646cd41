import Foreign.Proofs.Call.Influence
import Foreign.Proofs.Call.Storage

/-!
Scalar arguments and the published conventions. Of scalars, each takes one register, so the arguments in
front decide whether the next one gets one, and placing keeps to one rule: a convention has the same number
of registers for each class, or for all arguments where floats have none of their own. AArch64 publishes that
rule. System V has more registers for floats than for the rest, and under Windows the position counts, whatever
the classes in front are; there placing departs from what is published, and the lists on which it does are told
exactly.
-/

namespace Foreign

/-- Which scalar argument gets a register, by the arguments in front of it. -/
abbrev RegisterRule := List CType → CType → Prop

namespace RegisterRule

/-- So many registers for the floats, and so many for the rest. -/
def perClass (integers floats : Nat) : RegisterRule := fun before type =>
  before.countP (·.isFloat == type.isFloat) < if type.isFloat then floats else integers

/-- So many registers for arguments of any class, one for each position. -/
def positional (slots : Nat) : RegisterRule := fun before _ =>
  before.length < slots

end RegisterRule

open RegisterRule

namespace Convention

/-- The arguments are all placed, those in registers that the rule gives one. -/
def Follows (convention : Convention) (rule : RegisterRule) (types : List CType) : Prop :=
  ∃ shapes, convention.shapes types = .ok shapes ∧ shapes.length = types.length ∧
    ∀ index type shape, types[index]? = some type → shapes[index]? = some shape →
      (shape.placement = .register ↔ rule (types.take index) type)

/-- The rule that placing keeps to. -/
def ownRule (convention : Convention) : RegisterRule :=
  if convention.hasFloatRegisters then perClass convention.registers.toNat convention.registers.toNat
  else positional convention.registers.toNat

variable {convention : Convention} {rule other : RegisterRule} {types before : List CType} {type : CType}

theorem ownRule_iff :
    convention.ownRule before type ↔
      (convention.ofKind (convention.countsFloat type) before).length < convention.registers.toNat := by
  rw [ofKind, ← List.countP_eq_length_filter, ownRule]
  cases own : convention.hasFloatRegisters with
  | true => simp [perClass, countsFloat, own]
  | false => simp [positional, countsFloat, own]

end Convention

namespace RegisterFile

variable {file after last : RegisterFile} {types before : List CType} {type : CType} {shape : Shape}
  {shapes : List Shape}

/-- The registers in use are those that scalars in front have taken, as many of a kind as there were, until
there were no more. -/
def TakenBy (file : RegisterFile) (before : List CType) : Prop :=
  ∀ floats, (file.share floats).2.toNat =
    min file.convention.registers.toNat (file.convention.ofKind floats before).length

theorem takenBy_fresh (convention : Convention) : (fresh convention).TakenBy [] := by
  intro floats
  cases floats <;> exact (Nat.min_zero _).symm

theorem words_of_plain (plain : type.IsPlain) : type.words.toNat = 1 := by
  have small := CType.size_le_of_plain plain
  rw [Slot.wordSize] at small
  rw [CType.toNat_words]
  omega

theorem demand_of_plain (convention : Convention) (plain : type.IsPlain) : convention.demand type = 1 := by
  cases type with
  | struct layout => exact absurd rfl (plain layout)
  | float | double => rfl
  | void | int _ _ | pointer _ => exact words_of_plain plain

theorem admits_of_plain (convention : Convention) (plain : type.IsPlain) : convention.Admits type :=
  fun layout struct => absurd struct (plain layout)

theorem share_of_charged {floats : Bool} (charged : file.Charged after type.isFloat 1) :
    (after.share floats).2.toNat = (file.share floats).2.toNat +
      if file.convention.countsFloat type = floats then 1 else 0 := by
  have hcounts : file.countsFloat type.isFloat = file.convention.countsFloat type := rfl
  cases floats with
  | false =>
      have integers := charged.integers
      rw [hcounts] at integers
      cases own : file.convention.countsFloat type <;> simpa [share, own] using integers
  | true =>
      have hfloats := charged.floats
      rw [hcounts] at hfloats
      cases own : file.convention.countsFloat type <;> simpa [share, own] using hfloats

/-- One scalar: it gets a register if its kind has one left, and then it has taken it. -/
theorem TakenBy.classify (taken : file.TakenBy before) (plain : type.IsPlain)
    (hclassify : file.classify type = .ok (shape, after)) :
    (shape.placement = .register ↔ file.convention.ownRule before type) ∧
      after.TakenBy (before ++ [type]) := by
  have demand := demand_of_plain file.convention plain
  have used : file.used type = min file.convention.registers.toNat
      (file.convention.ofKind (file.convention.countsFloat type) before).length :=
    taken (file.convention.countsFloat type)
  have hkind : ∀ floats, (file.convention.ofKind floats (before ++ [type])).length =
      (file.convention.ofKind floats before).length +
        if file.convention.countsFloat type = floats then 1 else 0 := by
    intro floats
    rw [Convention.ofKind, List.filter_append, List.length_append, ← Convention.ofKind]
    by_cases own : file.convention.countsFloat type = floats <;> simp [own]
  rw [Convention.ownRule_iff]
  have classified := file.classified type
  rw [hclassify] at classified
  cases classified with
  | register _ room placed charged =>
      rw [demand] at room charged
      refine ⟨iff_of_true placed (by omega), ?_⟩
      intro floats
      rw [charged.convention, share_of_charged charged, taken floats, hkind]
      split
      · rename_i own
        rw [own] at used
        omega
      · omega
  | stack full placed =>
      have := (full (admits_of_plain file.convention plain)).1
      have stacked : shape.placement ≠ .register := by
        rw [placed]
        decide
      refine ⟨iff_of_false stacked (by omega), ?_⟩
      intro floats
      rw [taken floats, hkind]
      split
      · rename_i own
        rw [own] at used
        omega
      · omega

/-- A run over scalars, behind others. -/
theorem TakenBy.classifyAll (taken : file.TakenBy before) (plain : ∀ type ∈ types, type.IsPlain)
    (hall : file.classifyAll types = .ok (shapes, last)) :
    ∀ index type shape, types[index]? = some type → shapes[index]? = some shape →
      (shape.placement = .register ↔ file.convention.ownRule (before ++ types.take index) type) := by
  induction types generalizing file before shapes with
  | nil => simp
  | cons first types ih =>
      obtain ⟨own, after, rest, hclassify, hrest, rfl⟩ := classifyAll_cons_eq_ok_iff.mp hall
      obtain ⟨hfirst, htypes⟩ := List.forall_mem_cons.mp plain
      obtain ⟨placed, next⟩ := taken.classify hfirst hclassify
      intro index type shape htype hshape
      cases index with
      | zero =>
          cases htype
          cases hshape
          rwa [List.take_zero, List.append_nil]
      | succ index =>
          have := ih next htypes hrest index type shape htype hshape
          rwa [convention_of_classify hclassify, List.append_assoc] at this

end RegisterFile

namespace Convention

variable {convention : Convention} {rule other : RegisterRule} {types before : List CType} {type : CType}

/-- Scalars are placed by the convention's own rule. -/
theorem follows_ownRule (convention : Convention) (plain : ∀ type ∈ types, type.IsPlain) :
    convention.Follows convention.ownRule types := by
  obtain ⟨shapes, hshapes⟩ := convention.exists_shapes types
  obtain ⟨last, hall⟩ := shapes_eq_ok_iff.mp hshapes
  exact ⟨shapes, hshapes, RegisterFile.length_of_classifyAll hall,
    (RegisterFile.takenBy_fresh convention).classifyAll plain hall⟩

/-- Where placing keeps to one rule, it keeps to another if the two agree on every argument. -/
theorem Follows.iff (follows : convention.Follows rule types) :
    convention.Follows other types ↔
      ∀ index type, types[index]? = some type →
        (rule (types.take index) type ↔ other (types.take index) type) := by
  obtain ⟨shapes, hshapes, hlength, hplaced⟩ := follows
  constructor
  · rintro ⟨again, hagain, -, hother⟩ index type htype
    cases hshapes.symm.trans hagain
    have inside : index < shapes.length := hlength ▸ (List.getElem?_eq_some_iff.mp htype).1
    have hshape := List.getElem?_eq_getElem inside
    rw [← hplaced index type _ htype hshape, hother index type _ htype hshape]
  · intro agree
    refine ⟨shapes, hshapes, hlength, fun index type shape htype hshape => ?_⟩
    rw [hplaced index type shape htype hshape, agree index type htype]

end Convention

section

variable {types : List CType} {p : CType → Bool} {n : Nat}

/-- Behind `n` that satisfy the predicate there is another, if there are more than `n`. -/
theorem exists_of_lt_countP (h : n < types.countP p) :
    ∃ index type, types[index]? = some type ∧ p type = true ∧ (types.take index).countP p = n := by
  induction types generalizing n with
  | nil => cases h
  | cons first rest ih =>
      rw [List.countP_cons] at h
      cases hfirst : p first with
      | false =>
          obtain ⟨index, type, htype, hp, hcount⟩ := ih (n := n) (by simpa [hfirst] using h)
          exact ⟨index + 1, type, htype, hp, by simpa [List.countP_cons, hfirst] using hcount⟩
      | true =>
          cases n with
          | zero => exact ⟨0, first, rfl, hfirst, rfl⟩
          | succ n =>
              obtain ⟨index, type, htype, hp, hcount⟩ := ih (n := n) (by simpa [hfirst] using h)
              exact ⟨index + 1, type, htype, hp, by simpa [List.countP_cons, hfirst] using hcount⟩

theorem countP_take_lt {index : Nat} {type : CType} (htype : types[index]? = some type)
    (hp : p type = true) : (types.take index).countP p < types.countP p := by
  obtain ⟨inside, rfl⟩ := List.getElem?_eq_some_iff.mp htype
  calc (types.take index).countP p
      < (types.take index).countP p + (types[index] :: types.drop (index + 1)).countP p := by
        rw [List.countP_cons_of_pos hp]
        omega
    _ = types.countP p := by
        rw [← List.countP_append, ← List.drop_eq_getElem_cons inside, List.take_append_drop]

theorem length_take_of_getElem? {index : Nat} {type : CType} (htype : types[index]? = some type) :
    (types.take index).length = index :=
  List.length_take_of_le (Nat.le_of_lt (List.getElem?_eq_some_iff.mp htype).1)

/-- If every argument behind the first `n` has `n` of its own class in front, there is one class only. By
induction on the position: the first `n` are of the class of the next one, and each later argument is of the
class of an earlier one. -/
theorem isFloat_eq_of_crowded (pos : 0 < n) (many : n < types.length)
    (crowded : ∀ (index : Nat) (type : CType), types[index]? = some type → n ≤ index →
      n ≤ (types.take index).countP (·.isFloat == type.isFloat)) :
    ∀ type ∈ types, ∀ other ∈ types, type.isFloat = other.isFloat := by
  have hnext := List.getElem?_eq_getElem many
  generalize types[n] = next at hnext
  have same : ∀ (index : Nat) (type : CType), types[index]? = some type → type.isFloat = next.isFloat := by
    intro index
    induction index using Nat.strongRecOn with
    | ind index ih =>
        intro type htype
        by_cases late : n ≤ index
        · obtain ⟨earlier, hearlier, hclass⟩ :=
            List.countP_pos_iff.mp (Nat.lt_of_lt_of_le pos (crowded index type htype late))
          obtain ⟨place, inside, hplace⟩ := List.mem_take_iff_getElem.mp hearlier
          rw [← beq_iff_eq.mp hclass]
          exact ih place (by omega) earlier (hplace ▸ List.getElem?_eq_getElem (by omega))
        · have full : (types.take n).countP (·.isFloat == next.isFloat) = (types.take n).length := by
            refine Nat.le_antisymm List.countP_le_length ?_
            rw [length_take_of_getElem? hnext]
            exact crowded n next hnext (Nat.le_refl n)
          have mem : type ∈ types.take n :=
            List.mem_of_getElem? ((List.getElem?_take_of_lt (Nat.lt_of_not_le late)).trans htype)
          exact beq_iff_eq.mp (List.countP_eq_length.mp full type mem)
  intro type htype other hother
  obtain ⟨index, hindex⟩ := List.mem_iff_getElem?.mp htype
  obtain ⟨place, hplace⟩ := List.mem_iff_getElem?.mp hother
  rw [same index type hindex, same place other hplace]

end

namespace Convention

variable {types : List CType}

theorem follows_sysV_iff (plain : ∀ type ∈ types, type.IsPlain) :
    sysV.Follows (perClass 6 8) types ↔ types.countP (·.isFloat) ≤ 6 := by
  have own : sysV.Follows (perClass 6 6) types := sysV.follows_ownRule plain
  rw [own.iff]
  constructor
  · intro agree
    by_contra more
    -- the seventh float has six in front: none left by the one number, two by the other
    obtain ⟨index, type, htype, hfloat, hcount⟩ := exists_of_lt_countP (Nat.lt_of_not_le more)
    have := agree index type htype
    simp [perClass, hfloat, hcount] at this
  · intro few index type htype
    cases hfloat : type.isFloat with
    | false => simp [perClass, hfloat]
    | true =>
        have := countP_take_lt (p := fun type => type.isFloat) htype hfloat
        simp only [perClass, hfloat, beq_true, if_true]
        omega

/-- Position and class decide alike while there is a register for every position, and after that only if no
second class comes up. -/
theorem follows_win64_iff (plain : ∀ type ∈ types, type.IsPlain) :
    win64.Follows (positional 4) types ↔
      types.length ≤ 4 ∨ ∀ type ∈ types, ∀ other ∈ types, type.isFloat = other.isFloat := by
  have own : win64.Follows (perClass 4 4) types := win64.follows_ownRule plain
  rw [own.iff]
  constructor
  · intro agree
    refine or_iff_not_imp_left.mpr fun many => ?_
    refine isFloat_eq_of_crowded (n := 4) (by decide) (Nat.lt_of_not_le many) ?_
    intro index type htype late
    have alike := agree index type htype
    simp only [perClass, positional, length_take_of_getElem? htype, ite_self] at alike
    omega
  · intro either index type htype
    have inside := (List.getElem?_eq_some_iff.mp htype).1
    have few : (types.take index).countP (·.isFloat == type.isFloat) ≤ (types.take index).length :=
      List.countP_le_length
    simp only [perClass, positional, length_take_of_getElem? htype, ite_self] at few ⊢
    obtain short | same := either
    · omega
    · have all : (types.take index).countP (·.isFloat == type.isFloat) = (types.take index).length := by
        refine List.countP_eq_length.mpr fun earlier hearlier => beq_iff_eq.mpr ?_
        exact same earlier (List.mem_of_mem_take hearlier) type (List.mem_of_getElem? htype)
      rw [all, length_take_of_getElem? htype]

/-- Scalars get registers by one number for each class, or for all where floats have none of their own. Under
AArch64 that is the published convention. It is that of System V until a seventh float comes, and that of
Windows until a fifth argument comes, and from then on as long as all are of one class. -/
theorem follows_published_iff (plain : ∀ type ∈ types, type.IsPlain) :
    (∀ convention : Convention, convention.Follows convention.ownRule types) ∧
      (sysV.Follows (perClass 6 8) types ↔ types.countP (·.isFloat) ≤ 6) ∧
      (win64.Follows (positional 4) types ↔
        types.length ≤ 4 ∨ ∀ type ∈ types, ∀ other ∈ types, type.isFloat = other.isFloat) ∧
      aarch64.Follows (perClass 8 8) types :=
  ⟨fun convention => convention.follows_ownRule plain, follows_sysV_iff plain, follows_win64_iff plain,
    aarch64.follows_ownRule plain⟩

/-- Five numbers and six floats. -/
def sampleMixed : List CType :=
  .replicate 5 (.int .long true) ++ .replicate 6 .double

/-- They are placed as System V wants it, and not as Windows does. -/
theorem follows_published_iff_mixed :
    (∀ type ∈ sampleMixed, type.IsPlain) ∧ sysV.Follows (perClass 6 8) sampleMixed ∧
      ¬ win64.Follows (positional 4) sampleMixed := by
  have plain : ∀ type ∈ sampleMixed, type.IsPlain := by
    intro type mem layout
    obtain mem | mem := List.mem_append.mp mem <;> rw [List.eq_of_mem_replicate mem] <;> exact nofun
  obtain ⟨-, hsysV, hwin64, -⟩ := follows_published_iff plain
  refine ⟨plain, hsysV.mpr (by decide), mt hwin64.mp ?_⟩
  rintro (short | same)
  · exact absurd short (by decide)
  · have float : CType.double ∈ sampleMixed := by simp [sampleMixed]
    have number : CType.int .long true ∈ sampleMixed := by simp [sampleMixed]
    exact absurd (same _ float _ number) (by decide)

/-- System V passes the seventh float in a register and Windows the fifth argument on the stack. Placing does
neither. -/
theorem seventh_float_stacked :
    sysV.shapes (.replicate 7 .double) =
        .ok (.replicate 6 ⟨.float, 1, .register, false⟩ ++ [⟨.float, 1, .stack, false⟩]) ∧
      perClass 6 8 (.replicate 6 .double) .double ∧
      ¬ sysV.Follows (perClass 6 8) (.replicate 7 .double) ∧
      win64.shapes (.replicate 4 (.int .w32 true) ++ [.double]) =
        .ok (.replicate 4 ⟨.integer, 1, .register, false⟩ ++ [⟨.float, 1, .register, false⟩]) ∧
      ¬ positional 4 (.replicate 4 (.int .w32 true)) .double ∧
      ¬ win64.Follows (positional 4) (.replicate 4 (.int .w32 true) ++ [.double]) := by
  have hsysV : sysV.shapes (.replicate 7 .double) =
      .ok (.replicate 6 ⟨.float, 1, .register, false⟩ ++ [⟨.float, 1, .stack, false⟩]) := by rfl
  have hwin64 : win64.shapes (.replicate 4 (.int .w32 true) ++ [.double]) =
      .ok (.replicate 4 ⟨.integer, 1, .register, false⟩ ++ [⟨.float, 1, .register, false⟩]) := by rfl
  have seventh : perClass 6 8 (.replicate 6 .double) .double := by unfold perClass; decide
  have fifth : ¬ positional 4 (.replicate 4 (.int .w32 true)) .double := by unfold positional; decide
  refine ⟨hsysV, seventh, ?_, hwin64, fifth, ?_⟩
  · rintro ⟨shapes, hshapes, -, follows⟩
    cases hsysV.symm.trans hshapes
    exact nomatch (follows 6 .double _ rfl rfl).mpr seventh
  · rintro ⟨shapes, hshapes, -, follows⟩
    cases hwin64.symm.trans hshapes
    exact fifth ((follows 4 .double _ rfl rfl).mp rfl)

end Convention
end Foreign
