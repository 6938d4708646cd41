import Mathlib.Algebra.Group.Nat.Defs
import Mathlib.Data.List.Forall2
import Foreign.Failure

/-!
Words as numbers. A plain operation gives the exact result whenever that fits a word; a checked one gives
the exact result or a fault.
-/

namespace Foreign

namespace Word

theorem toNat_add_of_lt {a b : Word} (h : a.toNat + b.toNat < 2 ^ 64) :
    (a + b).toNat = a.toNat + b.toNat := by
  rw [UInt64.toNat_add]
  exact Nat.mod_eq_of_lt h

theorem toNat_mul_of_lt {a b : Word} (h : a.toNat * b.toNat < 2 ^ 64) :
    (a * b).toNat = a.toNat * b.toNat := by
  rw [UInt64.toNat_mul]
  exact Nat.mod_eq_of_lt h

theorem toNat_ofNat_of_lt {n : Nat} (h : n < 2 ^ 64) : (UInt64.ofNat n).toNat = n := by
  rw [UInt64.toNat_ofNat']
  exact Nat.mod_eq_of_lt h

theorem toNat_max (a b : Word) : (max a b).toNat = max a.toNat b.toNat := by
  change (if a ≤ b then b else a).toNat = max a.toNat b.toNat
  split <;> rename_i h <;> rw [UInt64.le_iff_toNat_le] at h <;> omega

end Word

theorem exists_of_forall₂ {α β : Type} {R : α → β → Prop} {as : List α} {bs : List β} {a : α}
    (h : List.Forall₂ R as bs) (mem : a ∈ as) : ∃ b ∈ bs, R a b := by
  induction h with
  | nil => cases mem
  | @cons first b rest bs hfirst _ ih =>
      cases List.mem_cons.mp mem with
      | inl heq => exact ⟨b, List.mem_cons_self, heq ▸ hfirst⟩
      | inr hrest =>
          obtain ⟨other, hother, hr⟩ := ih hrest
          exact ⟨other, List.mem_cons_of_mem b hother, hr⟩

namespace Outcome

@[simp] theorem ok_bind {α β : Type} (a : α) (f : α → Outcome β) :
    ((Except.ok a : Outcome α) >>= f) = f a := rfl

@[simp] theorem error_bind {α β : Type} (failure : Failure) (f : α → Outcome β) :
    ((Except.error failure : Outcome α) >>= f) = .error failure := rfl

theorem bind_eq_ok_iff {α β : Type} {x : Outcome α} {f : α → Outcome β} {b : β} :
    x >>= f = .ok b ↔ ∃ a, x = .ok a ∧ f a = .ok b := by
  cases x with
  | ok a => exact ⟨fun h => ⟨a, rfl, h⟩, fun ⟨_, h, hb⟩ => Except.ok.inj h ▸ hb⟩
  | error failure => exact ⟨fun h => (nomatch h), fun ⟨_, h, _⟩ => (nomatch h)⟩

theorem bind_eq_error_iff {α β : Type} {x : Outcome α} {f : α → Outcome β} {failure : Failure} :
    x >>= f = .error failure ↔ x = .error failure ∨ ∃ a, x = .ok a ∧ f a = .error failure := by
  cases x with
  | ok a => simp
  | error other => simp

theorem map_eq_ok_iff {α β : Type} {f : α → β} {x : Outcome α} {b : β} :
    x.map f = .ok b ↔ ∃ a, x = .ok a ∧ f a = b := by
  cases x with
  | ok a => exact ⟨fun h => ⟨a, rfl, Except.ok.inj h⟩, fun ⟨_, h, hb⟩ => Except.ok.inj h ▸ congrArg _ hb⟩
  | error failure => exact ⟨fun h => (nomatch h), fun ⟨_, h, _⟩ => (nomatch h)⟩

theorem mapM_eq_ok_iff {α β : Type} {f : α → Outcome β} {as : List α} {bs : List β} :
    as.mapM f = .ok bs ↔ List.Forall₂ (fun a b => f a = .ok b) as bs := by
  induction as generalizing bs with
  | nil =>
      rw [List.mapM_nil, List.forall₂_nil_left_iff]
      exact ⟨fun h => (Except.ok.inj h).symm, fun h => h ▸ rfl⟩
  | cons a as ih =>
      simp only [List.mapM_cons, bind_eq_ok_iff, List.forall₂_cons_left_iff]
      constructor
      · rintro ⟨b, hb, rest, hrest, heq⟩
        exact ⟨b, rest, hb, ih.mp hrest, (Except.ok.inj heq).symm⟩
      · rintro ⟨b, rest, hb, hrest, rfl⟩
        exact ⟨b, hb, rest, ih.mpr hrest, rfl⟩

theorem mapM_eq_error_iff {α β : Type} {f : α → Outcome β} {as : List α} {failure : Failure} :
    as.mapM f = .error failure ↔ ∃ before a after, as = before ++ a :: after ∧
      (∀ other ∈ before, ∃ b, f other = .ok b) ∧ f a = .error failure := by
  induction as with
  | nil =>
      rw [List.mapM_nil]
      exact ⟨fun h => (nomatch h), fun ⟨_, _, _, h, _⟩ => absurd h (by simp)⟩
  | cons first rest ih =>
      have hpure : ∀ bs : List β, (pure bs : Outcome (List β)) ≠ .error failure :=
        fun _ h => (nomatch h)
      simp only [List.mapM_cons, bind_eq_error_iff, hpure, and_false, exists_false, or_false, ih]
      constructor
      · rintro (ha | ⟨b, hb, before, a, after, rfl, hbefore, ha⟩)
        · exact ⟨[], first, rest, rfl, by simp, ha⟩
        · exact ⟨first :: before, a, after, rfl, List.forall_mem_cons.mpr ⟨⟨b, hb⟩, hbefore⟩, ha⟩
      · rintro ⟨_ | ⟨head, before⟩, a, after, hsplit, hbefore, ha⟩
        · obtain ⟨rfl, rfl⟩ := List.cons.inj hsplit
          exact .inl ha
        · obtain ⟨rfl, rfl⟩ := List.cons.inj hsplit
          obtain ⟨⟨b, hb⟩, hbefore⟩ := List.forall_mem_cons.mp hbefore
          exact .inr ⟨b, hb, before, a, after, rfl, hbefore, ha⟩

theorem sum_eq_ok_iff {a b c : Word} :
    sum a b = .ok c ↔ a.toNat + b.toNat < 2 ^ 64 ∧ c.toNat = a.toNat + b.toNat := by
  rw [sum]
  cases h : a.add? b with
  | none =>
      have := Word.add?_eq_none_iff.mp h
      simp only [reduceCtorEq, false_iff, not_and]
      intro lt
      exact absurd lt (Nat.not_lt.mpr this)
  | some d =>
      obtain ⟨lt, rfl⟩ := Word.add?_eq_some_iff.mp h
      rw [Except.ok.injEq, ← UInt64.toNat_inj, Word.toNat_add_of_lt lt]
      exact ⟨fun h => ⟨lt, h.symm⟩, fun h => h.2.symm⟩

theorem product_eq_ok_iff {a b c : Word} :
    product a b = .ok c ↔ a.toNat * b.toNat < 2 ^ 64 ∧ c.toNat = a.toNat * b.toNat := by
  rw [product]
  cases h : a.mul? b with
  | none =>
      have := Word.mul?_eq_none_iff.mp h
      simp only [reduceCtorEq, false_iff, not_and]
      intro lt
      exact absurd lt (Nat.not_lt.mpr this)
  | some d =>
      obtain ⟨lt, rfl⟩ := Word.mul?_eq_some_iff.mp h
      rw [Except.ok.injEq, ← UInt64.toNat_inj, Word.toNat_mul_of_lt lt]
      exact ⟨fun h => ⟨lt, h.symm⟩, fun h => h.2.symm⟩

theorem sum_of_lt {a b : Word} (h : a.toNat + b.toNat < 2 ^ 64) : sum a b = .ok (a + b) :=
  sum_eq_ok_iff.mpr ⟨h, Word.toNat_add_of_lt h⟩

theorem product_of_lt {a b : Word} (h : a.toNat * b.toNat < 2 ^ 64) : product a b = .ok (a * b) :=
  product_eq_ok_iff.mpr ⟨h, Word.toNat_mul_of_lt h⟩

theorem sum_of_le {a b : Word} (h : 2 ^ 64 ≤ a.toNat + b.toNat) :
    sum a b = .error (.fault .addOverflow) := by
  rw [sum, Word.add?_eq_none_iff.mpr h]

theorem sum_eq_error_iff {a b : Word} {failure : Failure} :
    sum a b = .error failure ↔ 2 ^ 64 ≤ a.toNat + b.toNat ∧ failure = .fault .addOverflow := by
  by_cases lt : a.toNat + b.toNat < 2 ^ 64
  · rw [sum_of_lt lt]
    exact ⟨nofun, fun wraps => absurd lt (Nat.not_lt.mpr wraps.1)⟩
  · rw [sum_of_le (Nat.not_lt.mp lt), Except.error.injEq]
    exact ⟨fun h => ⟨Nat.not_lt.mp lt, h.symm⟩, fun h => h.2.symm⟩

theorem product_of_le {a b : Word} (h : 2 ^ 64 ≤ a.toNat * b.toNat) :
    product a b = .error (.fault .multiplyOverflow) := by
  rw [product, Word.mul?_eq_none_iff.mpr h]

end Outcome
end Foreign
