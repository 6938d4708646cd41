import Foreign.Settings.Basic

/-!
Settings and setups under one environment. Each is overridden by rules of its own, and it makes no
difference which of the two is: a level is kept as the text of its variable in small letters, which names
the same level again, however letters outside ASCII are lowered.
-/

namespace Foreign

/-- What lowering a text may give. A character outside ASCII may become several, and what it becomes may
depend on those around it, but only the Kelvin sign leaves nothing outside ASCII. -/
inductive Lowered : List Char → List Char → Prop
  | nil : Lowered [] []
  | ascii {c : Char} {text lowered : List Char} (small : c.val < 128) (rest : Lowered text lowered) :
      Lowered (c :: text) (c.toLower :: lowered)
  | kelvin {c : Char} {text lowered : List Char} (large : 128 ≤ c.val) (rest : Lowered text lowered) :
      Lowered (c :: text) ('k' :: lowered)
  | beyond {c d : Char} {text piece lowered : List Char} (large : 128 ≤ c.val) (mem : d ∈ piece)
      (beyond : 128 ≤ d.val) (rest : Lowered text lowered) : Lowered (c :: text) (piece ++ lowered)

def IsLowering (lower : String → String) : Prop :=
  ∀ text, Lowered text.toList (lower text).toList

/-- Letters that no other character becomes. -/
def IsPlainName (name : List Char) : Prop :=
  ∀ c ∈ name, c.val < 128 ∧ c ≠ 'k'

theorem toLower_of_large {c : Char} (large : 128 ≤ c.val) : c.toLower = c := by
  refine dif_neg ?_
  rintro ⟨-, small⟩
  exact absurd (UInt32.le_trans large small) (by decide)

theorem toList_toLower (text : String) : text.toLower.toList = text.toList.map Char.toLower :=
  String.toList_map

theorem isLowering_toLower : IsLowering String.toLower := by
  intro text
  rw [toList_toLower]
  induction text.toList with
  | nil => exact .nil
  | cons c text ih =>
      by_cases small : c.val < 128
      · exact .ascii small ih
      · have large := UInt32.not_lt.mp small
        rw [List.map_cons, toLower_of_large large]
        exact .beyond large (List.mem_singleton_self c) large ih

theorem IsPlainName.ne_of_large {name text : List Char} {c : Char} (plain : IsPlainName name)
    (large : 128 ≤ c.val) : c.toLower :: text ≠ name := by
  rintro rfl
  have small := (plain _ List.mem_cons_self).1
  rw [toLower_of_large large] at small
  exact UInt32.not_lt.mpr large small

/-- A plain name is found by any lowering where it is found by that of ASCII. -/
theorem Lowered.eq_iff {text lowered name : List Char} (h : Lowered text lowered)
    (plain : IsPlainName name) : lowered = name ↔ text.map Char.toLower = name := by
  induction h generalizing name with
  | nil => exact Iff.rfl
  | ascii small _ ih =>
      rw [List.map_cons]
      cases name with
      | nil => exact ⟨fun h => (nomatch h), fun h => (nomatch h)⟩
      | cons first name =>
          have htail : IsPlainName name := fun c mem => plain c (List.mem_cons_of_mem first mem)
          rw [List.cons.injEq, List.cons.injEq, ih htail]
  | kelvin large _ _ =>
      rw [List.map_cons]
      refine ⟨?_, fun h => absurd h (plain.ne_of_large large)⟩
      rintro rfl
      exact absurd rfl (plain 'k' List.mem_cons_self).2
  | beyond large mem beyond _ _ =>
      rw [List.map_cons]
      refine ⟨?_, fun h => absurd h (plain.ne_of_large large)⟩
      rintro rfl
      exact absurd (plain _ (List.mem_append_left _ mem)).1 (UInt32.not_lt.mpr beyond)

theorem IsLowering.eq_iff {lower : String → String} (lowering : IsLowering lower) {text name : String}
    (plain : IsPlainName name.toList) : lower text = name ↔ text.toLower = name := by
  rw [← String.toList_inj, (lowering text).eq_iff plain, ← String.toList_inj, toList_toLower]

namespace Log

theorem named?_eq_lookup {α : Type} {lower : String → String} (lowering : IsLowering lower)
    {names : List (String × α)} (plain : ∀ entry ∈ names, IsPlainName entry.1.toList) (text : String) :
    named? names text = names.lookup (lower text) := by
  rw [named?]
  induction names with
  | nil => rfl
  | cons entry names ih =>
      have hfirst : lower text = entry.1 ↔ text.toLower = entry.1 :=
        lowering.eq_iff (plain entry List.mem_cons_self)
      rw [List.lookup_cons, List.lookup_cons, ih fun other mem => plain other (List.mem_cons_of_mem _ mem)]
      by_cases h : text.toLower = entry.1
      · rw [beq_iff_eq.mpr h, beq_iff_eq.mpr (hfirst.mpr h)]
      · rw [beq_eq_false_iff_ne.mpr h, beq_eq_false_iff_ne.mpr (mt hfirst.mp h)]

theorem name_of_named? {α : Type} {name : α → String} {values : List α} {text : String} {a : α}
    (found : named? (values.map fun value => (name value, value)) text = some a) :
    text.toLower = name a := by
  obtain ⟨before, after, hsplit, -⟩ := List.lookup_eq_some_iff.mp found
  have mem : (text.toLower, a) ∈ values.map fun value => (name value, value) := by
    rw [hsplit]
    exact List.mem_append_right before List.mem_cons_self
  obtain ⟨value, -, heq⟩ := List.mem_map.mp mem
  obtain ⟨hname, rfl⟩ := Prod.mk.inj heq
  exact hname.symm

theorem isPlainName_of_all {name : List Char}
    (all : name.all (fun c => decide (c.val < 128) && decide (c ≠ 'k')) = true) : IsPlainName name := by
  intro c mem
  have hc := List.all_eq_true.mp all c mem
  rw [Bool.and_eq_true] at hc
  exact ⟨of_decide_eq_true hc.1, of_decide_eq_true hc.2⟩

theorem Level.isPlainName (level : Level) : IsPlainName level.name.toList := by
  cases level <;> exact isPlainName_of_all rfl

theorem Format.isPlainName (format : Format) : IsPlainName format.name.toList := by
  cases format <;> exact isPlainName_of_all rfl

theorem isPlainName_of_mem {α : Type} {name : α → String} {values : List α}
    (plain : ∀ value, IsPlainName (name value).toList) :
    ∀ entry ∈ values.map fun value => (name value, value), IsPlainName entry.1.toList := by
  intro entry mem
  obtain ⟨value, -, rfl⟩ := List.mem_map.mp mem
  exact plain value

end Log

namespace Settings

/-- What the settings keep of the variable for the level. -/
theorem level_override {lower : String → String} (lowering : IsLowering lower) (settings : Settings)
    {environment : Environment} {text : String}
    (given : environment.lookup "ABICALL_LOG_LEVEL" = some text) :
    (settings.override environment).log.level =
      if (Log.Level.ofName? text).isSome then lower text else settings.log.level := by
  have hlevel : (settings.override environment).log.level =
      ((Log.Level.ofName? text).map (·.name)).getD settings.log.level := by
    rw [Settings.override, LogSettings.override, given]
    rfl
  rw [hlevel]
  cases found : Log.Level.ofName? text with
  | none => rfl
  | some level =>
      exact ((lowering.eq_iff level.isPlainName).mpr (Log.name_of_named? found)).symm

/-- It makes no difference whether the settings are overridden or the setup that they describe, nor whether
the standard of either is. The names of levels and formats are those of the small letters of a text, and
the level that the settings keep is in small letters too, whichever lowering gives them. -/
theorem override_commutes (settings : Settings) (environment : Environment) :
    (settings.override environment).log.setup = settings.log.setup.override environment ∧
    Log.Setup.ofEnvironment environment = (standard.override environment).log.setup ∧
    ∀ lower, IsLowering lower → ∀ text,
      Log.Level.ofName? text =
        (Log.Level.all.map fun level => (level.name, level)).lookup (lower text) ∧
      Log.Format.ofName? text =
        (Log.Format.all.map fun format => (format.name, format)).lookup (lower text) ∧
      (environment.lookup "ABICALL_LOG_LEVEL" = some text →
        (settings.override environment).log.level =
          if (Log.Level.ofName? text).isSome then lower text else settings.log.level) := by
  refine ⟨LogSettings.setup_override settings.log environment, ?_, ?_⟩
  · have hstandard : standard.log.setup = Log.Setup.standard := by decide +kernel
    rw [Log.Setup.ofEnvironment, ← hstandard]
    exact (LogSettings.setup_override standard.log environment).symm
  · intro lower lowering text
    exact ⟨Log.named?_eq_lookup lowering (Log.isPlainName_of_mem Log.Level.isPlainName) text,
      Log.named?_eq_lookup lowering (Log.isPlainName_of_mem Log.Format.isPlainName) text,
      level_override lowering settings⟩

/-- Lowering as the library does it is one of the ways. -/
theorem override_commutes_toLower :
    IsLowering String.toLower ∧
      (standard.override [("ABICALL_LOG_LEVEL", "DeBug")]).log.level = "debug" := by
  have kept := ((override_commutes standard [("ABICALL_LOG_LEVEL", "DeBug")]).2.2 String.toLower
    isLowering_toLower "DeBug").2.2 rfl
  refine ⟨isLowering_toLower, ?_⟩
  rw [kept]
  decide +kernel

/-- A level without meaning gives way to the standard one, unless the environment has another. -/
example :
    let settings : Settings := ⟨{ LogSettings.standard with level := "loud" }, .standard⟩
    (settings.override [("ABICALL_LOG_LEVEL", "quiet")]).log.setup.level = .info ∧
      (settings.override [("ABICALL_LOG_LEVEL", "DeBug")]).log.setup.level = .debug := by
  decide +kernel

end Settings
end Foreign
