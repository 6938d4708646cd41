import Foreign.Log.Filter
import Mathlib.Data.List.MinMax

/-!
Filters as tables. A library of filters is asked for two things: that a directive which is added takes the
place of the one for its target, and that of the targets that begin an event's target the longest decides. The
filters of the logger do both: of directives for one target only the newest counts, and plain directives are
more specific by the length of their targets alone.
-/

namespace Foreign.Log

section

variable {Entry : Type} {targetOf : Entry → String} {table : String → Option Entry}
  {newer older entries : List Entry} {a b : Entry} {target : String}

/-- The newest entry for exactly this target, of entries the newest of which comes first. -/
def newest? (targetOf : Entry → String) (entries : List Entry) (target : String) : Option Entry :=
  entries.find? (targetOf · = target)

/-- Of the entries in a table the one whose target is the longest beginning of an event's target. -/
structure Decides (targetOf : Entry → String) (table : String → Option Entry) (target : String)
    (entry : Entry) : Prop where
  listed : table (targetOf entry) = some entry
  begins : target.startsWith (targetOf entry) = true
  longest : ∀ name, (table name).isSome → target.startsWith name = true →
    name.length ≤ (targetOf entry).length

/-- Beginnings of one text are the same where they are equally long. -/
theorem eq_of_startsWith {text front other : String} (begins : text.startsWith front = true)
    (begins' : text.startsWith other = true) (length : front.length = other.length) : front = other := by
  rw [String.startsWith_string_iff] at begins begins'
  rw [← String.length_toList, ← String.length_toList] at length
  have leads := List.prefix_of_prefix_length_le begins begins' (Nat.le_of_eq length)
  exact String.toList_inj.mp (leads.eq_of_length length)

theorem Decides.unique (decides : Decides targetOf table target a)
    (decides' : Decides targetOf table target b) : a = b := by
  have le := decides'.longest _ (decides.listed ▸ rfl) decides.begins
  have ge := decides.longest _ (decides'.listed ▸ rfl) decides'.begins
  have same := eq_of_startsWith decides.begins decides'.begins (Nat.le_antisymm le ge)
  exact Option.some_inj.mp (decides.listed.symm.trans (same ▸ decides'.listed))

theorem newest?_eq_some (found : newest? targetOf entries target = some a) :
    a ∈ entries ∧ targetOf a = target :=
  ⟨List.mem_of_find?_eq_some found, by simpa using List.find?_some found⟩

theorem newest?_isSome_iff :
    (newest? targetOf entries target).isSome ↔ ∃ a ∈ entries, targetOf a = target := by
  simp [newest?, List.find?_isSome]

theorem newest?_append : newest? targetOf (newer ++ older) target =
    (newest? targetOf newer target).or (newest? targetOf older target) :=
  List.find?_append

theorem newest?_cons : newest? targetOf (a :: older) target =
    if targetOf a = target then some a else newest? targetOf older target := by
  rw [newest?, List.find?_cons]
  split <;> simp_all [newest?]

/-- Entries for different targets are independent of each other. -/
theorem newest?_swap (different : targetOf a ≠ targetOf b) :
    newest? targetOf (newer ++ a :: b :: older) target =
      newest? targetOf (newer ++ b :: a :: older) target := by
  rw [newest?_append, newest?_append, newest?_cons, newest?_cons, newest?_cons, newest?_cons]
  by_cases ha : targetOf a = target
  · rw [if_pos ha, if_neg fun hb => different (ha.trans hb.symm), if_pos ha]
  · rw [if_neg ha, if_neg ha]

/-- An entry does not matter where there is a newer one for its target. -/
theorem newest?_covered (mem : a ∈ newer) (same : targetOf a = targetOf b) :
    newest? targetOf (newer ++ b :: older) target = newest? targetOf (newer ++ older) target := by
  rw [newest?_append, newest?_append, newest?_cons]
  by_cases hb : targetOf b = target
  · obtain ⟨c, found⟩ := Option.isSome_iff_exists.mp (newest?_isSome_iff.mpr ⟨a, mem, same.trans hb⟩)
    rw [found, Option.some_or, Option.some_or]
  · rw [if_neg hb]

end

/-- What is to be known of the filters of a library: which of its directives are about a target and nothing
else, and which directive a filter has for exactly one target. -/
structure FilterLibrary.Table (library : FilterLibrary) where
  IsPlain : library.Directive → Prop
  target : library.Directive → String
  verbosity : library.Directive → Verbosity
  listed? : library.Filter → String → Option library.Directive

namespace FilterLibrary.Table

variable {library : FilterLibrary} (table : library.Table)

/-- Filters of plain directives that were given together or added one by one. -/
inductive Plain : library.Filter → Prop
  | given {directives : List library.Directive} (plain : ∀ directive ∈ directives, table.IsPlain directive) :
      Plain (library.ofDirectives directives)
  | added {filter : library.Filter} {directive : library.Directive} (earlier : Plain filter)
      (plain : table.IsPlain directive) : Plain (library.add filter directive)

/-- A directive that is added takes the place of the one for its target. -/
def Replaces : Prop :=
  ∀ filter directive, table.Plain filter → table.IsPlain directive → ∀ name,
    table.listed? (library.add filter directive) name =
      if table.target directive = name then some directive else table.listed? filter name

/-- The directive with the longest target that begins an event's target decides. -/
def LongestDecides : Prop :=
  ∀ filter, table.Plain filter → ∀ target level, library.verbosity filter target = some level ↔
    ∃ directive, Decides table.target (table.listed? filter) target directive ∧
      table.verbosity directive = some level

end FilterLibrary.Table

/-- The directive is about a target and nothing else. -/
structure Directive.IsPlain (directive : Directive) : Prop where
  span : directive.span = none
  field : directive.field = none

theorem Directive.IsPlain.isAboutEvents {directive : Directive} (plain : directive.IsPlain) :
    directive.isAboutEvents = true := by
  rw [Directive.isAboutEvents, plain.span, plain.field]
  rfl

theorem Directive.IsPlain.isAboutSpans {directive : Directive} (plain : directive.IsPlain) :
    directive.isAboutSpans = false := by
  rw [Directive.isAboutSpans, plain.span, plain.field]
  rfl

namespace Filter

structure IsPlain (filter : Filter) : Prop where
  events : ∀ directive ∈ filter.events, directive.IsPlain
  spans : filter.spans = []

variable {filter : Filter} {directives : List Directive} {a b : Directive} {target : String}

theorem ofDirectives_of_plain (plain : ∀ directive ∈ directives, directive.IsPlain) :
    ofDirectives directives = ⟨directives.reverse, []⟩ := by
  have events : directives.reverse.filter Directive.isAboutEvents = directives.reverse :=
    List.filter_eq_self.mpr fun directive mem => (plain directive (List.mem_reverse.mp mem)).isAboutEvents
  have spans : directives.reverse.filter Directive.isAboutSpans = [] := by
    rw [List.filter_eq_nil_iff]
    intro directive mem about
    cases (plain directive (List.mem_reverse.mp mem)).isAboutSpans.symm.trans about
  rw [ofDirectives, events, spans]

theorem add_of_plain (plain : a.IsPlain) : filter.add a = { filter with events := a :: filter.events } :=
  if_pos plain.isAboutEvents

theorem isPlain_ofDirectives (plain : ∀ directive ∈ directives, directive.IsPlain) :
    (ofDirectives directives).IsPlain := by
  rw [ofDirectives_of_plain plain]
  exact ⟨fun directive mem => plain directive (List.mem_reverse.mp mem), rfl⟩

theorem IsPlain.add (earlier : filter.IsPlain) (plain : a.IsPlain) : (filter.add a).IsPlain := by
  rw [add_of_plain plain]
  exact ⟨List.forall_mem_cons.mpr ⟨plain, earlier.events⟩, earlier.spans⟩

theorem isMoreSpecific_of_plain (plain : a.IsPlain) :
    isMoreSpecific a b = decide (b.target.length < a.target.length) := by
  rw [isMoreSpecific, plain.field]
  simp

/-- Plain directives decide by the length of their targets alone. -/
theorem directiveFor?_eq_argmax (plain : filter.IsPlain) :
    filter.directiveFor? target =
      (filter.events.filter fun directive => target.startsWith directive.target).argmax (·.target.length) := by
  rw [directiveFor?, List.argmax]
  refine List.foldl_ext _ _ _ fun best directive mem => ?_
  have hplain := plain.events directive (List.mem_of_mem_filter mem)
  cases best with
  | none => rfl
  | some found =>
      simp only [isMoreSpecific_of_plain hplain, decide_eq_true_eq]
      rfl

/-- Of equally long targets the one that comes first decides, which is the newest directive for it. -/
theorem newest?_of_first (mem : a ∈ directives) (begins : target.startsWith a.target = true)
    (first : ∀ b ∈ directives.filter fun directive => target.startsWith directive.target,
      a.target.length ≤ b.target.length →
      (directives.filter fun directive => target.startsWith directive.target).idxOf a ≤
        (directives.filter fun directive => target.startsWith directive.target).idxOf b) :
    newest? Directive.target directives a.target = some a := by
  have listed : (newest? Directive.target directives a.target).isSome :=
    newest?_isSome_iff.mpr ⟨a, mem, rfl⟩
  obtain ⟨b, found⟩ := Option.isSome_iff_exists.mp listed
  obtain ⟨hb, front, rest, rfl, passed⟩ := List.find?_eq_some_iff_append.mp found
  have same : b.target = a.target := of_decide_eq_true hb
  have absent : ∀ c, c.target = a.target → c ∉ front.filter fun directive => target.startsWith directive.target := by
    intro c hc inFront
    simpa [hc] using passed c (List.mem_of_mem_filter inFront)
  have le := first b (List.mem_filter.mpr ⟨by simp, same ▸ begins⟩) (Nat.le_of_eq (congrArg _ same.symm))
  rw [List.filter_append, List.filter_cons_of_pos (same ▸ begins), List.idxOf_append_of_notMem (absent a rfl),
    List.idxOf_append_of_notMem (absent b same), List.idxOf_cons_self, Nat.add_le_add_iff_left] at le
  rw [found]
  by_contra different
  rw [List.idxOf_cons_ne _ (fun h => different (congrArg _ h))] at le
  exact Nat.not_succ_le_zero _ le

theorem directiveFor?_eq_some_iff (plain : filter.IsPlain) :
    filter.directiveFor? target = some a ↔
      Decides Directive.target (newest? Directive.target filter.events) target a := by
  have decides : ∀ a, filter.directiveFor? target = some a →
      Decides Directive.target (newest? Directive.target filter.events) target a := by
    intro a decided
    rw [directiveFor?_eq_argmax plain, List.argmax_eq_some_iff] at decided
    obtain ⟨mem, longest, first⟩ := decided
    obtain ⟨inEvents, begins⟩ := List.mem_filter.mp mem
    refine ⟨?_, begins, ?_⟩
    · exact newest?_of_first inEvents begins first
    · intro name listed begins'
      obtain ⟨b, mem', rfl⟩ := newest?_isSome_iff.mp listed
      exact longest b (List.mem_filter.mpr ⟨mem', begins'⟩)
  refine ⟨decides a, fun h => ?_⟩
  cases decided : filter.directiveFor? target with
  | none =>
      rw [directiveFor?_eq_argmax plain, List.argmax_eq_none] at decided
      exact absurd h.begins (List.filter_eq_nil_iff.mp decided a (newest?_eq_some h.listed).1)
  | some b => rw [(decides b decided).unique h]

theorem verbosity_eq_some_iff (plain : filter.IsPlain) {level : Level} :
    filter.verbosity target = some level ↔
      ∃ directive, Decides Directive.target (newest? Directive.target filter.events) target directive ∧
        directive.verbosity = some level := by
  rw [verbosity, plain.spans, List.isEmpty_nil, if_pos rfl, Option.bind_eq_some_iff]
  simp only [directiveFor?_eq_some_iff plain]

/-- The filters of the logger as tables. -/
abbrev table : library.Table where
  IsPlain := Directive.IsPlain
  target := Directive.target
  verbosity := Directive.verbosity
  listed? := fun filter => newest? Directive.target filter.events

theorem isPlain_of_plain {filter : library.Filter} (plain : table.Plain filter) : IsPlain filter := by
  induction plain with
  | given plain => exact isPlain_ofDirectives plain
  | added _ plain ih => exact ih.add plain

theorem plain_of_isPlain (plain : filter.IsPlain) : table.Plain filter := by
  have reversed : ∀ directive ∈ filter.events.reverse, directive.IsPlain :=
    fun directive mem => plain.events directive (List.mem_reverse.mp mem)
  have given : ofDirectives filter.events.reverse = filter := by
    rw [ofDirectives_of_plain reversed, List.reverse_reverse, ← plain.spans]
  exact given ▸ .given reversed

/-- The text for a level is one plain directive. -/
theorem ofText_level (level : Level) :
    Directive.ofText s!"abicall={level.name}" = .ok ⟨"abicall", none, none, some level⟩ := by
  cases level <;> decide +kernel

theorem directive?_eq (text : String) : library.directive? text = (Directive.ofText text).toOption :=
  rfl

theorem ofLevel_eq (level : Level) :
    library.ofLevel level = (⟨[⟨"abicall", none, none, some level⟩], []⟩ : Filter) := by
  rw [FilterLibrary.ofLevel, directive?_eq, ofText_level]
  rfl

theorem plain_ofLevel (level : Level) : table.Plain (library.ofLevel level) := by
  rw [ofLevel_eq]
  refine plain_of_isPlain ⟨fun directive mem => ?_, rfl⟩
  cases List.mem_singleton.mp mem
  exact ⟨rfl, rfl⟩

theorem newest?_add (plain : a.IsPlain) (name : String) :
    newest? Directive.target (filter.add a).events name =
      if a.target = name then some a else newest? Directive.target filter.events name := by
  rw [add_of_plain plain]
  exact newest?_cons

theorem replaces : table.Replaces :=
  fun _ _ _ plain name => newest?_add plain name

theorem longestDecides : table.LongestDecides :=
  fun _ plain _ _ => verbosity_eq_some_iff (isPlain_of_plain plain)

end Filter
end Foreign.Log
