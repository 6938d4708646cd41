import Foreign.Proofs.Log.Table
import Foreign.Proofs.Text.Split

/-!
The filter of a setup. All that the text of a setup does is to put directives into the table that its base is:
what a segment of the text adds to it is settled by the segment, and what the table has for a target by the
last segment with that target. This holds with every library whose filters are tables.
-/

namespace Foreign.Log
namespace FilterLibrary

/-- The directive that a segment of a text adds to a filter, if it adds one. -/
def read? (library : FilterLibrary) (segment : String) : Option library.Directive :=
  if (Text.trimBlanks segment).isEmpty then none else library.directive? (Text.trimBlanks segment)

/-- The text with these segments between its commas. -/
def joined (segments : List String) : String :=
  ",".intercalate segments

variable {library : FilterLibrary} {table : library.Table} {base other : library.Filter}
  {directives : List library.Directive} {setup : Setup} {environment : Environment}
  {segments others before between after : List String} {segment first second front back : String}

theorem read?_of_blank (blank : ∀ c ∈ segment.toList, Text.isBlank c) : library.read? segment = none := by
  rw [read?, Text.trimBlanks_of_blank blank]
  rfl

theorem read?_of_invalid (invalid : library.directive? (Text.trimBlanks segment) = none) :
    library.read? segment = none := by
  rw [read?, invalid, ite_self]

theorem read?_append (blank : ∀ c ∈ front.toList, Text.isBlank c)
    (blank' : ∀ c ∈ back.toList, Text.isBlank c) :
    library.read? (front ++ segment ++ back) = library.read? segment := by
  rw [read?, Text.trimBlanks_append blank blank', read?]

theorem foldl_addSegment (segments : List String) (base : library.Filter) :
    (segments.filter fun segment => !(Text.trimBlanks segment).isEmpty).foldl library.addSegment base =
      (segments.filterMap library.read?).foldl library.add base := by
  induction segments generalizing base with
  | nil => rfl
  | cons segment rest ih =>
      cases blank : (Text.trimBlanks segment).isEmpty with
      | true =>
          have skipped : library.read? segment = none := if_pos blank
          rw [List.filter_cons_of_neg (by simp [blank]), List.filterMap_cons_none skipped, ih]
      | false =>
          have hread : library.read? segment = library.directive? (Text.trimBlanks segment) :=
            if_neg (by simp [blank])
          rw [List.filter_cons_of_pos (by simp [blank]), List.foldl_cons, ih, addSegment, ← hread]
          cases read : library.read? segment with
          | none => rw [List.filterMap_cons_none read]
          | some directive => rw [List.filterMap_cons_some read, List.foldl_cons]

theorem extend_joined (base : library.Filter) (apart : ∀ segment ∈ segments, ',' ∉ segment.toList) :
    library.extend base (joined segments) = (segments.filterMap library.read?).foldl library.add base := by
  have hcomma : "," = String.singleton ',' := rfl
  rw [extend, foldl_addSegment]
  cases segments with
  | nil =>
      have parts : (joined []).splitOn "," = [""] := by
        rw [hcomma, Text.splitOn_singleton]
        rfl
      have none : library.read? "" = none := read?_of_blank (by simp)
      rw [parts, List.filterMap_cons_none none]
  | cons segment rest => rw [joined, hcomma, Text.splitOn_intercalate apart (List.cons_ne_nil _ _)]

theorem build_of_base (based : library.build { setup with filter := none } environment = .ok base)
    (text : String) :
    library.build { setup with filter := some text } environment = .ok (library.extend base text) := by
  rw [build] at based ⊢
  dsimp only at based ⊢
  cases outcome : library.ofEnvironment environment with
  | error cause =>
      rw [outcome] at based
      cases based
  | ok found =>
      rw [outcome] at based
      cases based
      rfl

/-- The most verbose level for a target under a setup with these segments in the text of its filter. -/
def enabled (library : FilterLibrary) (setup : Setup) (environment : Environment) (segments : List String)
    (target : String) : Outcome Verbosity :=
  (library.build { setup with filter := some (joined segments) } environment).map (library.verbosity · target)

theorem enabled_of_base (based : library.build { setup with filter := none } environment = .ok base)
    (segments : List String) (target : String) :
    library.enabled setup environment segments target =
      .ok (library.verbosity (library.extend base (joined segments)) target) := by
  rw [enabled, build_of_base based]
  rfl

/-- What is let through depends on what the segments add, not on how they say it. -/
theorem enabled_congr (based : library.build { setup with filter := none } environment = .ok base)
    (apart : ∀ segment ∈ segments, ',' ∉ segment.toList) (apart' : ∀ segment ∈ others, ',' ∉ segment.toList)
    (same : segments.filterMap library.read? = others.filterMap library.read?) (target : String) :
    library.enabled setup environment segments target = library.enabled setup environment others target := by
  rw [enabled_of_base based, enabled_of_base based, extend_joined base apart, extend_joined base apart', same]

theorem enabled_skip (based : library.build { setup with filter := none } environment = .ok base)
    (apart : ∀ segment ∈ before ++ after, ',' ∉ segment.toList) (comma : ',' ∉ segment.toList)
    (skipped : library.read? segment = none) (target : String) :
    library.enabled setup environment (before ++ segment :: after) target =
      library.enabled setup environment (before ++ after) target := by
  refine enabled_congr based ?_ apart ?_ target
  · rw [List.forall_mem_append] at apart
    rw [List.forall_mem_append, List.forall_mem_cons]
    exact ⟨apart.1, comma, apart.2⟩
  · rw [List.filterMap_append, List.filterMap_append, List.filterMap_cons_none skipped]

theorem enabled_blanks (based : library.build { setup with filter := none } environment = .ok base)
    (apart : ∀ part ∈ before ++ segment :: after, ',' ∉ part.toList)
    (blank : ∀ c ∈ front.toList, Text.isBlank c) (blank' : ∀ c ∈ back.toList, Text.isBlank c)
    (target : String) :
    library.enabled setup environment (before ++ (front ++ segment ++ back) :: after) target =
      library.enabled setup environment (before ++ segment :: after) target := by
  have hcomma : Text.isBlank ',' = false := by decide
  have comma : ∀ text : String, (∀ c ∈ text.toList, Text.isBlank c) → ',' ∉ text.toList := by
    intro text blank mem
    exact Bool.false_ne_true (hcomma.symm.trans (blank _ mem))
  refine enabled_congr based ?_ apart ?_ target
  · rw [List.forall_mem_append, List.forall_mem_cons] at apart ⊢
    rw [String.toList_append, String.toList_append, List.mem_append, List.mem_append, not_or, not_or]
    exact ⟨apart.1, ⟨⟨comma front blank, apart.2.1⟩, comma back blank'⟩, apart.2.2⟩
  · rw [List.filterMap_append, List.filterMap_append, List.filterMap_cons, List.filterMap_cons,
      read?_append blank blank']

namespace Table

/-- What a table has for a target with directives on top of a base, the last of them on top. -/
def onTop (table : library.Table) (base : library.Filter) (directives : List library.Directive)
    (target : String) : Option library.Directive :=
  (newest? table.target directives.reverse target).or (table.listed? base target)

/-- Segments that add only plain directives, or nothing. -/
structure ListsPlain (table : library.Table) (segments : List String) : Prop where
  apart : ∀ segment ∈ segments, ',' ∉ segment.toList
  plain : ∀ segment ∈ segments, ∀ directive, library.read? segment = some directive →
    table.IsPlain directive

theorem ListsPlain.mono (lists : table.ListsPlain segments) (sub : others ⊆ segments) :
    table.ListsPlain others :=
  ⟨fun segment mem => lists.apart segment (sub mem), fun segment mem => lists.plain segment (sub mem)⟩

theorem ListsPlain.plain_directives (lists : table.ListsPlain segments) :
    ∀ directive ∈ segments.filterMap library.read?, table.IsPlain directive := by
  intro directive mem
  obtain ⟨segment, hsegment, hread⟩ := List.mem_filterMap.mp mem
  exact lists.plain segment hsegment directive hread

/-- By induction on the directives: each is the newest when it is added. -/
theorem Replaces.foldl (replaces : table.Replaces) (base_plain : table.Plain base)
    (plain : ∀ directive ∈ directives, table.IsPlain directive) :
    table.Plain (directives.foldl library.add base) ∧
      ∀ name, table.listed? (directives.foldl library.add base) name = table.onTop base directives name := by
  induction directives generalizing base with
  | nil => exact ⟨base_plain, fun _ => rfl⟩
  | cons directive rest ih =>
      obtain ⟨hdirective, hrest⟩ := List.forall_mem_cons.mp plain
      obtain ⟨hplain, hlisted⟩ := ih (.added base_plain hdirective) hrest
      refine ⟨hplain, fun name => ?_⟩
      rw [List.foldl_cons, hlisted, onTop, onTop, List.reverse_cons, newest?_append, Option.or_assoc,
        newest?_cons, replaces base directive base_plain hdirective name]
      by_cases same : table.target directive = name
      · rw [if_pos same, if_pos same, Option.some_or]
      · rw [if_neg same, if_neg same]
        rfl

theorem Replaces.extend (replaces : table.Replaces) (plain : table.Plain base)
    (lists : table.ListsPlain segments) :
    table.Plain (library.extend base (joined segments)) ∧
      ∀ name, table.listed? (library.extend base (joined segments)) name =
        table.onTop base (segments.filterMap library.read?) name := by
  rw [extend_joined base lists.apart]
  exact replaces.foldl plain lists.plain_directives

/-- The level for a target is the level that the table's longest beginning of it has. -/
theorem verbosity_extend (replaces : table.Replaces) (longest : table.LongestDecides)
    (plain : table.Plain base) (lists : table.ListsPlain segments) {target : String} {level : Level} :
    library.verbosity (library.extend base (joined segments)) target = some level ↔
      ∃ directive, Decides table.target (table.onTop base (segments.filterMap library.read?)) target directive ∧
        table.verbosity directive = some level := by
  obtain ⟨hplain, hlisted⟩ := replaces.extend plain lists
  rw [longest _ hplain, funext hlisted]

/-- Where the tables are the same, the same is let through. -/
theorem verbosity_congr (replaces : table.Replaces) (longest : table.LongestDecides)
    (plain : table.Plain base) (plain' : table.Plain other) (lists : table.ListsPlain segments)
    (lists' : table.ListsPlain others)
    (same : ∀ name, table.onTop base (segments.filterMap library.read?) name =
      table.onTop other (others.filterMap library.read?) name) (target : String) :
    library.verbosity (library.extend base (joined segments)) target =
      library.verbosity (library.extend other (joined others)) target := by
  ext level
  rw [verbosity_extend replaces longest plain lists, verbosity_extend replaces longest plain' lists', funext same]

variable {a b : library.Directive}

theorem enabled_swap (replaces : table.Replaces) (longest : table.LongestDecides)
    (based : library.build { setup with filter := none } environment = .ok base) (plain : table.Plain base)
    (lists : table.ListsPlain (before ++ first :: second :: after)) (ha : library.read? first = some a)
    (hb : library.read? second = some b) (different : table.target a ≠ table.target b) (target : String) :
    library.enabled setup environment (before ++ first :: second :: after) target =
      library.enabled setup environment (before ++ second :: first :: after) target := by
  have swapped := lists.mono (((List.Perm.swap first second after).append_left before).subset)
  rw [enabled_of_base based, enabled_of_base based]
  refine congrArg _ (verbosity_congr replaces longest plain plain lists swapped (fun name => ?_) target)
  simp only [onTop, List.filterMap_append, List.filterMap_cons_some ha, List.filterMap_cons_some hb,
    List.reverse_append, List.reverse_cons, List.append_assoc, List.nil_append, List.cons_append]
  rw [newest?_swap (Ne.symm different)]

theorem enabled_later (replaces : table.Replaces) (longest : table.LongestDecides)
    (based : library.build { setup with filter := none } environment = .ok base) (plain : table.Plain base)
    (lists : table.ListsPlain (before ++ first :: (between ++ second :: after)))
    (ha : library.read? first = some a) (hb : library.read? second = some b)
    (same : table.target a = table.target b) (target : String) :
    library.enabled setup environment (before ++ first :: (between ++ second :: after)) target =
      library.enabled setup environment (before ++ (between ++ second :: after)) target := by
  have fewer := lists.mono ((List.sublist_cons_self first _).append_left before).subset
  rw [enabled_of_base based, enabled_of_base based]
  refine congrArg _ (verbosity_congr replaces longest plain plain lists fewer (fun name => ?_) target)
  have covered : newest? table.target (((after.filterMap library.read?).reverse ++
        b :: (between.filterMap library.read?).reverse) ++ a :: (before.filterMap library.read?).reverse) name =
      newest? table.target (((after.filterMap library.read?).reverse ++
        b :: (between.filterMap library.read?).reverse) ++ (before.filterMap library.read?).reverse) name :=
    newest?_covered (List.mem_append_right _ List.mem_cons_self) same.symm
  simp only [onTop, List.filterMap_append, List.filterMap_cons_some ha, List.filterMap_cons_some hb,
    List.reverse_append, List.reverse_cons, List.append_assoc, List.nil_append, List.cons_append] at covered ⊢
  rw [covered]

/-- What the text lists for a target takes the place of what the base has for it. -/
theorem enabled_over_base (replaces : table.Replaces) (longest : table.LongestDecides)
    (based : library.build { setup with filter := none } environment = .ok base) (plain : table.Plain base)
    (plain' : table.Plain other) (lists : table.ListsPlain segments) (mem : segment ∈ segments)
    (ha : library.read? segment = some a)
    (others : ∀ name, name ≠ table.target a → table.listed? base name = table.listed? other name)
    (target : String) :
    library.enabled setup environment segments target =
      .ok (library.verbosity (library.extend other (joined segments)) target) := by
  rw [enabled_of_base based]
  refine congrArg _ (verbosity_congr replaces longest plain plain' lists lists (fun name => ?_) target)
  rw [onTop, onTop]
  by_cases same : name = table.target a
  · have listed : a ∈ (segments.filterMap library.read?).reverse :=
      List.mem_reverse.mpr (List.mem_filterMap.mpr ⟨segment, mem, ha⟩)
    obtain ⟨c, found⟩ := Option.isSome_iff_exists.mp (newest?_isSome_iff.mpr ⟨a, listed, same.symm⟩)
    rw [found, Option.some_or, Option.some_or]
  · rw [others name same]

end Table

/-- With a library whose filters are tables the directives of a setup, and below them those of its base, are a
table with one directive for each target: the last valid one that the text lists for it, or else the base's.
The level for a target is that of the table's longest beginning of the target. Segments of the text that are
blank or not valid make no difference wherever they stand, nor do blanks around a segment, nor the order of
two segments for different targets that stand next to each other, nor what a later segment for the same target
takes the place of, in the text or in the base. -/
theorem directives_as_table {library : FilterLibrary} {table : library.Table} (replaces : table.Replaces)
    (longest : table.LongestDecides) {setup : Setup} {environment : Environment} {base : library.Filter}
    (based : library.build { setup with filter := none } environment = .ok base)
    (plain : table.Plain base) :
    (∀ segments, table.ListsPlain segments →
      ∃ filter, library.build { setup with filter := some (joined segments) } environment = .ok filter ∧
        ∀ target level, library.verbosity filter target = some level ↔
          ∃ directive,
            Decides table.target (table.onTop base (segments.filterMap library.read?)) target directive ∧
            table.verbosity directive = some level) ∧
    (∀ before segment after, table.ListsPlain (before ++ after) → ',' ∉ segment.toList →
      (∀ c ∈ segment.toList, Text.isBlank c) ∨ library.directive? (Text.trimBlanks segment) = none →
      ∀ target, library.enabled setup environment (before ++ segment :: after) target =
        library.enabled setup environment (before ++ after) target) ∧
    (∀ before front segment back after, table.ListsPlain (before ++ segment :: after) →
      (∀ c ∈ front.toList, Text.isBlank c) → (∀ c ∈ back.toList, Text.isBlank c) →
      ∀ target, library.enabled setup environment (before ++ (front ++ segment ++ back) :: after) target =
        library.enabled setup environment (before ++ segment :: after) target) ∧
    (∀ before first second after a b, table.ListsPlain (before ++ first :: second :: after) →
      library.read? first = some a → library.read? second = some b → table.target a ≠ table.target b →
      ∀ target, library.enabled setup environment (before ++ first :: second :: after) target =
        library.enabled setup environment (before ++ second :: first :: after) target) ∧
    (∀ before first between second after a b,
      table.ListsPlain (before ++ first :: (between ++ second :: after)) →
      library.read? first = some a → library.read? second = some b → table.target a = table.target b →
      ∀ target, library.enabled setup environment (before ++ first :: (between ++ second :: after)) target =
        library.enabled setup environment (before ++ (between ++ second :: after)) target) ∧
    ∀ segments, table.ListsPlain segments → ∀ segment ∈ segments, ∀ a, library.read? segment = some a →
      ∀ other, table.Plain other →
        (∀ name, name ≠ table.target a → table.listed? base name = table.listed? other name) →
        ∀ target, library.enabled setup environment segments target =
          .ok (library.verbosity (library.extend other (joined segments)) target) := by
  refine ⟨fun segments lists => ?_, ?_, ?_, ?_, ?_, ?_⟩
  · exact ⟨_, build_of_base based _, fun _ _ => Table.verbosity_extend replaces longest plain lists⟩
  · intro before segment after lists comma idle
    exact enabled_skip based lists.apart comma (idle.elim read?_of_blank read?_of_invalid)
  · intro before front segment back after lists blank blank'
    exact enabled_blanks based lists.apart blank blank'
  · intro before first second after a b lists ha hb different
    exact Table.enabled_swap replaces longest based plain lists ha hb different
  · intro before first between second after a b lists ha hb same
    exact Table.enabled_later replaces longest based plain lists ha hb same
  · intro segments lists segment mem a ha other plain' others
    exact Table.enabled_over_base replaces longest based plain plain' lists mem ha others

/-- Directives for two targets, one of them twice, and a segment that is not valid. -/
def sampleSegments : List String :=
  ["abicall=debug", " abicall=debug", "?", "abicall=warn ", "error"]

theorem read?_sampleSegments : sampleSegments.map Filter.library.read? =
    [some ⟨"abicall", none, none, some .debug⟩, some ⟨"abicall", none, none, some .debug⟩, none,
      some ⟨"abicall", none, none, some .warn⟩, some ⟨"", none, none, some .error⟩] := by
  decide +kernel

theorem listsPlain_sampleSegments : Filter.table.ListsPlain sampleSegments := by
  refine ⟨by decide, fun segment mem directive read => ?_⟩
  have listed : some directive ∈ sampleSegments.map Filter.library.read? :=
    List.mem_map.mpr ⟨segment, mem, read⟩
  rw [read?_sampleSegments] at listed
  simp only [List.mem_cons, Option.some.injEq, reduceCtorEq, List.not_mem_nil, or_false, false_or] at listed
  rcases listed with rfl | rfl | rfl | rfl <;> exact ⟨rfl, rfl⟩

/-- Of two directives for one target the later, over a base for that target and beside a shorter one; what stands
between the two is not valid. -/
theorem directives_as_table_sample :
    let segments := [" abicall=debug", "?", "abicall=warn ", "error"]
    let enabled := Filter.library.enabled Setup.standard []
    (∃ filter, Filter.library.build { Setup.standard with filter := some (joined segments) } [] = .ok filter ∧
      Filter.library.verbosity filter "abicall::memory" = some .warn) ∧
    (∀ target, enabled segments target = enabled [" abicall=debug", "abicall=warn ", "error"] target) ∧
    (∀ target, enabled segments target = enabled ["abicall=debug", "?", "abicall=warn ", "error"] target) ∧
    (∀ target, enabled segments target = enabled [" abicall=debug", "?", "error", "abicall=warn "] target) ∧
    (∀ target, enabled segments target = enabled ["?", "abicall=warn ", "error"] target) ∧
    ∀ target, enabled segments target = .ok (Filter.library.verbosity
      (Filter.library.extend (Filter.library.ofLevel .trace) (joined segments)) target) := by
  intro segments enabled
  have reads := read?_sampleSegments
  simp only [sampleSegments, List.map_cons, List.map_nil, List.cons.injEq, and_true] at reads
  obtain ⟨hdebug, hblank, hinvalid, hwarn, herror⟩ := reads
  have all := listsPlain_sampleSegments
  rw [sampleSegments] at all
  have based : Filter.library.build { Setup.standard with filter := none } [] =
      .ok (Filter.library.ofLevel .info) := rfl
  obtain ⟨rule, skip, blanks, swap, later, above⟩ := directives_as_table Filter.replaces
    Filter.longestDecides based (Filter.plain_ofLevel .info)
  have lists : Filter.table.ListsPlain segments := all.mono (by simp [segments])
  refine ⟨?_, ?_, ?_, ?_, ?_, ?_⟩
  · obtain ⟨filter, made, rule⟩ := rule segments lists
    refine ⟨filter, made, (rule _ _).mpr ⟨⟨"abicall", none, none, some .warn⟩, ?_, rfl⟩⟩
    have listed : segments.filterMap Filter.library.read? =
        [⟨"abicall", none, none, some .debug⟩, ⟨"abicall", none, none, some .warn⟩,
          ⟨"", none, none, some .error⟩] := by
      simp only [segments, List.filterMap_cons, hblank, hinvalid, hwarn, herror, List.filterMap_nil]
    rw [listed, Filter.ofLevel_eq]
    refine ⟨rfl, by decide +kernel, fun name named _ => ?_⟩
    rw [Table.onTop, Option.isSome_or, Bool.or_eq_true, newest?_isSome_iff, newest?_isSome_iff] at named
    rcases named with ⟨a, mem, rfl⟩ | ⟨a, mem, rfl⟩
    · revert a mem
      decide +kernel
    · revert a mem
      decide +kernel
  · exact skip [" abicall=debug"] "?" ["abicall=warn ", "error"] (all.mono (by simp)) (by decide)
      (.inr (by decide +kernel))
  · exact blanks [] " " "abicall=debug" "" ["?", "abicall=warn ", "error"] (all.mono (by simp))
      (List.forall_mem_singleton.mpr rfl) (List.forall_mem_nil _)
  · exact swap [" abicall=debug", "?"] "abicall=warn " "error" [] _ _ lists hwarn herror (by decide)
  · exact later [] " abicall=debug" ["?"] "abicall=warn " ["error"] _ _ lists hblank hwarn rfl
  · refine above segments lists "abicall=warn " (by simp [segments]) _ hwarn _ (Filter.plain_ofLevel .trace) ?_
    intro name different
    have absent : ∀ level, Filter.table.listed? (Filter.library.ofLevel level) name = none := by
      intro level
      rw [Filter.ofLevel_eq]
      exact newest?_cons.trans (if_neg (Ne.symm different))
    rw [absent, absent]

end FilterLibrary
end Foreign.Log
