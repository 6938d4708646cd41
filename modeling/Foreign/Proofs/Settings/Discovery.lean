import Foreign.Proofs.FileTree
import Foreign.Proofs.Text.Path
import Foreign.Settings.Discovery

/-!
Discovery goes by the spelling of the start, but what it finds is settled by steps: each directory on the way up
has its settings where the first steps of the start lead. So what makes no difference to where those steps lead
makes none to discovery.
-/

namespace Foreign

/-- What a file says about settings, if it can be read and understood. -/
def Entry.settings? : Entry → Option Settings
  | .file bytes => if Utf8.isValid bytes then (Settings.ofText (Utf8.decode bytes)).toOption else none
  | .directory | .sealed => none

theorem Entry.settings?_eq_some_iff {entry : Entry} {settings : Settings} :
    entry.settings? = some settings ↔ ∃ bytes, entry = .file bytes ∧ Utf8.isValid bytes = true ∧
      Settings.ofText (Utf8.decode bytes) = .ok settings := by
  cases entry with
  | directory | sealed => exact iff_of_false nofun (fun ⟨_, h, _⟩ => nomatch h)
  | file bytes =>
      rw [Entry.settings?]
      constructor
      · intro found
        split at found
        · refine ⟨bytes, rfl, ‹_›, ?_⟩
          cases parsed : Settings.ofText (Utf8.decode bytes) with
          | error cause => rw [parsed] at found; cases found
          | ok settings' =>
              rw [parsed] at found
              cases found
              rfl
        · cases found
      · rintro ⟨_, ⟨⟩, valid, parsed⟩
        rw [if_pos valid, parsed]
        rfl

/-- An empty file asks for nothing but what is standard. -/
theorem Entry.settings?_empty : Entry.settings? (.file []) = some Settings.standard := by
  have text : Utf8.decode [] = "" := by
    rw [Utf8.decode, Utf8.decodeChars, String.ofList_nil]
  refine Entry.settings?_eq_some_iff.mpr ⟨[], rfl, ?_, ?_⟩
  · rw [Utf8.isValid, text]
    rfl
  · rw [text]
    rfl

namespace Settings

variable {tree : FileTree} {directory place : Place} {entry : Entry} {path start deeper : String}
  {settings : Settings} {steps rest : List String}

/-- The settings in the directory that the steps lead to. -/
def settingsIn? (tree : FileTree) (place : Place) (steps : List String) : Option Settings :=
  ((tree.walk place (steps ++ [fileName])).bind tree.entry?).bind Entry.settings?

/-- Where a path begins that is followed from a directory. -/
def origin (directory : Place) (path : String) : Place :=
  if Path.isAbsolute path then [] else directory

/-- A directory as it is spelled has a file of settings which can be read and understood. -/
structure Holds (tree : FileTree) (directory : Place) (path : String) (settings : Settings) : Prop where
  short : FileTree.isTooLong (Path.join path fileName) = false
  file : ∃ file bytes, tree.walk (origin directory path) (Path.components path ++ [fileName]) = some file ∧
    tree.entry? file = some (.file bytes) ∧ Utf8.isValid bytes = true ∧ ofText (Utf8.decode bytes) = .ok settings

theorem relative_fileName : Path.isAbsolute fileName = false := by decide +kernel

theorem apart_fileName : '/' ∉ fileName.toList := by decide

theorem isStep_fileName : Path.isStep fileName := by decide

theorem fileName_ne_up : fileName ≠ ".." := by decide

theorem locate?_join (tree : FileTree) (directory : Place) (path : String) :
    tree.locate? directory (Path.join path fileName) =
      if FileTree.isTooLong (Path.join path fileName) then none
      else tree.walk (origin directory path) (Path.components path ++ [fileName]) := by
  obtain ⟨parts, split, steps⟩ := Path.splitOn_join path apart_fileName relative_fileName
  rw [FileTree.locate?, split, FileTree.walk_filter, steps, Path.isAbsolute_join path relative_fileName, origin]

theorem toOption_load (tree : FileTree) (directory : Place) (path : String) :
    (load tree directory path).toOption =
      ((tree.locate? directory path).bind tree.entry?).bind Entry.settings? := by
  rw [load, FileTree.readText?, FileTree.read?]
  cases tree.locate? directory path with
  | none => rfl
  | some file =>
      dsimp only [bind, Option.bind]
      cases tree.entry? file with
      | none => rfl
      | some entry =>
          cases entry with
          | directory | sealed => rfl
          | file bytes =>
              dsimp only
              rw [Entry.settings?]
              cases Utf8.isValid bytes <;> rfl

/-- The settings in a directory as it is spelled. -/
def settingsAt? (tree : FileTree) (directory : Place) (path : String) : Option Settings :=
  (load tree directory (Path.join path fileName)).toOption

/-- They are found where the steps of the directory lead. -/
theorem settingsAt?_eq (tree : FileTree) (directory : Place) (path : String) :
    settingsAt? tree directory path =
      if FileTree.isTooLong (Path.join path fileName) then none
      else settingsIn? tree (origin directory path) (Path.components path) := by
  rw [settingsAt?, toOption_load, locate?_join, settingsIn?]
  split <;> rfl

theorem settingsAt?_eq_some_iff :
    settingsAt? tree directory path = some settings ↔ Holds tree directory path settings := by
  rw [settingsAt?_eq, settingsIn?]
  constructor
  · intro loaded
    split at loaded
    · cases loaded
    · obtain ⟨entry, reached, held⟩ := Option.bind_eq_some_iff.mp loaded
      obtain ⟨file, walked, found⟩ := Option.bind_eq_some_iff.mp reached
      obtain ⟨bytes, rfl, valid, parsed⟩ := Entry.settings?_eq_some_iff.mp held
      exact ⟨Bool.eq_false_iff.mpr ‹_›, file, bytes, walked, found, valid, parsed⟩
  · rintro ⟨short, file, bytes, reached, found, valid, parsed⟩
    rw [short, if_neg Bool.false_ne_true, reached, Option.bind_some, found, Option.bind_some]
    exact Entry.settings?_eq_some_iff.mpr ⟨bytes, rfl, valid, parsed⟩

theorem settingsAt?_eq_none_iff :
    settingsAt? tree directory path = none ↔ ∀ settings, ¬ Holds tree directory path settings := by
  rw [Option.eq_none_iff_forall_ne_some]
  exact forall_congr' fun settings => not_congr settingsAt?_eq_some_iff

/-- Nothing is loaded but files. -/
theorem leadsToFile_of_load (loaded : (load tree directory path).toOption = some settings) :
    tree.leadsToFile directory path = true := by
  rw [toOption_load] at loaded
  obtain ⟨entry, reached, held⟩ := Option.bind_eq_some_iff.mp loaded
  obtain ⟨file, located, found⟩ := Option.bind_eq_some_iff.mp reached
  obtain ⟨bytes, rfl, -, -⟩ := Entry.settings?_eq_some_iff.mp held
  rw [FileTree.leadsToFile, located, Option.any_some, FileTree.isFile, found]

/-- So the paths that lead to no file can as well be tried. -/
theorem findSome?_leadsToFile (tree : FileTree) (directory : Place) (paths : List String) :
    (paths.filter (tree.leadsToFile directory)).findSome? (fun path => (load tree directory path).toOption) =
      paths.findSome? fun path => (load tree directory path).toOption := by
  induction paths with
  | nil => rfl
  | cons path rest ih =>
      rw [List.findSome?_cons, ← ih]
      cases loaded : (load tree directory path).toOption with
      | some settings =>
          rw [List.filter_cons_of_pos (leadsToFile_of_load loaded), List.findSome?_cons, loaded]
      | none =>
          by_cases leads : tree.leadsToFile directory path
          · rw [List.filter_cons_of_pos leads, List.findSome?_cons, loaded]
          · rw [List.filter_cons_of_neg leads]

theorem discoverFrom_eq (tree : FileTree) (directory : Place) (start : String) :
    discoverFrom tree directory start = (Path.ascent start).findSome? (settingsAt? tree directory) := by
  rw [discoverFrom, findSome?_leadsToFile, candidates, List.findSome?_map]
  rfl

theorem discoverFrom_eq_some_iff :
    discoverFrom tree directory start = some settings ↔
      ∃ nearer above farther, Path.ascent start = nearer ++ above :: farther ∧
        Holds tree directory above settings ∧ ∀ other ∈ nearer, ∀ found, ¬ Holds tree directory other found := by
  simp only [discoverFrom_eq, List.findSome?_eq_some_iff, settingsAt?_eq_some_iff, settingsAt?_eq_none_iff]

theorem discoverFrom_eq_none_iff :
    discoverFrom tree directory start = none ↔
      ∀ above ∈ Path.ascent start, ∀ settings, ¬ Holds tree directory above settings := by
  rw [discoverFrom_eq, List.findSome?_eq_none_iff]
  exact forall₂_congr fun _ _ => settingsAt?_eq_none_iff

theorem settingsIn?_of_ne_directory (blocked : tree.entry? place ≠ some .directory) (steps : List String) :
    settingsIn? tree place steps = none := by
  rw [settingsIn?, FileTree.walk_of_ne_directory blocked (List.append_ne_nil_of_right_ne_nil _ (List.cons_ne_nil _ _))]
  rfl

section

variable {step : String} (isDirectory : tree.entry? place = some .directory)
include isDirectory

theorem settingsIn?_nil : settingsIn? tree place [] = (tree.entry? (place ++ [fileName])).bind Entry.settings? := by
  rw [settingsIn?, List.nil_append, FileTree.walk_down isDirectory isStep_fileName fileName_ne_up]
  cases found : tree.entry? (place ++ [fileName]) with
  | none => rfl
  | some entry =>
      rw [Option.isSome_some, if_pos rfl, FileTree.walk, Option.bind_some, found]

theorem settingsIn?_up : settingsIn? tree place (".." :: rest) = settingsIn? tree place.dropLast rest := by
  rw [settingsIn?, List.cons_append, FileTree.walk_up isDirectory, settingsIn?]

theorem settingsIn?_down (leads : Path.isStep step) (down : step ≠ "..") :
    settingsIn? tree place (step :: rest) =
      if (tree.entry? (place ++ [step])).isSome then settingsIn? tree (place ++ [step]) rest else none := by
  rw [settingsIn?, List.cons_append, FileTree.walk_down isDirectory leads down, settingsIn?]
  split <;> rfl

end

/-- The steps from a place never go up from another one. -/
def LeavesAlone (tree : FileTree) (origin place : Place) (steps : List String) : Prop :=
  ∀ before after, steps = before ++ ".." :: after → tree.walk origin before ≠ some place

namespace LeavesAlone

variable {origin : Place} {step : String}

theorem shorter (alone : LeavesAlone tree origin place steps) (sub : rest <+: steps) :
    LeavesAlone tree origin place rest := by
  obtain ⟨more, rfl⟩ := sub
  rintro before after rfl
  exact alone before (after ++ more) (by rw [List.append_assoc, List.cons_append])

/-- From the place itself they do not go up at once. -/
theorem head_ne (alone : LeavesAlone tree place place steps) : steps.head? ≠ some ".." := by
  intro headed
  obtain ⟨after, rfl⟩ := List.head?_eq_some_iff.mp headed
  exact alone [] after rfl rfl

theorem up (alone : LeavesAlone tree origin place (".." :: rest)) (isDirectory : tree.entry? origin = some .directory) :
    LeavesAlone tree origin.dropLast place rest := by
  rintro before after rfl reached
  refine alone (".." :: before) after (by rw [List.cons_append]) ?_
  rwa [FileTree.walk_up isDirectory]

theorem down (alone : LeavesAlone tree origin place (step :: rest)) (isDirectory : tree.entry? origin = some .directory)
    (leads : Path.isStep step) (forward : step ≠ "..") (present : (tree.entry? (origin ++ [step])).isSome) :
    LeavesAlone tree (origin ++ [step]) place rest := by
  rintro before after rfl reached
  refine alone (step :: before) after (by rw [List.cons_append]) ?_
  rwa [FileTree.walk_down isDirectory leads forward, if_pos present]

end LeavesAlone

section

variable {origin : Place} (absent : tree.entry? place = none)
include absent

/-- There is nothing to be found further down from what is added. -/
theorem settingsIn?_insert_self (leads : ∀ step ∈ steps, Path.isStep step) (alone : entry = .directory →
    tree.IsProper ∧ LeavesAlone (tree.insert place entry) place place steps) :
    settingsIn? (tree.insert place entry) place steps = none := by
  have added : FileTree.entry? (tree.insert place entry) place = some entry :=
    FileTree.entry?_insert_self (FileTree.ne_nil_of_absent absent)
  by_cases directory : entry = .directory
  · subst directory
    obtain ⟨proper, leaves⟩ := alone rfl
    have empty : ∀ name, FileTree.entry? (tree.insert place .directory) (place ++ [name]) = none := by
      intro name
      rw [FileTree.entry?_insert_of_ne (by simp)]
      by_contra some
      rw [proper place name (Option.isSome_iff_ne_none.mpr some)] at absent
      cases absent
    cases steps with
    | nil =>
        rw [settingsIn?_nil added, empty]
        rfl
    | cons step rest =>
        have forward : step ≠ ".." := fun h => leaves.head_ne (congrArg some h)
        rw [settingsIn?_down added (leads step List.mem_cons_self) forward, empty]
        rfl
  · refine settingsIn?_of_ne_directory ?_ steps
    rw [added]
    exact fun h => directory (Option.some.inj h)

theorem settingsIn?_of_absent (steps : List String) : settingsIn? tree place steps = none := by
  refine settingsIn?_of_ne_directory ?_ steps
  rw [absent]
  nofun

/-- What is added where there was nothing, and says nothing about settings, is as good as nothing wherever the
steps do not go up from it: induction on the steps, from any place. -/
theorem settingsIn?_insert (idle : entry.settings? = none) (leads : ∀ step ∈ steps, Path.isStep step)
    (alone : entry = .directory → tree.IsProper ∧ LeavesAlone (tree.insert place entry) origin place steps) :
    settingsIn? (tree.insert place entry) origin steps = settingsIn? tree origin steps := by
  have added : FileTree.entry? (tree.insert place entry) place = some entry :=
    FileTree.entry?_insert_self (FileTree.ne_nil_of_absent absent)
  have kept : ∀ other, other ≠ place → FileTree.entry? (tree.insert place entry) other = tree.entry? other :=
    fun _ => FileTree.entry?_insert_of_ne
  induction steps generalizing origin with
  | nil =>
      by_cases here : origin = place
      · rw [here, settingsIn?_of_absent absent, settingsIn?_insert_self absent leads (here ▸ alone)]
      by_cases isDirectory : tree.entry? origin = some .directory
      · rw [settingsIn?_nil isDirectory, settingsIn?_nil ((kept _ here).trans isDirectory)]
        by_cases there : origin ++ [fileName] = place
        · rw [there, added, absent, Option.bind_some, idle]
          rfl
        · rw [kept _ there]
      · rw [settingsIn?_of_ne_directory isDirectory, settingsIn?_of_ne_directory (kept _ here ▸ isDirectory)]
  | cons step rest ih =>
      by_cases here : origin = place
      · rw [here, settingsIn?_of_absent absent, settingsIn?_insert_self absent leads (here ▸ alone)]
      by_cases isDirectory : tree.entry? origin = some .directory
      · have isDirectory' := (kept _ here).trans isDirectory
        obtain ⟨first, others⟩ := List.forall_mem_cons.mp leads
        by_cases up : step = ".."
        · subst up
          rw [settingsIn?_up isDirectory, settingsIn?_up isDirectory']
          exact ih others fun h => ⟨(alone h).1, (alone h).2.up isDirectory'⟩
        · have later : (FileTree.entry? (tree.insert place entry) (origin ++ [step])).isSome →
              settingsIn? (tree.insert place entry) (origin ++ [step]) rest = settingsIn? tree (origin ++ [step]) rest :=
            fun present => ih others fun h => ⟨(alone h).1, (alone h).2.down isDirectory' first up present⟩
          rw [settingsIn?_down isDirectory first up, settingsIn?_down isDirectory' first up]
          by_cases there : origin ++ [step] = place
          · rw [there] at later ⊢
            rw [added, absent, Option.isSome_some, if_pos rfl, later (added ▸ rfl), settingsIn?_of_absent absent]
            rfl
          · rw [kept _ there] at later ⊢
            split
            · exact later ‹_›
            · rfl
      · rw [settingsIn?_of_ne_directory isDirectory, settingsIn?_of_ne_directory (kept _ here ▸ isDirectory)]

end

theorem leads_of_mem_components : ∀ step ∈ Path.components path, Path.isStep step :=
  fun _ mem => (List.mem_filter.mp mem).2

theorem findSome?_congr {α β : Type} {list : List α} {f g : α → Option β} (same : ∀ a ∈ list, f a = g a) :
    list.findSome? f = list.findSome? g := by
  rw [← Function.id_comp f, ← Function.id_comp g, ← List.findSome?_map, ← List.findSome?_map,
    List.map_congr_left same]

/-- On the way up all begin where the start begins. -/
theorem origin_of_mem_ascent {above : String} (mem : above ∈ Path.ascent start) :
    origin directory above = origin directory start := by
  rw [origin, origin, Path.isAbsolute_of_mem_ascent mem]

theorem settingsAt?_of_mem_ascent {above : String} (mem : above ∈ Path.ascent start)
    (short : FileTree.isTooLong (Path.join above fileName) = false) :
    settingsAt? tree directory above = settingsIn? tree (origin directory start) (Path.components above) := by
  rw [settingsAt?_eq, short, if_neg Bool.false_ne_true, origin_of_mem_ascent mem]

theorem discoverFrom_insert (absent : tree.entry? place = none) (idle : entry.settings? = none)
    (alone : entry = .directory → tree.IsProper ∧
      LeavesAlone (tree.insert place entry) (origin directory start) place (Path.components start)) :
    discoverFrom (tree.insert place entry) directory start = discoverFrom tree directory start := by
  rw [discoverFrom_eq, discoverFrom_eq]
  refine findSome?_congr fun above mem => ?_
  have first := Path.components_prefix_of_mem_ascent mem
  rw [settingsAt?_eq, settingsAt?_eq, origin_of_mem_ascent mem, settingsIn?_insert absent idle leads_of_mem_components
    fun h => ⟨(alone h).1, (alone h).2.shorter first⟩]

/-- Where the settings in a directory depend on its steps alone, those are found that are the first on the way
up the steps. -/
theorem discoverFrom_of_steps {found : List String → Option Settings}
    (each : ∀ above ∈ Path.ascent start, settingsAt? tree directory above = found (Path.components above)) :
    discoverFrom tree directory start = (Path.ancestors (Path.components start)).findSome? found := by
  rw [discoverFrom_eq, findSome?_congr each]
  change (Path.ascent start).findSome? (found ∘ Path.components) = _
  rw [← List.findSome?_map, Path.map_components_ascent, List.findSome?_append]
  cases outcome : (Path.ancestors (Path.components start)).findSome? found with
  | some settings => rfl
  | none =>
      have top := List.findSome?_eq_none_iff.mp outcome [] (Path.nil_mem_ancestors _)
      split
      · rw [Option.none_or, List.findSome?_singleton, top]
      · rfl

theorem findSome?_ancestors_append {found : List String → Option Settings} {steps more : List String}
    (none : ∀ lower, steps.length < lower.length → found lower = none) :
    (Path.ancestors (steps ++ more)).findSome? found = (Path.ancestors steps).findSome? found := by
  induction more using List.reverseRecOn with
  | nil => rw [List.append_nil]
  | append_singleton more step ih =>
      rw [← List.append_assoc, Path.ancestors_concat, List.findSome?_cons, none _ (by simp)]
      exact ih

theorem short_of_leads {above : String} (sub : above.toList <+: start.toList)
    (short : FileTree.isTooLong (Path.join start fileName) = false) :
    FileTree.isTooLong (Path.join above fileName) = false := by
  have le := Path.utf8ByteSize_join_le sub relative_fileName
  rw [FileTree.isTooLong, decide_eq_false_iff_not] at short ⊢
  omega

/-- From a start that is not too long to be followed, the settings are those in the first directory on the way up
its steps that holds any. -/
theorem discoverFrom_of_short (short : FileTree.isTooLong (Path.join start fileName) = false) :
    discoverFrom tree directory start =
      (Path.ancestors (Path.components start)).findSome? (settingsIn? tree (origin directory start)) := by
  refine discoverFrom_of_steps fun above mem => ?_
  exact settingsAt?_of_mem_ascent mem (short_of_leads (Path.toList_prefix_of_mem_ascent mem) short)

/-- The settings in the directory that the steps lead to, if they are no more than `depth`. -/
def settingsWithin? (tree : FileTree) (place : Place) (depth : Nat) (steps : List String) : Option Settings :=
  if depth < steps.length then none else settingsIn? tree place steps

/-- Directories further down that hold no settings make no difference, so long as no way to a settings file
that is tried from the start on upwards is too long. -/
theorem discoverFrom_deeper (root : Path.isAbsolute deeper = Path.isAbsolute start)
    (below : Path.components start <+: Path.components deeper)
    (empty : ∀ above ∈ Path.ascent deeper, (Path.components start).length < (Path.components above).length →
      ∀ settings, ¬ Holds tree directory above settings)
    (short : FileTree.isTooLong (Path.join start fileName) = false)
    (short' : ∀ above ∈ Path.ascent deeper, (Path.components above).length ≤ (Path.components start).length →
      FileTree.isTooLong (Path.join above fileName) = false) :
    discoverFrom tree directory deeper = discoverFrom tree directory start := by
  obtain ⟨more, hmore⟩ := below
  have hstart : ∀ above ∈ Path.ascent start, settingsAt? tree directory above =
      settingsWithin? tree (origin directory start) (Path.components start).length (Path.components above) := by
    intro above mem
    have le := (Path.components_prefix_of_mem_ascent mem).length_le
    rw [settingsWithin?, if_neg (Nat.not_lt.mpr le)]
    exact settingsAt?_of_mem_ascent mem (short_of_leads (Path.toList_prefix_of_mem_ascent mem) short)
  have hdeeper : ∀ above ∈ Path.ascent deeper, settingsAt? tree directory above =
      settingsWithin? tree (origin directory start) (Path.components start).length (Path.components above) := by
    intro above mem
    rw [settingsWithin?]
    split
    case isTrue lower => exact settingsAt?_eq_none_iff.mpr (empty above mem lower)
    case isFalse le =>
      rw [settingsAt?_of_mem_ascent mem (short' above mem (Nat.le_of_not_lt le)), origin, origin, root]
  have hlower : ∀ lower : List String, (Path.components start).length < lower.length →
      settingsWithin? tree (origin directory start) (Path.components start).length lower = none :=
    fun _ lower => if_pos lower
  rw [discoverFrom_of_steps hstart, discoverFrom_of_steps hdeeper, ← hmore, findSome?_ancestors_append hlower]

/-- Discovery finds the nearest settings. Of the directories on the way up from the start, itself first, the
nearest is taken that has a settings file which can be read and understood, and there is nothing to be found
only if none has one. Adding a file that cannot be read or understood where there was nothing changes nothing,
wherever it is; nor does adding a directory, unless the start goes up again from that very one. And further
down the same is found, past directories that hold nothing, so long as no way to a settings file from the start
on upwards is too long to be followed. -/
theorem discoverFrom_nearest (tree : FileTree) (directory : Place) (start : String) :
    ((Path.ascent start).head? = some start ∧
      (Path.ascent start).map Path.components =
        Path.ancestors (Path.components start) ++ (if (Path.divide start).1 = .dot then [[]] else []) ∧
      ∀ above ∈ Path.ascent start,
        Path.isAbsolute above = Path.isAbsolute start ∧ above.toList <+: start.toList) ∧
    (∀ settings, discoverFrom tree directory start = some settings ↔
      ∃ nearer above farther, Path.ascent start = nearer ++ above :: farther ∧
        Holds tree directory above settings ∧ ∀ other ∈ nearer, ∀ found, ¬ Holds tree directory other found) ∧
    (discoverFrom tree directory start = none ↔
      ∀ above ∈ Path.ascent start, ∀ settings, ¬ Holds tree directory above settings) ∧
    (∀ place entry, tree.entry? place = none → entry.settings? = none →
      (entry = .directory → tree.IsProper ∧
        LeavesAlone (tree.insert place entry) (origin directory start) place (Path.components start)) →
      discoverFrom (tree.insert place entry) directory start = discoverFrom tree directory start) ∧
    ∀ deeper, Path.isAbsolute deeper = Path.isAbsolute start →
      Path.components start <+: Path.components deeper →
      (∀ above ∈ Path.ascent deeper, (Path.components start).length < (Path.components above).length →
        ∀ settings, ¬ Holds tree directory above settings) →
      FileTree.isTooLong (Path.join start fileName) = false →
      (∀ above ∈ Path.ascent deeper, (Path.components above).length ≤ (Path.components start).length →
        FileTree.isTooLong (Path.join above fileName) = false) →
      discoverFrom tree directory deeper = discoverFrom tree directory start := by
  refine ⟨⟨rfl, Path.map_components_ascent start, fun above mem => ?_⟩, fun settings => discoverFrom_eq_some_iff,
    discoverFrom_eq_none_iff, fun place entry absent idle alone => discoverFrom_insert absent idle alone,
    fun deeper root below empty short short' => discoverFrom_deeper root below empty short short'⟩
  exact ⟨Path.isAbsolute_of_mem_ascent mem, Path.toList_prefix_of_mem_ascent mem⟩

/-- Two directories at the top, one of them with an empty file of settings. -/
def sampleTree : FileTree :=
  ⟨[(["y", fileName], .file []), (["y"], .directory), (["x"], .directory)]⟩

theorem isProper_sampleTree : sampleTree.IsProper :=
  FileTree.isProper_of_entries (by decide)

theorem origin_top (path : String) : origin [] path = [] :=
  ite_self _

theorem settingsAt?_sampleTree : settingsAt? sampleTree [] "y" = some standard := by
  have short : FileTree.isTooLong (Path.join "y" fileName) = false := by decide +kernel
  have found : settingsIn? sampleTree [] ["y"] = Entry.settings? (.file []) := rfl
  rw [settingsAt?_eq, short, origin_top, Path.components_of_apart (by decide) (by decide)]
  exact found.trans Entry.settings?_empty

theorem settingsAt?_sampleTree_beside : settingsAt? sampleTree [] "x" = none := by
  have short : FileTree.isTooLong (Path.join "x" fileName) = false := by decide +kernel
  rw [settingsAt?_eq, short, origin_top, Path.components_of_apart (by decide) (by decide)]
  rfl

theorem settingsAt?_sampleTree_top : settingsAt? sampleTree [] "" = none := by
  have short : FileTree.isTooLong (Path.join "" fileName) = false := by decide +kernel
  rw [settingsAt?_eq, short, origin_top, Path.components_empty]
  rfl

/-- One directory has settings and one has none. A directory with the name of the file is added above a start,
and a start lies below the directory that has settings. -/
theorem discoverFrom_nearest_sample :
    ((Path.ascent "y/b").head? = some "y/b" ∧
      (Path.ascent "y/b").map Path.components = [["y", "b"], ["y"], []] ∧
      ∀ above ∈ Path.ascent "y/b", Path.isAbsolute above = false ∧ above.toList <+: "y/b".toList) ∧
      discoverFrom sampleTree [] "y" = some standard ∧
      discoverFrom sampleTree [] "x" = none ∧
      discoverFrom (sampleTree.insert ["x", fileName] .directory) [] "x" = discoverFrom sampleTree [] "x" ∧
      discoverFrom sampleTree [] "y/b" = discoverFrom sampleTree [] "y" := by
  obtain ⟨⟨itself, spelled, same⟩, -, -, -, -⟩ := discoverFrom_nearest sampleTree [] "y/b"
  obtain ⟨-, -, nothing, adding, -⟩ := discoverFrom_nearest sampleTree [] "x"
  obtain ⟨-, found, -, -, further⟩ := discoverFrom_nearest sampleTree [] "y"
  have first : Path.components "x" = ["x"] := Path.components_of_apart (by decide) (by decide)
  have start : Path.components "y" = ["y"] := Path.components_of_apart (by decide) (by decide)
  have deeper : Path.components "y/b" = ["y", "b"] := by
    rw [Path.components, Path.slash, Text.splitOn_singleton]
    rfl
  have short : FileTree.isTooLong (Path.join "y/b" fileName) = false := by decide +kernel
  refine ⟨?_, ?_, ?_, ?_, ?_⟩
  · have relative : (Path.divide "y/b").1 = .here := by
      rw [Path.divide, Path.slash, Text.splitOn_singleton]
      rfl
    have root : Path.isAbsolute "y/b" = false := by decide +kernel
    rw [relative, deeper] at spelled
    exact ⟨itself, spelled, fun above mem => ⟨(same above mem).1.trans root, (same above mem).2⟩⟩
  · have ascent : Path.ascent "y" = [] ++ "y" :: [""] := by
      rw [Path.ascent, Path.divide, Path.slash, Text.splitOn_singleton]
      decide +kernel
    exact (found standard).mpr ⟨[], "y", [""], ascent, settingsAt?_eq_some_iff.mp settingsAt?_sampleTree,
      List.forall_mem_nil _⟩
  · have ascent : Path.ascent "x" = ["x", ""] := by
      rw [Path.ascent, Path.divide, Path.slash, Text.splitOn_singleton]
      decide +kernel
    refine nothing.mpr fun above mem => ?_
    rw [ascent, List.mem_cons, List.mem_singleton] at mem
    rcases mem with rfl | rfl
    · exact settingsAt?_eq_none_iff.mp settingsAt?_sampleTree_beside
    · exact settingsAt?_eq_none_iff.mp settingsAt?_sampleTree_top
  · refine adding ["x", fileName] .directory (by decide) rfl fun _ => ⟨isProper_sampleTree, ?_⟩
    intro before after split
    have mem : ".." ∈ ["x"] := first ▸ split ▸ List.mem_append_right before List.mem_cons_self
    exact absurd mem (by decide)
  · refine further "y/b" (by decide +kernel) ?_ (fun above mem lower settings holds => ?_) (by decide +kernel)
      fun above mem _ => short_of_leads (Path.toList_prefix_of_mem_ascent mem) short
    · rw [start, deeper]
      exact List.prefix_append ["y"] ["b"]
    · have sub := Path.components_prefix_of_mem_ascent mem
      rw [deeper] at sub
      rw [start] at lower
      have whole : Path.components above = ["y", "b"] := sub.eq_of_length_le lower
      obtain ⟨file, bytes, reached, -⟩ := holds.file
      rw [origin_top, whole] at reached
      cases reached

/-- As many slashes. -/
def slashes (n : Nat) : String := String.ofList (List.replicate n '/')

theorem slashes_succ (n : Nat) : slashes (n + 1) = "/" ++ slashes n := by
  simp only [← String.toList_inj, slashes, String.toList_append, String.toList_ofList, List.replicate_succ]
  rfl

theorem utf8ByteSize_slashes (n : Nat) : (slashes n).utf8ByteSize = n := by
  induction n with
  | zero => rfl
  | succ n ih =>
      rw [slashes_succ, String.utf8ByteSize_append, ih, Nat.add_comm]
      rfl

theorem splitOn_slashes (front rest : String) (n : Nat) :
    (front ++ slashes (n + 1) ++ rest).splitOn "/" =
      front.splitOn "/" ++ (List.replicate n "" ++ rest.splitOn "/") := by
  induction n generalizing front with
  | zero => exact Path.splitOn_append front rest
  | succ n ih =>
      rw [slashes_succ, ← String.append_assoc, ih, Path.splitOn_closed, List.append_assoc]
      rfl

/-- Any number of slashes does as well as one. -/
theorem components_slashes (front rest : String) (n : Nat) :
    Path.components (front ++ slashes (n + 1) ++ rest) = Path.components front ++ Path.components rest := by
  rw [Path.components, splitOn_slashes, List.filter_append, List.filter_append,
    List.filter_replicate_of_neg (by decide)]
  rfl

theorem ascent_slashes (rest : String) (apart : '/' ∉ rest.toList) (n : Nat) :
    Path.ascent ("y" ++ slashes (n + 1) ++ rest) =
      ("y" ++ slashes (n + 1) ++ rest) :: if Path.isStep rest then ["y", ""] else [""] := by
  have parts : Path.divide ("y" ++ slashes (n + 1) ++ rest) = (.here, "y" :: (List.replicate n "" ++ [rest])) := by
    rw [Path.divide, splitOn_slashes, Path.splitOn_of_apart (show '/' ∉ "y".toList by decide),
      Path.splitOn_of_apart apart]
    rfl
  have top : ∀ n, Path.above (List.replicate n "" ++ ["y"]) = [[]] := by
    intro n
    induction n with
    | zero => rfl
    | succ n ih => exact ih
  have step : Path.toStep (List.replicate n "" ++ ["y"]) = ["y"] := by
    rw [Path.toStep, List.dropWhile_append_of_pos fun part mem => by rw [List.eq_of_mem_replicate mem]; rfl]
    rfl
  rw [Path.ascent_eq, Path.higher, parts, List.reverse_cons, List.reverse_append, List.reverse_replicate,
    List.reverse_singleton, List.singleton_append, List.cons_append, Path.above, step, top]
  split <;> rfl

/-- There is no way to a settings file in a directory when the way to the directory is too long itself. -/
theorem settingsAt?_of_long (tree : FileTree) (directory : Place) (long : 4095 < path.utf8ByteSize) :
    settingsAt? tree directory path = none := by
  have le : path.utf8ByteSize ≤ (Path.join path fileName).utf8ByteSize := by
    rcases Path.join_eq path relative_fileName with ⟨rfl, -⟩ | ⟨-, h⟩ | ⟨-, h⟩
    · exact Nat.zero_le _
    · rw [h, String.utf8ByteSize_append]
      omega
    · rw [h, String.utf8ByteSize_append, String.utf8ByteSize_append]
      omega
  have tooLong : FileTree.isTooLong (Path.join path fileName) = true := by
    rw [FileTree.isTooLong, decide_eq_true_iff]
    omega
  rw [settingsAt?_eq, if_pos tooLong]

/-- The start leads nowhere before the directory is added that it goes up from. -/
theorem discoverFrom_through_added :
    discoverFrom sampleTree [] "x/abicall.toml/../../y" = none ∧
      discoverFrom (sampleTree.insert ["x", fileName] .directory) [] "x/abicall.toml/../../y" = some standard := by
  have steps : Path.components "x/abicall.toml/../../y" = ["x", fileName, "..", "..", "y"] := by
    rw [Path.components, Path.slash, Text.splitOn_singleton]
    rfl
  have short : FileTree.isTooLong (Path.join "x/abicall.toml/../../y" fileName) = false := by decide +kernel
  have found : settingsIn? (sampleTree.insert ["x", fileName] .directory) [] ["x", fileName, "..", "..", "y"] =
      Entry.settings? (.file []) := rfl
  rw [discoverFrom_of_short short, discoverFrom_of_short short, steps, origin_top]
  exact ⟨rfl, List.findSome?_eq_some_iff.mpr ⟨[], _, _, rfl, found.trans Entry.settings?_empty, List.forall_mem_nil _⟩⟩

/-- The way to the settings of the start is too long; further down they are found by a shorter one. -/
theorem discoverFrom_long_way :
    (∀ settings, ¬ Holds sampleTree [] ("y" ++ slashes 4095 ++ "b") settings) ∧
      discoverFrom sampleTree [] ("y" ++ slashes 4095) = none ∧
      discoverFrom sampleTree [] ("y" ++ slashes 4095 ++ "b") = some standard := by
  have start : Path.ascent ("y" ++ slashes 4095) = ["y" ++ slashes 4095, ""] := by
    have ascent := ascent_slashes "" List.not_mem_nil 4094
    rwa [String.append_empty] at ascent
  have deeper : Path.ascent ("y" ++ slashes 4095 ++ "b") = ["y" ++ slashes 4095 ++ "b", "y", ""] :=
    ascent_slashes "b" (by decide) 4094
  have long : settingsAt? sampleTree [] ("y" ++ slashes 4095) = none := by
    refine settingsAt?_of_long sampleTree [] ?_
    rw [String.utf8ByteSize_append, utf8ByteSize_slashes]
    decide
  have longer : settingsAt? sampleTree [] ("y" ++ slashes 4095 ++ "b") = none := by
    refine settingsAt?_of_long sampleTree [] ?_
    rw [String.utf8ByteSize_append, String.utf8ByteSize_append, utf8ByteSize_slashes]
    decide
  refine ⟨settingsAt?_eq_none_iff.mp longer, ?_, ?_⟩
  · rw [discoverFrom_eq, start, List.findSome?_cons, long, List.findSome?_singleton,
      settingsAt?_sampleTree_top]
  · rw [discoverFrom_eq, deeper, List.findSome?_cons, longer, List.findSome?_cons, settingsAt?_sampleTree]

/-- A directory with the name of the file, added to a directory above the start, can change what is found: the
start goes up from it. And a start further down, past a name that is not there, can find what the start does
not: the way to that is too long. -/
theorem nearest_settings_missed :
    (sampleTree.IsProper ∧ sampleTree.entry? ["x", fileName] = none ∧
      "x" ∈ Path.ascent "x/abicall.toml/../../y" ∧
      discoverFrom sampleTree [] "x/abicall.toml/../../y" = none ∧
      discoverFrom (sampleTree.insert ["x", fileName] .directory) [] "x/abicall.toml/../../y" = some standard) ∧
    Path.components ("y" ++ slashes 4095) = ["y"] ∧
      Path.components ("y" ++ slashes 4095 ++ "b") = ["y", "b"] ∧
      (∀ settings, ¬ Holds sampleTree [] ("y" ++ slashes 4095 ++ "b") settings) ∧
      discoverFrom sampleTree [] ("y" ++ slashes 4095) = none ∧
      discoverFrom sampleTree [] ("y" ++ slashes 4095 ++ "b") = some standard := by
  have name : Path.components "y" = ["y"] := Path.components_of_apart (by decide) (by decide)
  refine ⟨⟨isProper_sampleTree, by decide, ?_, discoverFrom_through_added⟩, ?_, ?_, discoverFrom_long_way⟩
  · rw [Path.ascent, Path.divide, Path.slash, Text.splitOn_singleton]
    decide +kernel
  · have steps := components_slashes "y" "" 4094
    rwa [String.append_empty, name, Path.components_empty] at steps
  · rw [components_slashes, name, Path.components_of_apart (show '/' ∉ "b".toList by decide) (by decide)]
    rfl

end Settings
end Foreign
