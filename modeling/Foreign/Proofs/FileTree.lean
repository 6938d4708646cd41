import Foreign.FileTree
import Mathlib.Tactic.ByContra

/-!
Ways through a tree. A step goes on from a directory only, so what is not a directory ends every way that has a
step left; and what is added at one place shows at that place alone.
-/

namespace Foreign

namespace FileTree

variable {tree : FileTree} {place other : Place} {entry : Entry} {step : String} {rest parts : List String}

/-- What lies in a directory lies in one that the tree has. -/
def IsProper (tree : FileTree) : Prop :=
  ∀ place name, (tree.entry? (place ++ [name])).isSome → tree.entry? place = some .directory

theorem entry?_insert_of_ne (different : other ≠ place) :
    FileTree.entry? (tree.insert place entry) other = tree.entry? other := by
  rw [FileTree.entry?, FileTree.entry?, insert, List.lookup_cons, beq_false_of_ne different]

theorem entry?_insert_self (lower : place ≠ []) :
    FileTree.entry? (tree.insert place entry) place = some entry := by
  rw [FileTree.entry?, if_neg (by simpa using lower), insert, List.lookup_cons_self]

theorem ne_nil_of_absent (absent : tree.entry? place = none) : place ≠ [] := by
  rintro rfl
  cases absent

theorem walk_of_ne_directory {steps : List String} (blocked : tree.entry? place ≠ some .directory)
    (some : steps ≠ []) : tree.walk place steps = none := by
  cases steps with
  | nil => exact absurd rfl some
  | cons step rest =>
      rw [walk]
      split
      · exact absurd ‹_› blocked
      · rfl

section

variable (directory : tree.entry? place = some .directory)
include directory

theorem walk_stay (stays : ¬ Path.isStep step) : tree.walk place (step :: rest) = tree.walk place rest := by
  rw [walk, directory]
  exact if_pos (by simpa [Path.isStep, or_iff_not_imp_left] using stays)

theorem walk_up : tree.walk place (".." :: rest) = tree.walk place.dropLast rest := by
  rw [walk, directory]
  rfl

theorem walk_down (leads : Path.isStep step) (down : step ≠ "..") :
    tree.walk place (step :: rest) =
      if (tree.entry? (place ++ [step])).isSome then tree.walk (place ++ [step]) rest else none := by
  rw [walk, directory]
  exact (if_neg (by simpa [Path.isStep] using leads)).trans (if_neg down)

end

/-- Whether a tree is proper can be told from its entries one by one. -/
theorem isProper_of_entries (each : ∀ item ∈ tree.entries, tree.entry? item.1.dropLast = some .directory) :
    tree.IsProper := by
  intro place name some
  by_contra missing
  have none : tree.entries.lookup (place ++ [name]) = none := by
    refine List.lookup_eq_none_iff.mpr fun item mem => bne_iff_ne.mpr fun same => missing ?_
    rw [← each item mem, ← same, List.dropLast_concat]
  rw [FileTree.entry?, if_neg (by simp), none] at some
  cases some

/-- On the way to a name only the steps matter. -/
theorem walk_filter {name : String} (parts : List String) (place : Place) :
    tree.walk place (parts ++ [name]) = tree.walk place (parts.filter Path.isStep ++ [name]) := by
  induction parts generalizing place with
  | nil => rfl
  | cons part parts ih =>
      by_cases directory : tree.entry? place = some .directory
      · by_cases leads : Path.isStep part
        · rw [List.filter_cons_of_pos leads, List.cons_append, List.cons_append]
          by_cases up : part = ".."
          · rw [up, walk_up directory, walk_up directory, ih]
          · rw [walk_down directory leads up, walk_down directory leads up, ih]
        · rw [List.filter_cons_of_neg leads, List.cons_append, walk_stay directory leads, ih]
      · rw [walk_of_ne_directory directory (by simp), walk_of_ne_directory directory (by simp)]

end FileTree

end Foreign
