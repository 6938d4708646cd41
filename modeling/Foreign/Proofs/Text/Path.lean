import Foreign.Text.Path
import Foreign.Proofs.Text.Split
import Mathlib.Data.List.Infix

/-!
The way up from the end of a path. What is above a path is written with the first of its characters, so it is
never longer, and goes the first of its steps: one less each time, until there are none left.
-/

namespace Foreign

namespace Path

variable {path name : String} {parts others : List String} {start : Start}

/-- No slash is in any of the parts, as it is with what stands between the slashes of a path. -/
def Apart (parts : List String) : Prop :=
  ∀ part ∈ parts, '/' ∉ part.toList

theorem slash : "/" = String.singleton '/' := rfl

theorem apart_splitOn (path : String) : Apart (path.splitOn "/") := by
  intro part mem
  exact Text.not_mem_of_mem_splitOn (c := '/') mem

theorem splitOn_ne_nil (path : String) : path.splitOn "/" ≠ [] := by
  rw [slash, Text.splitOn_singleton]
  exact mt List.map_eq_nil_iff.mp (List.splitOn_ne_nil '/' path.toList)

theorem splitOn_append (a b : String) : (a ++ "/" ++ b).splitOn "/" = a.splitOn "/" ++ b.splitOn "/" :=
  Text.splitOn_append a b '/'

theorem splitOn_of_apart (apart : '/' ∉ name.toList) : name.splitOn "/" = [name] := by
  have split := Text.splitOn_intercalate (List.forall_mem_singleton.mpr apart) (List.cons_ne_nil name [])
  rwa [String.intercalate_singleton] at split

theorem splitOn_empty : "".splitOn "/" = [""] :=
  splitOn_of_apart List.not_mem_nil

/-- Behind a slash at the end there is one more part, which is empty. -/
theorem splitOn_closed (path : String) : (path ++ "/").splitOn "/" = path.splitOn "/" ++ [""] := by
  have split := splitOn_append path ""
  rwa [String.append_empty, splitOn_empty] at split

theorem components_empty : components "" = [] := by
  rw [components, splitOn_empty]
  rfl

theorem components_of_apart (apart : '/' ∉ name.toList) (leads : isStep name) : components name = [name] := by
  rw [components, splitOn_of_apart apart, List.filter_cons_of_pos leads, List.filter_nil]

/-- The steps of the path that some parts make are those among the parts. -/
theorem filter_splitOn_intercalate (apart : Apart parts) :
    (("/".intercalate parts).splitOn "/").filter isStep = parts.filter isStep := by
  cases parts with
  | nil => rw [String.intercalate_nil, splitOn_empty]; rfl
  | cons part rest => rw [slash, Text.splitOn_intercalate apart (List.cons_ne_nil _ _)]

theorem components_path (apart : Apart parts) : components (start.path parts) = parts.filter isStep := by
  cases start with
  | top =>
      have front : "/" ++ "/".intercalate parts = "" ++ "/" ++ "/".intercalate parts := by rw [String.empty_append]
      rw [components, Start.path, front, splitOn_append, splitOn_empty, List.filter_append,
        filter_splitOn_intercalate apart]
      rfl
  | dot =>
      have apart' : Apart ("." :: parts) := List.forall_mem_cons.mpr ⟨by decide, apart⟩
      rw [components, Start.path, filter_splitOn_intercalate apart']
      rfl
  | here => exact filter_splitOn_intercalate apart

/-- Where a path begins and its parts are all that there is to it. -/
theorem path_divide (path : String) : (divide path).1.path (divide path).2 = path := by
  have whole : "/".intercalate (path.splitOn "/") = path := Text.intercalate_splitOn path '/'
  rw [divide]
  split
  case h_1 part rest split =>
    rwa [split, String.intercalate_cons_cons, String.empty_append] at whole
  case h_2 rest split => rwa [split] at whole
  case h_3 => exact whole

theorem apart_divide (path : String) : Apart (divide path).2 := by
  have apart := apart_splitOn path
  rw [divide]
  split
  case h_1 part rest split => exact (List.forall_mem_cons.mp (split ▸ apart)).2
  case h_2 rest split => exact (List.forall_mem_cons.mp (split ▸ apart)).2
  case h_3 => exact apart

theorem components_eq (path : String) : components path = (divide path).2.filter isStep := by
  rw [← components_path (apart_divide path), path_divide]

theorem isAbsolute_iff : isAbsolute path = true ↔ (divide path).1 = .top := by
  constructor
  · intro absolute
    obtain ⟨chars, hchars⟩ := String.startsWith_string_iff.mp absolute
    have front : path = "" ++ "/" ++ String.ofList chars := by
      rw [← String.toList_inj, ← hchars]
      simp
    have split : path.splitOn "/" = "" :: (String.ofList chars).splitOn "/" := by
      rw [front, splitOn_append, splitOn_empty, List.singleton_append]
    cases rest : (String.ofList chars).splitOn "/" with
    | nil => exact absurd rest (splitOn_ne_nil _)
    | cons part others =>
        rw [divide, split, rest]
        rfl
  · intro top
    rw [← path_divide path, top]
    refine String.startsWith_string_iff.mpr ?_
    rw [Start.path, String.toList_append]
    exact List.prefix_append _ _

theorem filter_toStep (parts : List String) : (toStep parts).filter isStep = parts.filter isStep := by
  induction parts with
  | nil => rfl
  | cons part rest ih =>
      rw [toStep, List.dropWhile_cons]
      cases step : isStep part with
      | true => rfl
      | false => rwa [Bool.not_false, if_pos rfl, List.filter_cons_of_neg (by simp [step])]

/-- What is above the steps of some parts has the steps that are left behind each. -/
theorem map_filter_above (parts : List String) :
    (above parts).map (List.filter isStep) = (parts.filter isStep).tails.tail := by
  induction parts with
  | nil => rfl
  | cons part rest ih =>
      rw [above]
      cases step : isStep part with
      | false => rw [if_neg Bool.false_ne_true, List.filter_cons_of_neg (by simp [step]), ih]
      | true =>
          rw [if_pos rfl, List.map_cons, filter_toStep, ih, List.filter_cons_of_pos step]
          cases rest.filter isStep <;> rfl

theorem suffix_of_mem_above (mem : others ∈ above parts) : others <:+ parts := by
  induction parts with
  | nil => cases mem
  | cons part rest ih =>
      have hrest := List.suffix_cons part rest
      rw [above] at mem
      split at mem
      · rcases List.mem_cons.mp mem with rfl | later
        · exact (List.dropWhile_suffix _).trans hrest
        · exact (ih later).trans hrest
      · exact (ih mem).trans hrest

theorem ancestors_eq (parts : List String) : ancestors parts = parts.reverse.tails.map List.reverse := by
  have inits : ancestors parts = parts.inits.reverse := by
    induction parts with
    | nil => rfl
    | cons part rest ih => rw [ancestors, ih, List.inits_cons, List.reverse_cons, List.map_reverse]
  rw [inits, List.map_reverse_tails, List.reverse_reverse]

theorem ancestors_concat (parts : List String) (part : String) :
    ancestors (parts ++ [part]) = (parts ++ [part]) :: ancestors parts := by
  rw [ancestors_eq, ancestors_eq, List.reverse_append, List.reverse_singleton, List.singleton_append, List.tails,
    List.map_cons, List.reverse_cons, List.reverse_reverse]

theorem nil_mem_ancestors (parts : List String) : [] ∈ ancestors parts := by
  cases parts with
  | nil => exact List.mem_singleton_self []
  | cons part rest => exact List.mem_append_right _ (List.mem_singleton_self [])

theorem tails_eq_cons (parts : List String) : parts.tails = parts :: parts.tails.tail := by
  cases parts <;> rfl

/-- What is above a path, apart from the path itself and the directory of a path that begins at a dot. -/
def higher (path : String) : List String :=
  (above (divide path).2.reverse).map fun parts => (divide path).1.path parts.reverse

theorem ascent_eq (path : String) :
    ascent path = path :: (higher path ++ if (divide path).1 = .dot then [""] else []) := rfl

theorem map_components_higher (path : String) :
    (higher path).map components = (components path).reverse.tails.tail.map List.reverse := by
  have each : ∀ others ∈ above (divide path).2.reverse,
      components ((divide path).1.path others.reverse) = (others.filter isStep).reverse := by
    intro others mem
    have sub := (suffix_of_mem_above mem).subset
    rw [components_path fun part hpart => apart_divide path part (List.mem_reverse.mp (sub (List.mem_reverse.mp hpart))),
      List.filter_reverse]
  rw [higher, List.map_map, components_eq, ← List.filter_reverse, ← map_filter_above, List.map_map]
  exact List.map_congr_left each

/-- The steps of what is above a path are the first ones of the path, one less each time. A path that begins
at a dot has its directory last once more, without the dot. -/
theorem map_components_ascent (path : String) :
    (ascent path).map components =
      ancestors (components path) ++ if (divide path).1 = .dot then [[]] else [] := by
  have extra : (if (divide path).1 = .dot then [""] else []).map components =
      if (divide path).1 = .dot then [[]] else [] := by
    split
    · rw [List.map_singleton, components_empty]
    · rfl
  rw [ascent_eq, List.map_cons, List.map_append, map_components_higher, extra, ancestors_eq, tails_eq_cons,
    List.map_cons, List.reverse_reverse, List.cons_append]
  rfl

theorem intercalate_prefix {separator : List Char} {front rest : List (List Char)} :
    separator.intercalate front <+: separator.intercalate (front ++ rest) := by
  induction front with
  | nil => exact List.nil_prefix
  | cons part front ih =>
      cases front with
      | nil =>
          cases rest with
          | nil => exact List.prefix_rfl
          | cons next rest =>
              rw [List.intercalate_singleton, List.singleton_append, List.intercalate_cons_cons, List.append_assoc]
              exact List.prefix_append _ _
      | cons next front =>
          rw [List.cons_append, List.cons_append, List.intercalate_cons_cons, List.intercalate_cons_cons]
          exact List.prefix_append_right_inj _ |>.mpr ih

theorem toList_path_prefix (start : Start) (sub : others <+: parts) :
    (start.path others).toList <+: (start.path parts).toList := by
  obtain ⟨rest, rfl⟩ := sub
  cases start with
  | top =>
      rw [Start.path, Start.path, String.toList_append, String.toList_append, String.toList_intercalate,
        String.toList_intercalate, List.map_append]
      exact (List.prefix_append_right_inj _).mpr intercalate_prefix
  | dot =>
      rw [Start.path, Start.path, String.toList_intercalate, String.toList_intercalate, ← List.cons_append,
        List.map_append]
      exact intercalate_prefix
  | here =>
      rw [Start.path, Start.path, String.toList_intercalate, String.toList_intercalate, List.map_append]
      exact intercalate_prefix

/-- What is above a path is the path itself, or the first of its parts from the same beginning, or where a
path that begins at a dot begins. -/
theorem mem_ascent (mem : name ∈ ascent path) :
    name = path ∨ (∃ parts, parts <+: (divide path).2 ∧ name = (divide path).1.path parts) ∨
      (divide path).1 = .dot ∧ name = "" := by
  rw [ascent_eq] at mem
  rcases List.mem_cons.mp mem with itself | mem
  · exact .inl itself
  rcases List.mem_append.mp mem with mem | extra
  · obtain ⟨parts, hparts, rfl⟩ := List.mem_map.mp mem
    have sub := List.reverse_prefix.mpr (suffix_of_mem_above hparts)
    rw [List.reverse_reverse] at sub
    exact .inr (.inl ⟨_, sub, rfl⟩)
  · split at extra
    · exact .inr (.inr ⟨‹_›, List.mem_singleton.mp extra⟩)
    · cases extra

theorem toList_prefix_of_mem_ascent (mem : name ∈ ascent path) : name.toList <+: path.toList := by
  rcases mem_ascent mem with rfl | ⟨parts, sub, rfl⟩ | ⟨-, rfl⟩
  · exact List.prefix_rfl
  · have leads := toList_path_prefix (divide path).1 sub
    rwa [path_divide] at leads
  · exact List.nil_prefix

theorem components_prefix_of_mem_ascent (mem : name ∈ ascent path) : components name <+: components path := by
  rcases mem_ascent mem with rfl | ⟨parts, sub, rfl⟩ | ⟨-, rfl⟩
  · exact List.prefix_rfl
  · rw [components_path fun part hpart => apart_divide path part (sub.subset hpart), components_eq path]
    exact sub.filter isStep
  · rw [components_empty]
    exact List.nil_prefix

theorem isAbsolute_of_mem_ascent (mem : name ∈ ascent path) : isAbsolute name = isAbsolute path := by
  cases absolute : isAbsolute path with
  | true =>
      have top := isAbsolute_iff.mp absolute
      rcases mem_ascent mem with rfl | ⟨parts, sub, rfl⟩ | ⟨dot, -⟩
      · exact absolute
      · rw [top]
        refine String.startsWith_string_iff.mpr ?_
        rw [Start.path, String.toList_append]
        exact List.prefix_append _ _
      · rw [top] at dot
        cases dot
  | false =>
      refine Bool.eq_false_iff.mpr fun h => Bool.eq_false_iff.mp absolute ?_
      have leads := (String.startsWith_string_iff.mp h).trans (toList_prefix_of_mem_ascent mem)
      exact String.startsWith_string_iff.mpr leads

/-- The three ways to spell a name in a directory. -/
theorem join_eq (directory : String) (relative : isAbsolute name = false) :
    directory = "" ∧ join directory name = name ∨
      (∃ front, directory = front ++ "/") ∧ join directory name = directory ++ name ∨
      directory ≠ "" ∧ join directory name = directory ++ "/" ++ name := by
  rw [join, relative, Bool.false_or]
  by_cases none : directory = ""
  · exact .inl ⟨none, if_pos (String.isEmpty_iff.mpr none)⟩
  rw [if_neg (mt String.isEmpty_iff.mp none)]
  by_cases closed : directory.endsWith "/" = true
  · rw [if_pos closed]
    rw [String.endsWith_eq_endsWith_toSlice, String.Slice.endsWith_string_iff, String.copy_toSlice] at closed
    obtain ⟨front, hfront⟩ := closed
    refine .inr (.inl ⟨⟨String.ofList front, ?_⟩, rfl⟩)
    rw [← String.toList_inj, String.toList_append, String.toList_ofList, hfront]
  · exact .inr (.inr ⟨none, if_neg closed⟩)

/-- The way to a name in a directory is the directory's and one last step. -/
theorem splitOn_join (directory : String) (apart : '/' ∉ name.toList) (relative : isAbsolute name = false) :
    ∃ parts, (join directory name).splitOn "/" = parts ++ [name] ∧ parts.filter isStep = components directory := by
  rcases join_eq directory relative with ⟨rfl, h⟩ | ⟨⟨front, rfl⟩, h⟩ | ⟨-, h⟩
  · refine ⟨[], ?_, ?_⟩
    · rw [h, splitOn_of_apart apart, List.nil_append]
    · exact components_empty.symm
  · refine ⟨front.splitOn "/", ?_, ?_⟩
    · rw [h, splitOn_append, splitOn_of_apart apart]
    · rw [components, splitOn_closed, List.filter_append]
      exact (List.append_nil _).symm
  · refine ⟨directory.splitOn "/", ?_, rfl⟩
    rw [h, splitOn_append, splitOn_of_apart apart]

theorem isAbsolute_join (directory : String) (relative : isAbsolute name = false) :
    isAbsolute (join directory name) = isAbsolute directory := by
  have more : ∀ rest, directory ≠ "" → isAbsolute (directory ++ rest) = isAbsolute directory := by
    intro rest some
    refine Bool.eq_iff_iff.mpr ?_
    rw [isAbsolute, isAbsolute, String.startsWith_string_iff, String.startsWith_string_iff, String.toList_append]
    cases chars : directory.toList with
    | nil => exact absurd (String.toList_eq_nil_iff.mp chars) some
    | cons c rest => simp
  rcases join_eq directory relative with ⟨rfl, h⟩ | ⟨⟨front, rfl⟩, h⟩ | ⟨some, h⟩
  · rw [h, relative]
    rfl
  · rw [h]
    refine more name fun none => ?_
    simp at none
  · rw [h, String.append_assoc]
    exact more _ some

/-- A shorter way to a directory does not make the way to a name in it longer. -/
theorem utf8ByteSize_join_le {directory longer : String} (sub : directory.toList <+: longer.toList)
    (relative : isAbsolute name = false) :
    (join directory name).utf8ByteSize ≤ (join longer name).utf8ByteSize := by
  obtain ⟨rest, hrest⟩ := sub
  obtain rfl : directory ++ String.ofList rest = longer := by
    rw [← String.toList_inj, ← hrest, String.toList_append, String.toList_ofList]
  by_cases none : String.ofList rest = ""
  · rw [none, String.append_empty]
  have pos : 0 < (String.ofList rest).utf8ByteSize :=
    Nat.pos_of_ne_zero (mt String.utf8ByteSize_eq_zero_iff.mp none)
  have le : (join directory name).utf8ByteSize ≤ directory.utf8ByteSize + 1 + name.utf8ByteSize := by
    rcases join_eq directory relative with ⟨-, h⟩ | ⟨-, h⟩ | ⟨-, h⟩ <;> rw [h]
    · omega
    · rw [String.utf8ByteSize_append]
      omega
    · rw [String.utf8ByteSize_append, String.utf8ByteSize_append]
      exact Nat.le_refl _
  have ge : directory.utf8ByteSize + (String.ofList rest).utf8ByteSize + name.utf8ByteSize ≤
      (join (directory ++ String.ofList rest) name).utf8ByteSize := by
    rcases join_eq (directory ++ String.ofList rest) relative with ⟨empty, -⟩ | ⟨-, h⟩ | ⟨-, h⟩
    · have size := congrArg String.utf8ByteSize empty
      rw [String.utf8ByteSize_append, String.utf8ByteSize_empty] at size
      omega
    · rw [h, String.utf8ByteSize_append, String.utf8ByteSize_append]
    · rw [h, String.utf8ByteSize_append, String.utf8ByteSize_append, String.utf8ByteSize_append]
      omega
  omega

end Path
end Foreign
