import Foreign.Text.Blank
import Mathlib.Data.List.TakeWhile
import Mathlib.Data.String.Basic

/-!
Splitting text at a character is splitting the list of its characters. So texts that are joined by a character
that none of them has are what the whole is split into. What is trimmed from a part depends on the blanks at
its ends alone.
-/

namespace Foreign.Text

open String in
/-- How far splitting has come: `l` is done with, `m` belongs to the next part. -/
theorem splitOnAux_of_valid (c : Char) (l m r : List Char) (parts : List String) :
    splitOnAux (ofList (l ++ m ++ r)) (singleton c) ⟨utf8Len l⟩ ⟨utf8Len l + utf8Len m⟩ 0 parts =
      parts.reverse ++ (List.splitOnPPrepend (· == c) r m.reverse).map ofList := by
  have hsep : singleton c = ofList [c] := rfl
  have hget : Pos.Raw.get (singleton c) 0 = c := get_of_valid [] [c]
  have hnext : Pos.Raw.next (singleton c) 0 = ⟨c.utf8Size⟩ := by
    rw [hsep]
    simpa using next_of_valid [] c []
  have hend : Pos.Raw.atEnd (singleton c) ⟨c.utf8Size⟩ = true := by
    rw [hsep]
    simpa using atEnd_of_valid [c] []
  induction r generalizing l m parts with
  | nil =>
      rw [splitOnAux]
      have := (atEnd_of_valid (l ++ m) []).mpr rfl
      rw [utf8Len_append] at this
      rw [if_pos this, extract_of_valid]
      simp
  | cons d r ih =>
      have hlen := utf8Len_append l m
      have hat := mt (atEnd_of_valid (l ++ m) (d :: r)).mp (List.cons_ne_nil d r)
      have hhead := get_of_valid (l ++ m) (d :: r)
      have hstep := next_of_valid (l ++ m) d r
      rw [hlen] at hat hhead hstep
      rw [splitOnAux, if_neg hat, hhead, hget, hstep, hnext, if_pos hend]
      by_cases same : d = c
      · subst same
        have hcut : Pos.Raw.unoffsetBy ⟨utf8Len l + utf8Len m + d.utf8Size⟩ ⟨d.utf8Size⟩ =
            ⟨utf8Len l + utf8Len m⟩ := by
          simp [Pos.Raw.unoffsetBy]
        have later := ih (l ++ m ++ [d]) [] (ofList m :: parts)
        have hplace : utf8Len (l ++ m ++ [d]) = utf8Len l + utf8Len m + d.utf8Size := by
          simp [Nat.add_assoc]
        rw [hplace] at later
        rw [if_pos (by simp), hcut, extract_of_valid]
        simpa [List.splitOnPPrepend] using later
      · have hcut : Pos.Raw.unoffsetBy ⟨utf8Len l + utf8Len m⟩ 0 = ⟨utf8Len l + utf8Len m⟩ := by
          simp [Pos.Raw.unoffsetBy]
        rw [if_neg (by simpa using same), hcut, hstep]
        have later := ih l (m ++ [d]) parts
        simpa [List.splitOnPPrepend, same, Nat.add_assoc] using later

/-- Texts are split as lists of characters are. -/
theorem splitOn_singleton (text : String) (c : Char) :
    text.splitOn (String.singleton c) = (text.toList.splitOn c).map String.ofList := by
  have hsep : (String.singleton c == "") = false := by simp
  have hsplit := splitOnAux_of_valid c [] [] text.toList []
  rw [List.append_nil, List.nil_append, String.ofList_toList] at hsplit
  rw [String.splitOn, hsep, if_neg Bool.false_ne_true]
  exact hsplit

theorem splitOn_intercalate {parts : List String} {c : Char} (apart : ∀ part ∈ parts, c ∉ part.toList)
    (some : parts ≠ []) :
    ((String.singleton c).intercalate parts).splitOn (String.singleton c) = parts := by
  have apart' : ∀ chars ∈ parts.map String.toList, c ∉ chars := by
    intro chars mem
    obtain ⟨part, hpart, rfl⟩ := List.mem_map.mp mem
    exact apart part hpart
  rw [splitOn_singleton, String.toList_intercalate, String.toList_singleton,
    List.splitOn_intercalate c apart' (mt List.map_eq_nil_iff.mp some), List.map_map]
  exact List.map_id'' (fun _ => String.ofList_toList) parts

theorem splitOn_append (a b : String) (c : Char) :
    (a ++ String.singleton c ++ b).splitOn (String.singleton c) =
      a.splitOn (String.singleton c) ++ b.splitOn (String.singleton c) := by
  rw [splitOn_singleton, splitOn_singleton, splitOn_singleton, String.toList_append, String.toList_append,
    String.toList_singleton, List.append_assoc, List.singleton_append, List.splitOn_append_cons_self, List.map_append]

theorem intercalate_splitOn (text : String) (c : Char) :
    (String.singleton c).intercalate (text.splitOn (String.singleton c)) = text := by
  rw [← String.toList_inj, splitOn_singleton, String.toList_intercalate, List.map_map, String.toList_singleton]
  simp

theorem not_mem_of_mem_splitOn_toList {chars part : List Char} {c : Char} (mem : part ∈ chars.splitOn c) : c ∉ part := by
  induction chars generalizing part with
  | nil => simp_all
  | cons d chars ih =>
      rw [List.splitOn_cons_eq_if_modifyHead] at mem
      by_cases same : d = c
      · rw [if_pos (by simpa using same)] at mem
        rcases List.mem_cons.mp mem with rfl | later
        · exact List.not_mem_nil
        · exact ih later
      · rw [if_neg (by simpa using same)] at mem
        cases split : chars.splitOn c with
        | nil => exact absurd split (List.splitOn_ne_nil c chars)
        | cons first rest =>
            rw [split, List.modifyHead_cons] at mem
            rcases List.mem_cons.mp mem with rfl | later
            · intro inside
              rcases List.mem_cons.mp inside with rfl | h
              · exact same rfl
              · exact ih (split ▸ List.mem_cons_self) h
            · exact ih (split ▸ List.mem_cons_of_mem _ later)

theorem not_mem_of_mem_splitOn {text part : String} {c : Char} (mem : part ∈ text.splitOn (String.singleton c)) :
    c ∉ part.toList := by
  rw [splitOn_singleton] at mem
  obtain ⟨chars, hchars, rfl⟩ := List.mem_map.mp mem
  rw [String.toList_ofList]
  exact not_mem_of_mem_splitOn_toList hchars

/-- Blanks at the ends make no difference. -/
theorem trimBlanks_append {front text back : String} (blank : ∀ c ∈ front.toList, isBlank c)
    (blank' : ∀ c ∈ back.toList, isBlank c) : trimBlanks (front ++ text ++ back) = trimBlanks text := by
  have hback : back.toList.dropWhile isBlank = [] := List.dropWhile_eq_nil_iff.mpr blank'
  rw [trimBlanks, trimBlanks, String.toList_append, String.toList_append, List.append_assoc,
    List.dropWhile_append_of_pos blank, List.dropWhile_append]
  by_cases none : text.toList.dropWhile isBlank = []
  · rw [none, List.isEmpty_nil, if_pos rfl, hback]
  · rw [if_neg (by simpa using none), List.reverse_append, List.dropWhile_append_of_pos (by simpa using blank')]

theorem trimBlanks_of_blank {text : String} (blank : ∀ c ∈ text.toList, isBlank c) : trimBlanks text = "" := by
  rw [trimBlanks, List.dropWhile_eq_nil_iff.mpr blank]
  rfl

end Foreign.Text
