import Mathlib.Data.List.Basic

/-!
# Lines of a text

* `lines`, the lines of a text, each ended by a line feed or by the end of the text;
* `notMem_of_mem_lines`, no line has a line feed;
* `lines_join`, `lines_join_eq_iff`, the lines of texts that are written one after another, and
  when these are the texts.
-/

namespace RoleLookup.Text

/-! ### Lines -/

/-- Lines of characters. A line feed ends a line, and so does the end. -/
def charLines : List Char → List (List Char)
  | [] => []
  | c :: cs =>
    if c = '\n' then [] :: charLines cs
    else
      match charLines cs with
      | [] => [[c]]
      | l :: ls => (c :: l) :: ls

/-- Lines of a text. -/
def lines (s : String) : List String := (charLines s.toList).map String.ofList

variable {c : Char} {cs ds l : List Char}

theorem charLines_cons_of_ne (hc : c ≠ '\n') (h : charLines cs = l :: ls) :
    charLines (c :: cs) = (c :: l) :: ls := by
  rw [charLines, if_neg hc, h]

theorem charLines_ne_nil (c : Char) (cs : List Char) : charLines (c :: cs) ≠ [] := by
  unfold charLines
  split
  · exact List.cons_ne_nil _ _
  · split <;> exact List.cons_ne_nil _ _

/-- Behind a line feed nothing before it counts. -/
theorem charLines_append (cs ds : List Char) :
    charLines (cs ++ '\n' :: ds) = charLines (cs ++ ['\n']) ++ charLines ds := by
  induction cs with
  | nil => simp [charLines]
  | cons c cs ih =>
    by_cases hc : c = '\n'
    · simp [charLines, hc, ih]
    · obtain ⟨l, ls, hl⟩ : ∃ l ls, charLines (cs ++ ['\n']) = l :: ls := by
        cases cs <;> exact List.exists_cons_of_ne_nil (charLines_ne_nil _ _)
      rw [List.cons_append, List.cons_append, charLines_cons_of_ne hc hl,
        charLines_cons_of_ne hc (by rw [ih, hl]; rfl)]
      rfl

theorem charLines_of_notMem (h : '\n' ∉ cs) : charLines (cs ++ ['\n']) = [cs] := by
  induction cs with
  | nil => rfl
  | cons c cs ih =>
    rw [List.cons_append,
      charLines_cons_of_ne (List.ne_of_not_mem_cons h).symm (ih (List.not_mem_of_not_mem_cons h))]

theorem notMem_of_mem_charLines (h : l ∈ charLines cs) : '\n' ∉ l := by
  induction cs generalizing l with
  | nil => cases h
  | cons c cs ih =>
    unfold charLines at h
    split at h
    · rcases List.mem_cons.1 h with rfl | h
      · exact List.not_mem_nil
      · exact ih h
    · rename_i hc
      split at h
      · obtain rfl := List.mem_singleton.1 h
        simpa using Ne.symm hc
      · rename_i k ks hk
        rcases List.mem_cons.1 h with rfl | h
        · exact List.not_mem_cons_of_ne_of_not_mem (Ne.symm hc) (ih (hk ▸ List.mem_cons_self))
        · exact ih (hk ▸ List.mem_cons_of_mem k h)

/-- No line has a line feed. -/
theorem notMem_of_mem_lines {s t : String} (h : t ∈ lines s) : '\n' ∉ t.toList := by
  obtain ⟨l, hl, rfl⟩ := List.mem_map.1 h
  rw [String.toList_ofList]
  exact notMem_of_mem_charLines hl

theorem lines_append (s t : String) : lines (s ++ "\n" ++ t) = lines (s ++ "\n") ++ lines t := by
  have hfeed : (s ++ "\n" ++ t).toList = s.toList ++ '\n' :: t.toList := by simp
  rw [lines, hfeed, charLines_append, List.map_append, lines, lines, String.toList_append]
  rfl

/-- A text without line feeds is one line. -/
theorem lines_of_notMem {s : String} (h : '\n' ∉ s.toList) : lines (s ++ "\n") = [s] := by
  simp [lines, charLines_of_notMem h]

/-- Lines of texts of which each is written with a line feed behind it. -/
theorem lines_join (ss : List String) :
    lines (String.join (ss.map (· ++ "\n"))) = ss.flatMap fun s => lines (s ++ "\n") := by
  induction ss with
  | nil => rfl
  | cons s ss ih => rw [List.map_cons, String.join_cons, lines_append, ih, List.flatMap_cons]

/-- The lines are the texts if and only if no text has a line feed. -/
theorem lines_join_eq_iff {ss : List String} :
    lines (String.join (ss.map (· ++ "\n"))) = ss ↔ ∀ s ∈ ss, '\n' ∉ s.toList := by
  constructor
  · intro h s hs
    rw [← h] at hs
    exact notMem_of_mem_lines hs
  · intro h
    rw [lines_join]
    calc ss.flatMap (fun s => lines (s ++ "\n"))
        = ss.flatMap fun s => [s] := List.flatMap_congr fun s hs => lines_of_notMem (h s hs)
      _ = ss := List.flatMap_pure_eq_map id ss |>.trans (List.map_id ss)

end RoleLookup.Text
