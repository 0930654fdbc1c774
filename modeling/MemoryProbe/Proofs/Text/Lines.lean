import MemoryProbe.Proofs.Text.Blank
import MemoryProbe.Proofs.Text.Split

/-! The lines of a text. A line feed ends a line, and a carriage return directly before it belongs
to the line end. -/

namespace MemoryProbe.Text
variable {t line rest : Text} {ls : List Text}

/-- A text and its lines. What stands behind the last line feed is the last line, as it is. -/
inductive LinesOf : Text → List Text → Prop
  | last {line : Text} (h : '\n' ∉ line) : LinesOf line [line]
  | ended {line rest : Text} {ls : List Text} (h : '\n' ∉ line) (hr : line.getLast? ≠ some '\r')
    (hs : LinesOf rest ls) : LinesOf (line ++ '\n' :: rest) (line :: ls)
  | returned {line rest : Text} {ls : List Text} (h : '\n' ∉ line) (hs : LinesOf rest ls) :
    LinesOf (line ++ '\r' :: '\n' :: rest) (line :: ls)

theorem dropReturn_of_ne (h : line.getLast? ≠ some '\r') : dropReturn line = line := if_neg h

theorem dropReturn_append_return (line : Text) : dropReturn (line ++ ['\r']) = line := by
  rw [dropReturn, List.getLast?_concat, if_pos rfl, List.dropLast_concat]

theorem eq_dropReturn_or (line : Text) :
    line.getLast? ≠ some '\r' ∧ line = dropReturn line ∨ line = dropReturn line ++ ['\r'] := by
  by_cases h : line.getLast? = some '\r'
  · right
    obtain ⟨l, rfl⟩ := List.getLast?_eq_some_iff.mp h
    rw [dropReturn_append_return]
  · exact .inl ⟨h, (dropReturn_of_ne h).symm⟩

theorem endLines_cons (line : Text) (h : ls ≠ []) :
    endLines (line :: ls) = dropReturn line :: endLines ls := by
  obtain ⟨next, rest, rfl⟩ := List.exists_cons_of_ne_nil h
  rfl

theorem lines_of_not_mem (h : '\n' ∉ line) : lines line = [line] := by
  rw [lines, List.splitOn_eq_singleton h]
  rfl

theorem lines_append_cons (h : '\n' ∉ line) (rest : Text) :
    lines (line ++ '\n' :: rest) = dropReturn line :: lines rest := by
  rw [lines, List.splitOn_append_cons_self_of_not_mem h, endLines_cons _ (List.splitOn_ne_nil _ _)]
  rfl

theorem linesOf_lines (t : Text) : LinesOf t t.lines := by
  induction t using separator_induction '\n' with
  | word line h =>
    rw [lines_of_not_mem h]
    exact .last h
  | append line rest h ih =>
    rw [lines_append_cons h]
    rcases eq_dropReturn_or line with ⟨hr, hd⟩ | hd
    · rw [← hd]
      exact .ended h hr ih
    · have hd' : '\n' ∉ dropReturn line := fun hmem => h (hd ▸ List.mem_append_left _ hmem)
      have hreturned := LinesOf.returned hd' ih
      rwa [List.append_cons, ← hd] at hreturned

theorem lines_eq_iff : t.lines = ls ↔ LinesOf t ls := by
  constructor
  · rintro rfl
    exact linesOf_lines t
  · intro h
    induction h with
    | last h => exact lines_of_not_mem h
    | ended h hr _ ih => rw [lines_append_cons h, dropReturn_of_ne hr, ih]
    | @returned line rest ls h _ ih =>
      have hline : '\n' ∉ line ++ ['\r'] := by
        rw [List.mem_append, not_or]
        exact ⟨h, by decide⟩
      rw [List.append_cons, lines_append_cons hline, dropReturn_append_return, ih]

theorem filterMap_endLines {β : Type} {f : Text → Option β}
    (hf : ∀ line, f (dropReturn line) = f line) (ls : List Text) :
    (endLines ls).filterMap f = ls.filterMap f := by
  induction ls with
  | nil => rfl
  | cons line ls ih =>
    by_cases hls : ls = []
    · subst hls
      rfl
    · rw [endLines_cons line hls, List.filterMap_cons, List.filterMap_cons, hf, ih]

theorem mem_endLines (h : line ∈ endLines ls) : ∃ l ∈ ls, line = l ∨ line = dropReturn l := by
  induction ls with
  | nil => exact nomatch h
  | cons l ls ih =>
    by_cases hls : ls = []
    · subst hls
      exact ⟨l, List.mem_cons_self .., .inl (List.mem_singleton.mp h)⟩
    · rw [endLines_cons l hls, List.mem_cons] at h
      rcases h with rfl | h
      · exact ⟨l, List.mem_cons_self .., .inr rfl⟩
      · obtain ⟨l', hl', hline⟩ := ih h
        exact ⟨l', List.mem_cons_of_mem _ hl', hline⟩

theorem lines_intercalate (hne : ls ≠ []) (h : ∀ line ∈ ls, '\n' ∉ line) :
    lines (['\n'].intercalate ls) = endLines ls := by
  rw [lines, List.splitOn_intercalate '\n' h hne]

theorem trim_append_of_forall {trail : Text} (h : ∀ c ∈ trail, isBlank c = true) (s : Text) :
    trim (s ++ trail) = trim s := by
  have hs : Strips s (trim s) := trim_eq_iff.mp rfl
  have happend : Strips ([] ++ (s ++ trail)) (trim s) := hs.append nofun h
  exact trim_eq_iff.mpr happend

end MemoryProbe.Text
