/-! Text is a list of characters and the content of a file a list of bytes, so that every reader
and printer of the library is a function on lists. Cutting at the first separator and dividing into
lines are the two ways in which the readers take such a list apart. -/

namespace MemoryProbe

abbrev Text := List Char

abbrev Bytes := List UInt8

def cut {α : Type} [BEq α] (sep : α) (l : List α) : Option (List α × List α) :=
  match l.dropWhile (· != sep) with
  | [] => none
  | _ :: rest => some (l.takeWhile (· != sep), rest)

theorem cut_eq_none_iff {α : Type} [BEq α] [LawfulBEq α] {sep : α} {l : List α} :
    cut sep l = none ↔ sep ∉ l := by
  induction l with
  | nil => simp [cut]
  | cons a l ih =>
    by_cases h : a = sep
    · simp [cut, h]
    · have h' : sep ≠ a := fun e => h e.symm
      simp only [cut, List.dropWhile_cons, bne_iff_ne, ne_eq, h, not_false_eq_true, if_true,
        List.mem_cons, h', false_or, List.takeWhile_cons] at ih ⊢
      rw [← ih]
      split <;> simp_all

theorem cut_append_cons {α : Type} [BEq α] [LawfulBEq α] {sep : α} {a : List α} (h : sep ∉ a)
    (b : List α) : cut sep (a ++ sep :: b) = some (a, b) := by
  have ha : ∀ x ∈ a, (x != sep) = true := fun x hx => by
    simpa using fun e : x = sep => h (e ▸ hx)
  unfold cut
  rw [List.dropWhile_append_of_pos ha, List.takeWhile_append_of_pos ha]
  simp

theorem cut_eq_some_iff {α : Type} [BEq α] [LawfulBEq α] {sep : α} {l a b : List α} :
    cut sep l = some (a, b) ↔ sep ∉ a ∧ l = a ++ sep :: b := by
  constructor
  · intro h
    have hmem : sep ∈ l := by
      by_cases hs : sep ∈ l
      · exact hs
      · rw [cut_eq_none_iff.mpr hs] at h
        exact nomatch h
    obtain ⟨s, t, rfl, hs⟩ := List.eq_append_cons_of_mem hmem
    rw [cut_append_cons hs, Option.some.injEq, Prod.mk.injEq] at h
    exact ⟨h.1 ▸ hs, by rw [h.1, h.2]⟩
  · rintro ⟨ha, rfl⟩
    exact cut_append_cons ha b

namespace Text

def dropReturn (l : Text) : Text :=
  if l.getLast? = some '\r' then l.dropLast else l

/-- The pieces between line feeds lose the carriage return that belongs to a line end; the piece
after the last line feed has no line end and stays as it is. -/
def endLines : List Text → List Text
  | [] => []
  | [last] => [last]
  | l :: next :: rest => dropReturn l :: endLines (next :: rest)

def lines (t : Text) : List Text := endLines (t.splitOn '\n')

end Text
end MemoryProbe
