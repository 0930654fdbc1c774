/-! Splitting a list at its separators. No piece has one, what stands before the first separator
belongs to the first piece, and the pieces together are the list without its separators. -/

namespace MemoryProbe
variable {α : Type} {p : α → Bool}

theorem not_of_mem_splitOnP {l w : List α} (hw : w ∈ l.splitOnP p) : ∀ x ∈ w, p x = false := by
  induction l generalizing w with
  | nil =>
    rw [List.splitOnP_nil, List.mem_singleton] at hw
    subst hw
    exact fun x hx => nomatch hx
  | cons a l ih =>
    rw [List.splitOnP_cons_eq_if_modifyHead] at hw
    obtain ⟨first, others, hl⟩ := List.exists_cons_of_ne_nil (List.splitOnP_ne_nil p l)
    rw [hl] at hw ih
    split at hw
    · rcases List.mem_cons.mp hw with rfl | hw
      · exact fun x hx => nomatch hx
      · exact ih hw
    · next ha =>
      rcases List.mem_cons.mp hw with rfl | hw
      · exact List.forall_mem_cons.mpr ⟨Bool.eq_false_iff.mpr ha, ih (List.mem_cons_self ..)⟩
      · exact ih (List.mem_cons_of_mem _ hw)

theorem splitOnP_append_of_forall_not {w : List α} (h : ∀ x ∈ w, p x = false) (l : List α) :
    (w ++ l).splitOnP p = (l.splitOnP p).modifyHead (w ++ ·) := by
  induction w with
  | nil =>
    rw [List.nil_append]
    cases l.splitOnP p <;> rfl
  | cons a w ih =>
    have ih := ih fun x hx => h x (List.mem_cons_of_mem _ hx)
    rw [List.cons_append, List.splitOnP_cons_eq_if_modifyHead, h a (List.mem_cons_self ..), ih]
    cases l.splitOnP p <;> rfl

theorem flatten_splitOnP (p : α → Bool) (l : List α) :
    (l.splitOnP p).flatten = l.filter fun a => !p a := by
  induction l with
  | nil => rfl
  | cons a l ih =>
    rw [List.splitOnP_cons_eq_if_modifyHead]
    cases ha : p a with
    | true =>
      rw [if_pos rfl, List.filter_cons_of_neg (by rw [ha]; exact Bool.false_ne_true), ← ih]
      rfl
    | false =>
      rw [if_neg Bool.false_ne_true, List.filter_cons_of_pos (by rw [ha]; rfl), ← ih]
      cases hl : l.splitOnP p with
      | nil => exact absurd hl (List.splitOnP_ne_nil p l)
      | cons first rest => rfl

/-- What holds of a list without the separator, and of a list with one if it holds behind the first,
holds of every list. -/
@[elab_as_elim]
theorem separator_induction (sep : α) {motive : List α → Prop}
    (word : ∀ w, sep ∉ w → motive w)
    (append : ∀ w rest, sep ∉ w → motive rest → motive (w ++ sep :: rest)) (l : List α) :
    motive l := by
  by_cases h : sep ∈ l
  · obtain ⟨w, rest, hl, hw⟩ := List.eq_append_cons_of_mem h
    have hlt : rest.length < l.length := by
      rw [hl, List.length_append, List.length_cons]
      omega
    rw [hl]
    exact append w rest hw (separator_induction sep word append rest)
  · exact word l h
termination_by l.length

end MemoryProbe
