import Mathlib.Data.List.DropRight
import MemoryProbe.Text.Blank

/-! Trimming takes white space off both ends and nothing else, so it leaves exactly those texts as
they are that have none there. What is left is the one text without white space at its ends that has
white space alone around it. -/

namespace MemoryProbe.Text
variable {t : Text}

structure Trimmed (t : Text) : Prop where
  head : ∀ c, t.head? = some c → isBlank c = false
  last : ∀ c, t.getLast? = some c → isBlank c = false

theorem trim_eq_rdropWhile (t : Text) : trim t = (t.dropWhile isBlank).rdropWhile isBlank := rfl

theorem exists_append_trim_append (t : Text) :
    ∃ lead trail : Text, (∀ c ∈ lead, isBlank c = true) ∧ (∀ c ∈ trail, isBlank c = true) ∧
      lead ++ (trim t ++ trail) = t := by
  refine ⟨t.takeWhile isBlank, (t.dropWhile isBlank).rtakeWhile isBlank,
    fun c hc => List.mem_takeWhile_imp hc, fun c hc => List.mem_rtakeWhile_imp hc, ?_⟩
  rw [trim_eq_rdropWhile, List.rdropWhile_append_rtakeWhile, List.takeWhile_append_dropWhile]

theorem dropWhile_isBlank_eq_self_iff :
    t.dropWhile isBlank = t ↔ ∀ c, t.head? = some c → isBlank c = false := by
  cases t with
  | nil => simp
  | cons c t => simp [List.dropWhile_eq_self_iff]

theorem rdropWhile_isBlank_eq_self_iff :
    t.rdropWhile isBlank = t ↔ ∀ c, t.getLast? = some c → isBlank c = false := by
  rw [List.rdropWhile_eq_self_iff]
  constructor
  · intro h c hc
    obtain ⟨hne, rfl⟩ := List.mem_getLast?_eq_getLast hc
    exact Bool.not_eq_true _ ▸ h hne
  · intro h hne
    rw [h _ (List.getLast?_eq_some_getLast hne)]
    exact Bool.false_ne_true

theorem trim_eq_self_iff : trim t = t ↔ Trimmed t := by
  rw [trim_eq_rdropWhile]
  constructor
  · intro h
    -- neither of the two cuts shortens the text
    have hsuffix : t.dropWhile isBlank <:+ t := List.dropWhile_suffix isBlank
    have hdrop : t.dropWhile isBlank = t := by
      refine hsuffix.eq_of_length (Nat.le_antisymm hsuffix.length_le ?_)
      have hle := (List.rdropWhile_prefix isBlank (t.dropWhile isBlank)).length_le
      rwa [h] at hle
    rw [hdrop] at h
    exact ⟨dropWhile_isBlank_eq_self_iff.mp hdrop, rdropWhile_isBlank_eq_self_iff.mp h⟩
  · intro h
    rw [dropWhile_isBlank_eq_self_iff.mpr h.head, rdropWhile_isBlank_eq_self_iff.mpr h.last]

theorem trimmed_trim (t : Text) : Trimmed (trim t) := by
  rw [trim_eq_rdropWhile]
  constructor
  · -- the first character was there before the end was cut
    intro c hc
    obtain ⟨rest, hrest⟩ := List.rdropWhile_prefix isBlank (t.dropWhile isBlank)
    refine dropWhile_isBlank_eq_self_iff.mp (List.dropWhile_idempotent isBlank t) c ?_
    rw [← hrest, List.head?_append, hc]
    rfl
  · exact rdropWhile_isBlank_eq_self_iff.mp (List.rdropWhile_idempotent isBlank _)

theorem rdropWhile_append_of_forall {trail : Text} (h : ∀ c ∈ trail, isBlank c = true) :
    (t ++ trail).rdropWhile isBlank = t.rdropWhile isBlank := by
  have hreverse : ∀ c ∈ trail.reverse, isBlank c = true := fun c hc => h c (List.mem_reverse.mp hc)
  rw [List.rdropWhile, List.reverse_append, List.dropWhile_append_of_pos hreverse]
  rfl

structure Strips (s t : Text) : Prop where
  trimmed : Trimmed t
  between : ∃ lead trail : Text, (∀ c ∈ lead, isBlank c = true) ∧
    (∀ c ∈ trail, isBlank c = true) ∧ lead ++ (t ++ trail) = s

theorem trim_eq_iff {s : Text} : trim s = t ↔ Strips s t := by
  constructor
  · rintro rfl
    exact ⟨trimmed_trim s, exists_append_trim_append s⟩
  · rintro ⟨ht, lead, trail, hlead, htrail, rfl⟩
    rw [trim_eq_rdropWhile, List.dropWhile_append_of_pos hlead]
    cases t with
    | nil => rw [List.nil_append, List.dropWhile_eq_nil_iff.mpr htrail, List.rdropWhile_nil]
    | cons c t =>
      have hc : isBlank c = false := ht.head c rfl
      rw [List.cons_append, List.dropWhile_cons_of_neg (Bool.not_eq_true _ ▸ hc),
        ← List.cons_append, rdropWhile_append_of_forall htrail,
        rdropWhile_isBlank_eq_self_iff.mpr ht.last]

theorem Trimmed.strips_self (h : Trimmed t) : Strips t t := trim_eq_iff.mp (trim_eq_self_iff.mpr h)

theorem Strips.append {s lead trail : Text} (h : Strips s t) (hlead : ∀ c ∈ lead, isBlank c = true)
    (htrail : ∀ c ∈ trail, isBlank c = true) : Strips (lead ++ (s ++ trail)) t := by
  obtain ⟨ht, before, after, hbefore, hafter, rfl⟩ := h
  refine ⟨ht, lead ++ before, after ++ trail, List.forall_mem_append.mpr ⟨hlead, hbefore⟩,
    List.forall_mem_append.mpr ⟨hafter, htrail⟩, ?_⟩
  simp only [List.append_assoc]

end MemoryProbe.Text
