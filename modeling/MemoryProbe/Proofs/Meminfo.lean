import MemoryProbe.Meminfo

/-! The statistics are read exactly when every line that is not blank has a colon, and a name has
the value of the first entry with it. -/

namespace MemoryProbe.Meminfo

def FirstEntry (m : Meminfo) (name value : Text) : Prop :=
  ∃ before after, m.entries = before ++ (name, value) :: after ∧ ∀ e ∈ before, e.1 ≠ name

theorem raw?_eq_some_iff {m : Meminfo} {name value : Text} :
    m.raw? name = some value ↔ m.FirstEntry name value := by
  rw [raw?, List.lookup_eq_some_iff]
  refine exists_congr fun before => exists_congr fun after => and_congr_right fun _ => ?_
  exact forall₂_congr fun e _ => bne_iff_ne.trans ne_comm

theorem raw?_eq_none_iff {m : Meminfo} {name : Text} :
    m.raw? name = none ↔ ∀ e ∈ m.entries, e.1 ≠ name := by
  rw [raw?, List.lookup_eq_none_iff]
  exact forall₂_congr fun e _ => bne_iff_ne.trans ne_comm

theorem parseLine_eq_error_iff {line : Text} {cause : ParseError} :
    parseLine line = .error cause ↔ ':' ∉ line ∧ cause = .missingColon line := by
  unfold parseLine
  split
  · next hc =>
    rw [Except.error.injEq]
    exact ⟨fun h => ⟨cut_eq_none_iff.mp hc, h.symm⟩, fun h => h.2.symm⟩
  · next name value hc =>
    have hmem : ':' ∈ line := by
      rw [(cut_eq_some_iff.mp hc).2]
      exact List.mem_append_right _ (List.mem_cons_self ..)
    exact ⟨nofun, fun h => absurd hmem h.1⟩

theorem mapM_eq_error_iff {α β ε : Type} {f : α → Except ε β} {l : List α} {e : ε} :
    l.mapM f = .error e ↔
      ∃ before a after, l = before ++ a :: after ∧ (∀ x ∈ before, ∃ b, f x = .ok b) ∧
        f a = .error e := by
  induction l with
  | nil =>
    refine ⟨nofun, ?_⟩
    rintro ⟨before, a, after, h, -⟩
    exact absurd h.symm (List.append_ne_nil_of_right_ne_nil _ (List.cons_ne_nil _ _))
  | cons x l ih =>
    rw [List.mapM_cons]
    cases hx : f x with
    | error e' =>
      show Except.error e' = _ ↔ _
      constructor
      · intro h
        exact ⟨[], x, l, rfl, nofun, hx.trans (Except.error.inj h ▸ rfl)⟩
      · rintro ⟨before, a, after, hl, hb, ha⟩
        cases before with
        | nil =>
          rw [← (List.cons.inj hl).1, hx] at ha
          rw [Except.error.inj ha]
        | cons y before =>
          obtain ⟨b, hy⟩ := hb y (List.mem_cons_self ..)
          rw [← (List.cons.inj hl).1, hx] at hy
          exact nomatch hy
    | ok b =>
      have hbind : (do
          let rest ← l.mapM f
          pure (b :: rest) : Except ε (List β)) = .error e ↔ l.mapM f = .error e := by
        cases l.mapM f with
        | error e' => exact Iff.rfl
        | ok rest => exact ⟨nofun, nofun⟩
      refine hbind.trans (ih.trans ?_)
      constructor
      · rintro ⟨before, a, after, rfl, hb, ha⟩
        exact ⟨x :: before, a, after, rfl, List.forall_mem_cons.mpr ⟨⟨b, hx⟩, hb⟩, ha⟩
      · rintro ⟨before, a, after, hl, hb, ha⟩
        cases before with
        | nil =>
          rw [← (List.cons.inj hl).1, hx] at ha
          exact nomatch ha
        | cons y before =>
          exact ⟨before, a, after, (List.cons.inj hl).2, (List.forall_mem_cons.mp hb).2, ha⟩

theorem exists_mapM_eq_error {α β ε : Type} {f : α → Except ε β} {l : List α} {a : α} {e : ε}
    (ha : a ∈ l) (he : f a = .error e) : ∃ e', l.mapM f = .error e' := by
  induction l with
  | nil => exact nomatch ha
  | cons x l ih =>
    rw [List.mapM_cons]
    cases hx : f x with
    | error e' => exact ⟨e', rfl⟩
    | ok b =>
      rcases List.mem_cons.mp ha with rfl | ha
      · rw [he] at hx
        exact nomatch hx
      · obtain ⟨e', h⟩ := ih ha
        exact ⟨e', by rw [h]; rfl⟩

def Colonless (line : Text) : Prop := (∃ c ∈ line, Text.isBlank c = false) ∧ ':' ∉ line

def HasColonless (t : Text) : Prop := ∃ line ∈ t.lines, Colonless line

theorem not_all_isBlank_iff {line : Text} :
    (!line.all Text.isBlank) = true ↔ ∃ c ∈ line, Text.isBlank c = false := by
  rw [Bool.not_eq_true', List.all_eq_false]
  simp only [Bool.not_eq_true]

theorem parse_eq_error_iff {t : Text} {cause : ParseError} :
    parse t = .error cause ↔
      (t.lines.filter fun line => !line.all Text.isBlank).mapM parseLine = .error cause := by
  unfold parse
  cases (t.lines.filter fun line => !line.all Text.isBlank).mapM parseLine with
  | error e => rw [Except.map, Except.error.injEq, Except.error.injEq]
  | ok entries => exact ⟨nofun, nofun⟩

theorem exists_parse_eq_error_iff {t : Text} :
    (∃ cause, parse t = .error cause) ↔ HasColonless t := by
  simp only [parse_eq_error_iff]
  constructor
  · rintro ⟨cause, hc⟩
    obtain ⟨before, line, after, hl, -, he⟩ := mapM_eq_error_iff.mp hc
    have hmem : line ∈ t.lines.filter fun line => !line.all Text.isBlank :=
      hl ▸ List.mem_append_right _ (List.mem_cons_self ..)
    obtain ⟨hmem, hb⟩ := List.mem_filter.mp hmem
    exact ⟨line, hmem, not_all_isBlank_iff.mp hb, (parseLine_eq_error_iff.mp he).1⟩
  · rintro ⟨line, hmem, hb, hc⟩
    exact exists_mapM_eq_error (List.mem_filter.mpr ⟨hmem, not_all_isBlank_iff.mpr hb⟩)
      (parseLine_eq_error_iff.mpr ⟨hc, rfl⟩)

end MemoryProbe.Meminfo
