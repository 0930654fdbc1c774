import MemoryProbe.Proofs.Meminfo
import MemoryProbe.Proofs.Text.Lines

/-! The statistics line by line. A line that is not blank and has no colon makes the text unreadable,
and the first such line is the error, whatever the others say. A text without such a line is read,
and every name has the value that the first line with this name gives it. In particular, entries that
are written as lines, with white space around names and values and blank lines between, are read
back. -/

namespace MemoryProbe.Meminfo
variable {line name value : Text} {lines : List Text} {entries : List (Text × Text)}

def FirstColonless (lines : List Text) (line : Text) : Prop :=
  ∃ before after, lines = before ++ line :: after ∧ Colonless line ∧ ∀ l ∈ before, ¬Colonless l

def Gives (line name value : Text) : Prop :=
  ∃ before after, ':' ∉ before ∧ line = before ++ ':' :: after ∧ Text.Strips before name ∧
    Text.Strips after value

def FirstGiven (lines : List Text) (name value : Text) : Prop :=
  ∃ before line after, lines = before ++ line :: after ∧ Gives line name value ∧
    ∀ l ∈ before, ∀ v, ¬Gives l name v

def given? (line : Text) : Option (Text × Text) :=
  (cut ':' line).map fun (name, value) => (Text.trim name, Text.trim value)

theorem given?_eq_some_iff : given? line = some (name, value) ↔ Gives line name value := by
  rw [given?, Option.map_eq_some_iff, Prod.exists]
  refine exists_congr fun before => exists_congr fun after => ?_
  rw [cut_eq_some_iff, Prod.mk.injEq, Text.trim_eq_iff, Text.trim_eq_iff, and_assoc]

theorem given?_append_cons {before : Text} (h : ':' ∉ before) (after : Text) :
    given? (before ++ ':' :: after) = some (Text.trim before, Text.trim after) := by
  rw [given?, cut_append_cons h, Option.map_some]

theorem given?_eq_none_iff : given? line = none ↔ ':' ∉ line := by
  rw [given?, Option.map_eq_none_iff, cut_eq_none_iff]

theorem parseLine_of_given? {e : Text × Text} (h : given? line = some e) :
    parseLine line = .ok e := by
  obtain ⟨⟨before, after⟩, hc, rfl⟩ := Option.map_eq_some_iff.mp h
  rw [parseLine, hc]

theorem filter_cons_of_not_blank (h : ∃ c ∈ line, Text.isBlank c = false) (lines : List Text) :
    ((line :: lines).filter fun line => !line.all Text.isBlank) =
      line :: lines.filter fun line => !line.all Text.isBlank :=
  List.filter_cons_of_pos (not_all_isBlank_iff.mpr h)

theorem filter_cons_of_blank (h : ¬∃ c ∈ line, Text.isBlank c = false) (lines : List Text) :
    ((line :: lines).filter fun line => !line.all Text.isBlank) =
      lines.filter fun line => !line.all Text.isBlank :=
  List.filter_cons_of_neg (mt not_all_isBlank_iff.mp h)

theorem given?_of_blank (h : ¬∃ c ∈ line, Text.isBlank c = false) : given? line = none :=
  given?_eq_none_iff.mpr fun hmem => h ⟨':', hmem, rfl⟩

theorem mapM_cons_of_ok {α β ε : Type} {f : α → Except ε β} {a : α} {b : β} (h : f a = .ok b)
    (l : List α) : (a :: l).mapM f = (l.mapM f).map (b :: ·) := by
  rw [List.mapM_cons, h]
  cases l.mapM f <;> rfl

theorem map_eq_ok_iff {α β ε : Type} {f : α → β} {r : Except ε α} {b : β} :
    r.map f = .ok b ↔ ∃ a, r = .ok a ∧ f a = b := by
  cases r with
  | error e => exact ⟨nofun, nofun⟩
  | ok a =>
    constructor
    · intro h
      exact ⟨a, rfl, Except.ok.inj h⟩
    · rintro ⟨a', ha, rfl⟩
      rw [Except.ok.inj ha, Except.map]

theorem mapM_parseLine_eq_ok_iff :
    (lines.filter fun line => !line.all Text.isBlank).mapM parseLine = .ok entries ↔
      (∀ line ∈ lines, ¬Colonless line) ∧ lines.filterMap given? = entries := by
  induction lines generalizing entries with
  | nil => exact ⟨fun h => ⟨nofun, Except.ok.inj h⟩, fun h => congrArg Except.ok h.2⟩
  | cons line lines ih =>
    rw [List.forall_mem_cons]
    by_cases hblank : ∃ c ∈ line, Text.isBlank c = false
    · rw [filter_cons_of_not_blank hblank]
      cases he : given? line with
      | none =>
        have hcolon := given?_eq_none_iff.mp he
        rw [List.mapM_cons, parseLine_eq_error_iff.mpr ⟨hcolon, rfl⟩]
        exact ⟨nofun, fun h => absurd ⟨hblank, hcolon⟩ h.1.1⟩
      | some e =>
        have hline : ¬Colonless line := fun h => by
          rw [given?_eq_none_iff.mpr h.2] at he
          exact nomatch he
        rw [mapM_cons_of_ok (parseLine_of_given? he), map_eq_ok_iff, List.filterMap_cons_some he]
        constructor
        · rintro ⟨rest, hrest, rfl⟩
          obtain ⟨hlines, rfl⟩ := ih.mp hrest
          exact ⟨⟨hline, hlines⟩, rfl⟩
        · rintro ⟨⟨-, hlines⟩, rfl⟩
          exact ⟨_, ih.mpr ⟨hlines, rfl⟩, rfl⟩
    · rw [filter_cons_of_blank hblank, ih,
        List.filterMap_cons_none (given?_of_blank hblank)]
      exact ⟨fun h => ⟨⟨fun hc => hblank hc.1, h.1⟩, h.2⟩, fun h => ⟨h.1.2, h.2⟩⟩

theorem exists_parseLine_eq_ok (h : ':' ∈ line) : ∃ e, parseLine line = .ok e := by
  cases he : given? line with
  | none => exact absurd h (given?_eq_none_iff.mp he)
  | some e => exact ⟨e, parseLine_of_given? he⟩

theorem mapM_parseLine_eq_error_iff {cause : ParseError} :
    (lines.filter fun line => !line.all Text.isBlank).mapM parseLine = .error cause ↔
      ∃ line, FirstColonless lines line ∧ cause = .missingColon line := by
  rw [mapM_eq_error_iff]
  constructor
  · rintro ⟨kept, line, rest, hfilter, hkept, herror⟩
    obtain ⟨hcolon, rfl⟩ := parseLine_eq_error_iff.mp herror
    obtain ⟨l₁, l₂, rfl, rfl, hl₂⟩ := List.filter_eq_append_iff.mp hfilter
    obtain ⟨l₃, after, rfl, hblank, hline, -⟩ := List.filter_eq_cons_iff.mp hl₂
    refine ⟨line, ⟨l₁ ++ l₃, after, by rw [List.append_assoc],
      ⟨not_all_isBlank_iff.mp hline, hcolon⟩, ?_⟩, rfl⟩
    intro l hl hc
    have hl' := not_all_isBlank_iff.mpr hc.1
    rcases List.mem_append.mp hl with hl | hl
    · obtain ⟨e, he⟩ := hkept l (List.mem_filter.mpr ⟨hl, hl'⟩)
      rw [parseLine_eq_error_iff.mpr ⟨hc.2, rfl⟩] at he
      exact nomatch he
    · exact hblank l hl hl'
  · rintro ⟨line, ⟨before, after, rfl, hline, hbefore⟩, rfl⟩
    refine ⟨before.filter fun l => !l.all Text.isBlank, line,
      after.filter fun l => !l.all Text.isBlank, ?_, ?_, parseLine_eq_error_iff.mpr ⟨hline.2, rfl⟩⟩
    · rw [List.filter_append, filter_cons_of_not_blank hline.1]
    · intro l hl
      obtain ⟨hl, hkept⟩ := List.mem_filter.mp hl
      refine exists_parseLine_eq_ok (by_contra fun hcolon => ?_)
      exact hbefore l hl ⟨not_all_isBlank_iff.mp hkept, hcolon⟩

theorem parse_eq_ok_iff {t : Text} {m : Meminfo} :
    parse t = .ok m ↔ (∀ line ∈ t.lines, ¬Colonless line) ∧ t.lines.filterMap given? = m.entries := by
  rw [parse, map_eq_ok_iff]
  constructor
  · rintro ⟨entries, h, rfl⟩
    exact mapM_parseLine_eq_ok_iff.mp h
  · intro h
    exact ⟨m.entries, mapM_parseLine_eq_ok_iff.mpr h, rfl⟩

theorem exists_parse_eq_ok_iff {t : Text} : (∃ m, parse t = .ok m) ↔ ¬HasColonless t := by
  simp only [parse_eq_ok_iff]
  constructor
  · rintro ⟨m, hlines, -⟩ ⟨line, hmem, hline⟩
    exact hlines line hmem hline
  · intro h
    exact ⟨⟨t.lines.filterMap given?⟩, fun line hmem hline => h ⟨line, hmem, hline⟩, rfl⟩

theorem firstEntry_iff {m : Meminfo} (h : lines.filterMap given? = m.entries) :
    m.FirstEntry name value ↔ FirstGiven lines name value := by
  rw [FirstEntry, ← h]
  constructor
  · rintro ⟨before, after, hsplit, hbefore⟩
    obtain ⟨l₁, rest, rfl, rfl, hrest⟩ := List.filterMap_eq_append_iff.mp hsplit
    obtain ⟨l₂, line, after, rfl, hnone, hline, -⟩ := List.filterMap_eq_cons_iff.mp hrest
    refine ⟨l₁ ++ l₂, line, after, by rw [List.append_assoc], given?_eq_some_iff.mp hline, ?_⟩
    intro l hl v hv
    rw [← given?_eq_some_iff] at hv
    rcases List.mem_append.mp hl with hl | hl
    · exact hbefore _ (List.mem_filterMap.mpr ⟨l, hl, hv⟩) rfl
    · rw [hnone l hl] at hv
      exact nomatch hv
  · rintro ⟨before, line, after, rfl, hline, hbefore⟩
    refine ⟨before.filterMap given?, after.filterMap given?, ?_, ?_⟩
    · rw [List.filterMap_append, List.filterMap_cons_some (given?_eq_some_iff.mpr hline)]
    · rintro ⟨k, v⟩ he rfl
      obtain ⟨l, hl, hle⟩ := List.mem_filterMap.mp he
      exact hbefore l hl v (given?_eq_some_iff.mp hle)

theorem forall_entries_ne_iff {m : Meminfo} (h : lines.filterMap given? = m.entries) :
    (∀ e ∈ m.entries, e.1 ≠ name) ↔ ∀ line ∈ lines, ∀ value, ¬Gives line name value := by
  rw [← h]
  constructor
  · intro hne line hline value hgives
    exact hne _ (List.mem_filterMap.mpr ⟨line, hline, given?_eq_some_iff.mpr hgives⟩) rfl
  · rintro hnone ⟨k, v⟩ he rfl
    obtain ⟨line, hline, hgives⟩ := List.mem_filterMap.mp he
    exact hnone line hline v (given?_eq_some_iff.mp hgives)

end MemoryProbe.Meminfo
