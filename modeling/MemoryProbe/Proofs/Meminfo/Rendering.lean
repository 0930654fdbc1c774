import MemoryProbe.Proofs.Meminfo.Entries

/-! The renderings of a list of entries as text. Each entry has a line of its name, a colon and its
value, with white space around either, and blank lines may stand anywhere between. Every rendering
is read as the entries, whether or not its lines end with carriage returns. -/

namespace MemoryProbe.Meminfo
variable {line : Text} {lines : List Text} {e : Text × Text} {entries : List (Text × Text)}

def IsPadding (l : Text) : Prop := ∀ c ∈ l, Text.isBlank c = true ∧ c ≠ '\n'

instance : DecidablePred IsPadding := fun l => List.decidableBAll _ l

structure Plain (e : Text × Text) : Prop where
  name : Text.Trimmed e.1
  name_colon : ':' ∉ e.1
  name_lineFeed : '\n' ∉ e.1
  value : Text.Trimmed e.2
  value_lineFeed : '\n' ∉ e.2

theorem plain_iff : Plain e ↔ Text.trim e.1 = e.1 ∧ ':' ∉ e.1 ∧ '\n' ∉ e.1 ∧
    Text.trim e.2 = e.2 ∧ '\n' ∉ e.2 := by
  rw [Text.trim_eq_self_iff, Text.trim_eq_self_iff]
  exact ⟨fun h => ⟨h.name, h.name_colon, h.name_lineFeed, h.value, h.value_lineFeed⟩,
    fun ⟨h₁, h₂, h₃, h₄, h₅⟩ => ⟨h₁, h₂, h₃, h₄, h₅⟩⟩

instance : DecidablePred Plain := fun _ => decidable_of_iff _ plain_iff.symm

inductive LineOf (e : Text × Text) : Text → Prop
  | mk {l₁ l₂ l₃ l₄ : Text} (h₁ : IsPadding l₁) (h₂ : IsPadding l₂) (h₃ : IsPadding l₃)
    (h₄ : IsPadding l₄) : LineOf e ((l₁ ++ (e.1 ++ l₂)) ++ ':' :: (l₃ ++ (e.2 ++ l₄)))

inductive Rendering : List (Text × Text) → List Text → Prop
  | nil : Rendering [] []
  | blank {entries : List (Text × Text)} {line : Text} {lines : List Text} (h : IsPadding line)
    (hs : Rendering entries lines) : Rendering entries (line :: lines)
  | entry {e : Text × Text} {entries : List (Text × Text)} {line : Text} {lines : List Text}
    (h : LineOf e line) (hs : Rendering entries lines) : Rendering (e :: entries) (line :: lines)

namespace IsPadding

theorem isBlank (h : IsPadding line) : ∀ c ∈ line, Text.isBlank c = true := fun c hc => (h c hc).1

theorem not_lineFeed (h : IsPadding line) : '\n' ∉ line := fun hc => (h _ hc).2 rfl

theorem not_colon (h : IsPadding line) : ':' ∉ line := fun hc =>
  absurd (h.isBlank _ hc) (by decide)

theorem not_colonless (h : IsPadding line) : ¬Colonless line := by
  rintro ⟨⟨c, hc, hblank⟩, -⟩
  rw [h.isBlank c hc] at hblank
  exact nomatch hblank

end IsPadding

theorem Gives.colon (h : Gives line e.1 e.2) : ':' ∈ line := by
  obtain ⟨before, after, -, rfl, -⟩ := h
  exact List.mem_append_right _ (List.mem_cons_self ..)

namespace LineOf

theorem gives (he : Plain e) (h : LineOf e line) : Gives line e.1 e.2 := by
  cases h with
  | mk h₁ h₂ h₃ h₄ =>
    refine ⟨_, _, ?_, rfl, he.name.strips_self.append h₁.isBlank h₂.isBlank,
      he.value.strips_self.append h₃.isBlank h₄.isBlank⟩
    simp only [List.mem_append, not_or]
    exact ⟨h₁.not_colon, he.name_colon, h₂.not_colon⟩

theorem not_lineFeed (he : Plain e) (h : LineOf e line) : '\n' ∉ line := by
  cases h with
  | mk h₁ h₂ h₃ h₄ =>
    simp only [List.mem_append, List.mem_cons, not_or]
    exact ⟨⟨h₁.not_lineFeed, he.name_lineFeed, h₂.not_lineFeed⟩, by decide, h₃.not_lineFeed,
      he.value_lineFeed, h₄.not_lineFeed⟩

end LineOf

/-! A carriage return at the end of a line. -/

theorem given?_dropReturn (line : Text) : given? (Text.dropReturn line) = given? line := by
  have happend (l : Text) : given? (l ++ ['\r']) = given? l := by
    cases hc : cut ':' l with
    | none =>
      rw [cut_eq_none_iff] at hc
      have hl : ':' ∉ l ++ ['\r'] := by
        rw [List.mem_append, not_or]
        exact ⟨hc, by decide⟩
      rw [given?_eq_none_iff.mpr hc, given?_eq_none_iff.mpr hl]
    | some p =>
      obtain ⟨before, after⟩ := p
      obtain ⟨hbefore, rfl⟩ := cut_eq_some_iff.mp hc
      have hreturn : ∀ c ∈ ['\r'], Text.isBlank c = true := List.forall_mem_singleton.mpr rfl
      rw [List.append_assoc, List.cons_append, given?_append_cons hbefore,
        given?_append_cons hbefore, Text.trim_append_of_forall hreturn]
  rcases Text.eq_dropReturn_or line with ⟨-, h⟩ | h
  · rw [← h]
  · rw [← happend, ← h]

theorem not_colonless_dropReturn (h : ¬Colonless line) : ¬Colonless (Text.dropReturn line) := by
  rintro ⟨⟨c, hc, hblank⟩, hcolon⟩
  rcases Text.eq_dropReturn_or line with ⟨-, hline⟩ | hline
  · rw [← hline] at hc hcolon
    exact h ⟨⟨c, hc, hblank⟩, hcolon⟩
  · rw [← given?_eq_none_iff, given?_dropReturn, given?_eq_none_iff] at hcolon
    exact h ⟨⟨c, hline ▸ List.mem_append_left _ hc, hblank⟩, hcolon⟩

namespace Rendering

theorem not_lineFeed (he : ∀ e ∈ entries, Plain e) (h : Rendering entries lines) :
    ∀ line ∈ lines, '\n' ∉ line := by
  induction h with
  | nil => exact fun line hl => nomatch hl
  | blank h _ ih => exact List.forall_mem_cons.mpr ⟨h.not_lineFeed, ih he⟩
  | entry h _ ih =>
    rw [List.forall_mem_cons] at he
    exact List.forall_mem_cons.mpr ⟨h.not_lineFeed he.1, ih he.2⟩

theorem not_colonless (he : ∀ e ∈ entries, Plain e) (h : Rendering entries lines) :
    ∀ line ∈ lines, ¬Colonless line := by
  induction h with
  | nil => exact fun line hl => nomatch hl
  | blank h _ ih => exact List.forall_mem_cons.mpr ⟨h.not_colonless, ih he⟩
  | entry h _ ih =>
    rw [List.forall_mem_cons] at he
    exact List.forall_mem_cons.mpr ⟨fun hc => hc.2 (h.gives he.1).colon, ih he.2⟩

theorem filterMap_given? (he : ∀ e ∈ entries, Plain e) (h : Rendering entries lines) :
    lines.filterMap given? = entries := by
  induction h with
  | nil => rfl
  | blank h _ ih =>
    rw [List.filterMap_cons_none (given?_eq_none_iff.mpr h.not_colon), ih he]
  | entry h _ ih =>
    rw [List.forall_mem_cons] at he
    rw [List.filterMap_cons_some (given?_eq_some_iff.mpr (h.gives he.1)), ih he.2]

end Rendering

theorem parse_intercalate_of_rendering (he : ∀ e ∈ entries, Plain e) (h : Rendering entries lines) :
    parse (['\n'].intercalate lines) = .ok ⟨entries⟩ := by
  by_cases hne : lines = []
  · subst hne
    cases h
    rfl
  · rw [parse_eq_ok_iff, Text.lines_intercalate hne (h.not_lineFeed he),
      Text.filterMap_endLines given?_dropReturn, h.filterMap_given? he]
    refine ⟨fun line hl => ?_, rfl⟩
    obtain ⟨l, hmem, rfl | rfl⟩ := Text.mem_endLines hl
    · exact h.not_colonless he _ hmem
    · exact not_colonless_dropReturn (h.not_colonless he _ hmem)

/-- What is read from a text is what its lines say one by one: the first line that is not blank and
has no colon is the error, and otherwise a name has the value that is first given to it. -/
theorem parse_by_lines :
    (∀ t : Text,
      (∀ lines, t.lines = lines ↔ Text.LinesOf t lines) ∧
        (∀ cause, parse t = .error cause ↔
          ∃ line, FirstColonless t.lines line ∧ cause = .missingColon line) ∧
        ((∃ m, parse t = .ok m) ↔ ¬HasColonless t) ∧
        ∀ m, parse t = .ok m → ∀ name,
          (∀ value, m.raw? name = some value ↔ FirstGiven t.lines name value) ∧
            (m.raw? name = none ↔ ∀ line ∈ t.lines, ∀ value, ¬Gives line name value)) ∧
      ∀ entries lines, (∀ e ∈ entries, Plain e) → Rendering entries lines →
        ∃ m, parse (['\n'].intercalate lines) = .ok m ∧ m.entries = entries ∧ ∀ name,
          (∀ value, m.raw? name = some value ↔ m.FirstEntry name value) ∧
            (m.raw? name = none ↔ ∀ e ∈ entries, e.1 ≠ name) := by
  refine ⟨fun t => ⟨fun lines => Text.lines_eq_iff, fun cause => ?_, exists_parse_eq_ok_iff, ?_⟩, ?_⟩
  · exact parse_eq_error_iff.trans mapM_parseLine_eq_error_iff
  · intro m hm name
    have hentries := (parse_eq_ok_iff.mp hm).2
    exact ⟨fun value => raw?_eq_some_iff.trans (firstEntry_iff hentries),
      raw?_eq_none_iff.trans (forall_entries_ne_iff hentries)⟩
  · intro entries lines he h
    exact ⟨⟨entries⟩, parse_intercalate_of_rendering he h, rfl, fun name =>
      ⟨fun value => raw?_eq_some_iff, raw?_eq_none_iff⟩⟩

theorem parse_by_lines_repeated_name :
    let entries := [("size".toList, "2 kB".toList), ([], "a:b".toList), ("size".toList, [])]
    let lines := [" size\t:\t2 kB\r".toList, "\u2003\r".toList, ":a:b".toList, "size :".toList, []]
    (∀ e ∈ entries, Plain e) ∧ Rendering entries lines ∧
      ∃ m, parse (['\n'].intercalate lines) = .ok m ∧ m.raw? "size".toList = some "2 kB".toList ∧
        m.raw? "2 kB".toList = none := by
  intro entries lines
  have he : ∀ e ∈ entries, Plain e := by decide +kernel
  have hnil : IsPadding [] := by decide
  have h₁ : LineOf ("size".toList, "2 kB".toList)
      ((" ".toList ++ ("size".toList ++ "\t".toList)) ++
        ':' :: ("\t".toList ++ ("2 kB".toList ++ "\r".toList))) :=
    .mk (by decide) (by decide) (by decide) (by decide)
  have h₂ : LineOf ([], "a:b".toList) (([] ++ ([] ++ [])) ++ ':' :: ([] ++ ("a:b".toList ++ []))) :=
    .mk hnil hnil hnil hnil
  have h₃ : LineOf ("size".toList, []) (([] ++ ("size".toList ++ " ".toList)) ++
      ':' :: ([] ++ ([] ++ []))) := .mk hnil (by decide) hnil hnil
  have h : Rendering entries lines :=
    .entry h₁ (.blank (by decide +kernel) (.entry h₂ (.entry h₃ (.blank hnil .nil))))
  obtain ⟨m, hm, hentries, hraw⟩ := parse_by_lines.2 entries lines he h
  refine ⟨he, h, m, hm, ?_, ?_⟩
  · exact ((hraw _).1 _).mpr ⟨[], entries.tail, hentries, List.forall_mem_nil _⟩
  · exact (hraw _).2.mpr (by decide +kernel)

end MemoryProbe.Meminfo
