import MemoryProbe.Proofs.MountTable.Record

/-! The renderings of a list of records as a table. Each record has a line, in which the bytes of
the first three fields are escaped at will, the gaps are of any width and further fields may follow,
and lines that hold no record may stand anywhere between. Every rendering is read as the records. -/

namespace MemoryProbe.MountTable

def blankBytes : Bytes := [0x20, 0x09, 0x0d, 0x0c]

def IsBlank (l : Bytes) : Prop := ∀ b ∈ l, b ∈ blankBytes

instance : DecidablePred IsBlank := fun l => List.decidableBAll _ l

inductive Further : Bytes → Prop
  | blank {l : Bytes} (h : IsBlank l) : Further l
  | field {gap w rest : Bytes} (hg : IsBlank gap) (hne : gap ≠ []) (hw : w ≠ [])
      (hs : ∀ b ∈ w, isFieldSeparator b = false) (h : Further rest) : Further (gap ++ w ++ rest)

/-- The lines of a record. The first field, as written, does not begin a comment. -/
inductive LineOf (r : Record) : Bytes → Prop
  | mk {lead w₁ g₁ w₂ g₂ w₃ g₃ rest : Bytes} (hl : IsBlank lead)
      (h₁ : Spelling r.fsName w₁) (hhash : w₁.head? ≠ some hash)
      (hg₁ : IsBlank g₁) (hn₁ : g₁ ≠ []) (h₂ : Spelling r.dir w₂)
      (hg₂ : IsBlank g₂) (hn₂ : g₂ ≠ []) (h₃ : Spelling r.fsType w₃)
      (hg₃ : IsBlank g₃) (hn₃ : g₃ ≠ []) (hr : Further rest) :
      LineOf r (lead ++ (w₁ ++ (g₁ ++ (w₂ ++ (g₂ ++ (w₃ ++ (g₃ ++ (r.options ++ rest))))))))

inductive Filler : Bytes → Prop
  | blank {l : Bytes} (h : IsBlank l) : Filler l
  | comment {lead text : Bytes} (h : IsBlank lead) (ht : lineFeed ∉ text) :
      Filler (lead ++ hash :: text)

inductive Rendering : List Record → List Bytes → Prop
  | nil : Rendering [] []
  | filler {rs : List Record} {line : Bytes} {lines : List Bytes} (h : Filler line)
      (hs : Rendering rs lines) : Rendering rs (line :: lines)
  | record {r : Record} {rs : List Record} {line : Bytes} {lines : List Bytes} (h : LineOf r line)
      (hs : Rendering rs lines) : Rendering (r :: rs) (line :: lines)

theorem IsBlank.separator {l : Bytes} (h : IsBlank l) : ∀ b ∈ l, isFieldSeparator b = true := by
  have hall : blankBytes.all isFieldSeparator = true := by decide
  exact fun b hb => List.all_eq_true.mp hall b (h b hb)

theorem IsBlank.not_lineFeed {l : Bytes} (h : IsBlank l) : lineFeed ∉ l := by
  intro hl
  exact absurd (h lineFeed hl) (by decide)

theorem lineFeed_not_mem {w : Bytes} (h : ∀ b ∈ w, isFieldSeparator b = false) : lineFeed ∉ w :=
  fun hl => absurd (h lineFeed hl) (by decide)

theorem IsBlank.head_append {gap : Bytes} (h : IsBlank gap) (hne : gap ≠ []) (rest : Bytes) :
    ∀ b, (gap ++ rest).head? = some b → isFieldSeparator b = true := by
  intro b hb
  obtain ⟨g, gap, rfl⟩ := List.exists_cons_of_ne_nil hne
  rw [← Option.some.inj hb]
  exact h.separator g (List.mem_cons_self ..)

namespace Further
variable {rest : Bytes}

theorem head (h : Further rest) : ∀ b, rest.head? = some b → isFieldSeparator b = true := by
  cases h with
  | blank h =>
    intro b hb
    exact h.separator b (List.mem_of_head? hb)
  | field hg hne _ _ _ =>
    rw [List.append_assoc]
    exact hg.head_append hne _

theorem not_lineFeed (h : Further rest) : lineFeed ∉ rest := by
  induction h with
  | blank h => exact h.not_lineFeed
  | field hg _ _ hs _ ih =>
    simp only [List.mem_append, not_or]
    exact ⟨⟨hg.not_lineFeed, lineFeed_not_mem hs⟩, ih⟩

end Further

namespace LineOf
variable {r : Record} {line : Bytes}

theorem readLine_eq (hr : r.Valid) (h : LineOf r line) : readLine line = .mount r.mount := by
  cases h with
  | @mk _ _ _ _ _ _ _ rest hl h₁ hhash hg₁ hn₁ h₂ hg₂ hn₂ h₃ hg₃ hn₃ hrest =>
    refine readLine_eq_mount (fields rest) ?_ hhash h₁.unescape_eq h₂.unescape_eq h₃.unescape_eq
    rw [fields_separators_append hl.separator,
      fields_word_append (h₁.ne_nil hr.fsName) h₁.not_separator (hg₁.head_append hn₁ _),
      fields_separators_append hg₁.separator,
      fields_word_append (h₂.ne_nil hr.dir) h₂.not_separator (hg₂.head_append hn₂ _),
      fields_separators_append hg₂.separator,
      fields_word_append (h₃.ne_nil hr.fsType) h₃.not_separator (hg₃.head_append hn₃ _),
      fields_separators_append hg₃.separator,
      fields_word_append hr.options hr.options_separator hrest.head]

theorem not_lineFeed (hr : r.Valid) (h : LineOf r line) : lineFeed ∉ line := by
  cases h with
  | mk hl h₁ _ hg₁ _ h₂ hg₂ _ h₃ hg₃ _ hrest =>
    simp only [List.mem_append, not_or]
    exact ⟨hl.not_lineFeed, lineFeed_not_mem h₁.not_separator, hg₁.not_lineFeed,
      lineFeed_not_mem h₂.not_separator, hg₂.not_lineFeed, lineFeed_not_mem h₃.not_separator,
      hg₃.not_lineFeed, lineFeed_not_mem hr.options_separator, hrest.not_lineFeed⟩

theorem exists_line (r : Record) : ∃ line, LineOf r line := by
  obtain ⟨w₁, h₁, hhash⟩ := Spelling.exists_head_ne r.fsName
  obtain ⟨w₂, h₂, -⟩ := Spelling.exists_head_ne r.dir
  obtain ⟨w₃, h₃, -⟩ := Spelling.exists_head_ne r.fsType
  have hgap : IsBlank [0x20] := by decide
  have hne : ([0x20] : Bytes) ≠ [] := List.cons_ne_nil _ _
  have hnil : IsBlank [] := nofun
  exact ⟨_, .mk hnil h₁ hhash hgap hne h₂ hgap hne h₃ hgap hne (.blank hnil)⟩

end LineOf

namespace Filler
variable {line : Bytes}

theorem readLine_eq (h : Filler line) : readLine line = .silent := by
  cases h with
  | blank h => exact readLine_eq_silent (fields_separators h.separator)
  | @comment lead text h _ =>
    obtain ⟨w, more, hw⟩ := fields_cons_of_not_separator (b := hash) rfl text
    have hline : fields (lead ++ hash :: text) = (hash :: w) :: more := by
      rw [fields_separators_append h.separator, hw]
    exact readLine_comment hline rfl

theorem not_lineFeed (h : Filler line) : lineFeed ∉ line := by
  cases h with
  | blank h => exact h.not_lineFeed
  | comment h ht =>
    simp only [List.mem_append, List.mem_cons, not_or]
    exact ⟨h.not_lineFeed, by decide, ht⟩

end Filler

namespace Rendering
variable {rs : List Record} {lines : List Bytes}

theorem reads (hr : ∀ r ∈ rs, r.Valid) (h : Rendering rs lines) : Reads lines rs := by
  induction h with
  | nil => exact .nil
  | filler h _ ih => exact .silent h.readLine_eq (ih hr)
  | record h _ ih =>
    rw [List.forall_mem_cons] at hr
    exact .mount (h.readLine_eq hr.1) (ih hr.2)

theorem not_lineFeed (hr : ∀ r ∈ rs, r.Valid) (h : Rendering rs lines) :
    ∀ line ∈ lines, lineFeed ∉ line := by
  induction h with
  | nil => exact fun line hl => nomatch hl
  | filler h _ ih => exact List.forall_mem_cons.mpr ⟨h.not_lineFeed, ih hr⟩
  | record h _ ih =>
    rw [List.forall_mem_cons] at hr
    exact List.forall_mem_cons.mpr ⟨h.not_lineFeed hr.1, ih hr.2⟩

end Rendering

/-- Every rendering is read as its records, in their order and with no line skipped. -/
theorem parse_rendering {rs : List Record} {lines : List Bytes} (hr : ∀ r ∈ rs, r.Valid)
    (h : Rendering rs lines) :
    parse ([lineFeed].intercalate lines) = ⟨rs.map Record.mount, []⟩ := by
  by_cases hne : lines = []
  · subst hne
    cases h
    rfl
  · apply Reads.parse_eq
    rw [List.splitOn_intercalate lineFeed (h.not_lineFeed hr) hne]
    exact h.reads hr

theorem parse_rendering_comment_record :
    let r : Record := ⟨[0x23], [0x2f, 0x0b, 0x0d, 0xe9], [0x78], [0x72, 0x77]⟩
    let lines : List Bytes := [[0x09, 0x23, 0x20, 0x61],
      [0x5c, 0x30, 0x34, 0x33, 0x0c, 0x2f, 0x0b, 0x5c, 0x30, 0x31, 0x35, 0xe9, 0x20, 0x0d, 0x78,
        0x09, 0x72, 0x77, 0x20, 0x30, 0x0d]]
    r.Valid ∧ Rendering [r] lines ∧
      parse ([lineFeed].intercalate lines) =
        ⟨[⟨['#'], ⟨[0x2f, 0x0b, 0x0d, 0xe9]⟩, ['x'], [['r', 'w']]⟩], []⟩ := by
  intro r lines
  have hoptions : ∀ b ∈ r.options, isFieldSeparator b = false :=
    List.forall_mem_cons.mpr ⟨rfl, List.forall_mem_singleton.mpr rfl⟩
  have hr : r.Valid := ⟨by decide, by decide, by decide, by decide, hoptions⟩
  have hcomment : Filler ([0x09] ++ 0x23 :: [0x20, 0x61]) := .comment (by decide) (by decide)
  have h₁ : Spelling r.fsName [0x5c, 0x30, 0x34, 0x33] := .escaped .nil
  have h₂ : Spelling r.dir [0x2f, 0x0b, 0x5c, 0x30, 0x31, 0x35, 0xe9] :=
    .verbatim (by decide) (by decide) (.verbatim (by decide) (by decide)
      (.escaped (.verbatim (by decide) (by decide) .nil)))
  have h₃ : Spelling r.fsType [0x78] := .verbatim (by decide) (by decide) .nil
  have hrest : Further ([0x20] ++ [0x30] ++ [0x0d]) :=
    .field (by decide) (by decide) (by decide) (List.forall_mem_singleton.mpr rfl)
      (.blank (by decide))
  have hline : LineOf r ([] ++ ([0x5c, 0x30, 0x34, 0x33] ++ ([0x0c] ++
      ([0x2f, 0x0b, 0x5c, 0x30, 0x31, 0x35, 0xe9] ++ ([0x20, 0x0d] ++ ([0x78] ++ ([0x09] ++
        (r.options ++ ([0x20] ++ [0x30] ++ [0x0d]))))))))) :=
    .mk (by decide) h₁ (by decide) (by decide) (by decide) h₂ (by decide) (by decide) h₃
      (by decide) (by decide) hrest
  have h : Rendering [r] lines := .filler hcomment (.record hline .nil)
  exact ⟨hr, h, parse_rendering (List.forall_mem_singleton.mpr hr) h⟩

end MemoryProbe.MountTable
