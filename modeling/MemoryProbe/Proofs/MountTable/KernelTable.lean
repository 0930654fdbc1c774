import MemoryProbe.Proofs.MountTable.Rendering

/-! The table as the kernel writes it: one line for each record, single spaces, and escapes for
space, tab, line feed, backslash and number sign alone. Carriage returns and form feeds stay as they
are and break a field in two, so the table is read as its records exactly when no field of a name,
a directory or a type has one of them. -/

namespace MemoryProbe.MountTable

/-- Space, tab, line feed, backslash and number sign. -/
def kernelEscapes : Bytes := [0x20, 0x09, 0x0a, 0x5c, 0x23]

def kernelByte (b : UInt8) : Bytes := if b ∈ kernelEscapes then octalEscape b else [b]

def kernelField (field : Bytes) : Bytes := field.flatMap kernelByte

def Record.kernelLine (r : Record) : Bytes :=
  kernelField r.fsName ++ 0x20 :: (kernelField r.dir ++ 0x20 :: (kernelField r.fsType ++
    0x20 :: (r.options ++ [0x20, 0x30, 0x20, 0x30])))

def kernelTable (rs : List Record) : Bytes := rs.flatMap fun r => r.kernelLine ++ [lineFeed]

/-- Carriage return and form feed, which separate fields though the kernel does not escape them. -/
def isBreak (b : UInt8) : Bool := b == 0x0d || b == 0x0c

def Unbroken (field : Bytes) : Prop := ∀ b ∈ field, isBreak b = false

instance : DecidablePred Unbroken := fun field =>
  inferInstanceAs (Decidable (∀ b ∈ field, isBreak b = false))

structure Record.Unbroken (r : Record) : Prop where
  fsName : MountTable.Unbroken r.fsName
  dir : MountTable.Unbroken r.dir
  fsType : MountTable.Unbroken r.fsType

theorem not_separator_of_not_mem {b : UInt8} (hb : b ∉ kernelEscapes) (hbreak : isBreak b = false) :
    isFieldSeparator b = false ∧ b ≠ backslash := by
  simp only [kernelEscapes, List.mem_cons, List.not_mem_nil, or_false, not_or] at hb
  simp only [isBreak, Bool.or_eq_false_iff, beq_eq_false_iff_ne, ne_eq] at hbreak
  simp only [isFieldSeparator, Bool.or_eq_false_iff, beq_eq_false_iff_ne, ne_eq]
  exact ⟨⟨⟨⟨⟨hb.1, hb.2.1⟩, hb.2.2.1⟩, hbreak.2⟩, hbreak.1⟩, hb.2.2.2.1⟩

theorem spelling_kernelField {field : Bytes} (h : Unbroken field) :
    Spelling field (kernelField field) := by
  induction field with
  | nil => exact .nil
  | cons b field ih =>
    have ih := ih fun x hx => h x (List.mem_cons_of_mem _ hx)
    rw [kernelField, List.flatMap_cons, kernelByte]
    by_cases hb : b ∈ kernelEscapes
    · rw [if_pos hb]
      exact .escaped ih
    · rw [if_neg hb]
      have hs := not_separator_of_not_mem hb (h b (List.mem_cons_self ..))
      exact .verbatim hs.1 hs.2 ih

theorem head_kernelField_ne_hash (field : Bytes) : (kernelField field).head? ≠ some hash := by
  cases field with
  | nil => exact nofun
  | cons b field =>
    rw [kernelField, List.flatMap_cons, kernelByte]
    by_cases hb : b ∈ kernelEscapes
    · rw [if_pos hb]
      exact fun h => absurd (Option.some.inj h) (by decide)
    · rw [if_neg hb]
      intro h
      rw [Option.some.inj h] at hb
      exact hb (by decide)

theorem further_zeros : Further ([0x20] ++ [0x30] ++ ([0x20] ++ [0x30] ++ [])) := by
  have hzero : ∀ b ∈ [0x30], isFieldSeparator b = false := List.forall_mem_singleton.mpr rfl
  exact .field (by decide) (by decide) (by decide) hzero
    (.field (by decide) (by decide) (by decide) hzero (.blank (by decide)))

theorem Record.Unbroken.lineOf {r : Record} (h : r.Unbroken) : LineOf r r.kernelLine := by
  show LineOf r ([] ++ (kernelField r.fsName ++ ([0x20] ++ (kernelField r.dir ++ ([0x20] ++
    (kernelField r.fsType ++ ([0x20] ++ (r.options ++ _))))))))
  exact .mk (by decide) (spelling_kernelField h.fsName) (head_kernelField_ne_hash _)
    (by decide) (by decide) (spelling_kernelField h.dir) (by decide) (by decide)
    (spelling_kernelField h.fsType) (by decide) (by decide) further_zeros

theorem splitOnP_kernelField (field : Bytes) :
    (kernelField field).splitOnP isFieldSeparator =
      (field.splitOnP isBreak).map kernelField := by
  induction field with
  | nil => rfl
  | cons b field ih =>
    rw [kernelField, List.flatMap_cons, List.splitOnP_cons_eq_if_modifyHead]
    by_cases hb : isBreak b = true
    · have hbyte : b ∉ kernelEscapes ∧ isFieldSeparator b = true := by
        simp only [isBreak, Bool.or_eq_true, beq_iff_eq] at hb
        rcases hb with rfl | rfl <;> decide
      rw [if_pos hb, kernelByte, if_neg hbyte.1, List.singleton_append,
        List.splitOnP_cons_eq_if_modifyHead, if_pos hbyte.2, List.map_cons]
      exact congrArg _ ih
    · rw [Bool.not_eq_true] at hb
      have hbyte : ∀ x ∈ kernelByte b, isFieldSeparator x = false := by
        rw [kernelByte]
        split
        · exact octalEscape_not_separator b
        · next hmem =>
          exact List.forall_mem_singleton.mpr (not_separator_of_not_mem hmem hb).1
      obtain ⟨first, others, hl⟩ :=
        List.exists_cons_of_ne_nil (List.splitOnP_ne_nil isBreak field)
      rw [if_neg (by rw [hb]; exact Bool.false_ne_true), splitOnP_append_of_forall_not hbyte]
      show List.modifyHead _ (List.splitOnP isFieldSeparator (kernelField field)) = _
      rw [ih, hl]
      rfl

theorem unescape?_of_mem_fields {field w : Bytes} (hw : w ∈ fields (kernelField field)) :
    ∃ v, unescape? w = some v ∧ Unbroken v := by
  obtain ⟨hw, -⟩ := List.mem_filter.mp hw
  rw [splitOnP_kernelField] at hw
  obtain ⟨v, hv, rfl⟩ := List.mem_map.mp hw
  have hu : Unbroken v := not_of_mem_splitOnP hv
  exact ⟨v, (spelling_kernelField hu).unescape_eq, hu⟩

theorem fields_kernelField {field : Bytes} (hne : field ≠ []) (h : Unbroken field) :
    fields (kernelField field) = [kernelField field] :=
  fields_word ((spelling_kernelField h).ne_nil hne) (spelling_kernelField h).not_separator

theorem next_word {field w v : Bytes} {rest ws : List Bytes} (hne : field ≠ [])
    (h : fields (kernelField field) ++ rest = w :: ws) (hv : unescape? w = some v) :
    Unbroken v ∧ (Unbroken field → rest = ws) ∨ ¬Unbroken field ∧ rest = w :: ws := by
  cases hf : fields (kernelField field) with
  | nil =>
    rw [hf, List.nil_append] at h
    refine .inr ⟨fun hu => ?_, h⟩
    rw [fields_kernelField hne hu] at hf
    exact List.cons_ne_nil _ _ hf
  | cons x xs =>
    rw [hf, List.cons_append, List.cons.injEq] at h
    obtain ⟨u, hu, hunbroken⟩ := unescape?_of_mem_fields (hf ▸ List.mem_cons_self ..)
    rw [h.1, hv, Option.some.injEq] at hu
    refine .inl ⟨hu ▸ hunbroken, fun hfield => ?_⟩
    rw [fields_kernelField hne hfield, List.cons.injEq] at hf
    rw [← h.2, ← hf.2, List.nil_append]

theorem unbroken_iff_of_lossy {a b : Bytes} (h : Utf8.lossy a = Utf8.lossy b) :
    Unbroken a ↔ Unbroken b := by
  have hmem {x : UInt8} (hx : x.toNat < 0x80) : x ∈ a ↔ x ∈ b := by
    rw [← Utf8.mem_lossy_iff hx, h, Utf8.mem_lossy_iff hx]
  have hiff (f : Bytes) : Unbroken f ↔ (0x0d : UInt8) ∉ f ∧ (0x0c : UInt8) ∉ f := by
    simp only [Unbroken, isBreak, Bool.or_eq_false_iff, beq_eq_false_iff_ne, ne_eq]
    exact ⟨fun h => ⟨fun hd => (h _ hd).1 rfl, fun hc => (h _ hc).2 rfl⟩,
      fun h b hb => ⟨fun hd => h.1 (hd ▸ hb), fun hc => h.2 (hc ▸ hb)⟩⟩
  rw [hiff, hiff, hmem (by decide), hmem (by decide)]

theorem fields_kernelLine {r : Record} (hr : r.Valid) :
    fields r.kernelLine = fields (kernelField r.fsName) ++ (fields (kernelField r.dir) ++
      (fields (kernelField r.fsType) ++ [r.options, [0x30], [0x30]])) := by
  have hrest : fields (r.options ++ [0x20, 0x30, 0x20, 0x30]) = [r.options, [0x30], [0x30]] := by
    rw [fields_append_cons _ rfl, fields_word hr.options hr.options_separator]
    rfl
  rw [Record.kernelLine, fields_append_cons _ rfl, fields_append_cons _ rfl,
    fields_append_cons _ rfl, hrest]

theorem unbroken_of_unescape?_zero {v : Bytes} (h : unescape? [0x30] = some v) : Unbroken v := by
  rw [← Option.some.inj h]
  exact List.forall_mem_singleton.mpr rfl

/-- A broken record is never read back. The first of its fields that is broken would have to come
from a later field or from the end of the line, and neither gives a break. -/
theorem unbroken_of_readLine {r : Record} (hr : r.Valid)
    (h : readLine r.kernelLine = .mount r.mount) : r.Unbroken := by
  obtain ⟨w₁, w₂, w₃, more, q, hline, -, h₁, h₂, h₃, hm⟩ := exists_of_readLine_eq_mount h
  simp only [Record.mount, Mount.mk.injEq, Path.mk.injEq] at hm
  obtain ⟨hname, hdir, htype, hopts⟩ := hm
  have hname := unbroken_iff_of_lossy hname
  have htype := unbroken_iff_of_lossy htype
  rw [fields_kernelLine hr] at hline
  rcases next_word hr.fsName hline h₁ with ⟨hu₁, hline⟩ | ⟨hb₁, hline⟩
  case inr =>
    -- the name is all breaks, so what is read for it comes from a later field
    rcases next_word hr.dir hline h₁ with ⟨hu, -⟩ | ⟨-, hline⟩
    · exact absurd (hname.mpr hu) hb₁
    rcases next_word hr.fsType hline h₁ with ⟨hu, -⟩ | ⟨-, hline⟩
    · exact absurd (hname.mpr hu) hb₁
    · simp at hline
  have hline := hline (hname.mpr hu₁)
  rcases next_word hr.dir hline h₂ with ⟨hu₂, hline⟩ | ⟨hb₂, hline⟩
  case inr =>
    -- the directory is all breaks, and at best the first zero is read for the type
    rcases next_word hr.fsType hline h₂ with ⟨hu, -⟩ | ⟨hb₃, hline⟩
    · exact absurd (hdir ▸ hu) hb₂
    · simp only [List.cons.injEq] at hline
      rw [← hline.2.1] at h₃
      exact absurd (htype.mpr (unbroken_of_unescape?_zero h₃)) hb₃
  have hline := hline (hdir ▸ hu₂)
  rcases next_word hr.fsType hline h₃ with ⟨hu₃, -⟩ | ⟨hb₃, hline⟩
  · exact ⟨hname.mpr hu₁, hdir ▸ hu₂, htype.mpr hu₃⟩
  · -- the type is all breaks, so the options are read for it and the first zero for them
    simp only [List.cons.injEq] at hline
    have hzero : Utf8.lossy r.options = ['0'] := by
      have h := congrArg ([','].intercalate) hopts
      rw [List.intercalate_splitOn, List.intercalate_splitOn, ← hline.2.1] at h
      exact h
    have hzero : r.options = [0x30] := (Utf8.lossy_eq_iff (by decide)).mp hzero
    rw [← hline.1, hzero] at h₃
    exact absurd (htype.mpr (unbroken_of_unescape?_zero h₃)) hb₃

theorem readLine_kernelLine_iff {r : Record} (hr : r.Valid) :
    readLine r.kernelLine = .mount r.mount ↔ r.Unbroken :=
  ⟨unbroken_of_readLine hr, fun h => h.lineOf.readLine_eq hr⟩

theorem lineFeed_not_mem_kernelField (field : Bytes) : lineFeed ∉ kernelField field := by
  intro h
  obtain ⟨b, -, hb⟩ := List.mem_flatMap.mp h
  rw [kernelByte] at hb
  split at hb
  · exact absurd (octalEscape_not_separator b _ hb) (by decide)
  · next hmem =>
    rw [← List.mem_singleton.mp hb] at hmem
    exact hmem (by decide)

theorem lineFeed_not_mem_kernelLine {r : Record} (hr : r.Valid) : lineFeed ∉ r.kernelLine := by
  have hopts : lineFeed ∉ r.options := lineFeed_not_mem hr.options_separator
  simp only [Record.kernelLine, List.mem_append, List.mem_cons, not_or]
  exact ⟨lineFeed_not_mem_kernelField _, by decide, lineFeed_not_mem_kernelField _, by decide,
    lineFeed_not_mem_kernelField _, by decide, hopts, by decide⟩

theorem splitOn_kernelTable {rs : List Record} (hr : ∀ r ∈ rs, r.Valid) :
    (kernelTable rs).splitOn lineFeed = rs.map Record.kernelLine ++ [[]] := by
  induction rs with
  | nil => rfl
  | cons r rs ih =>
    rw [List.forall_mem_cons] at hr
    have hcons : kernelTable (r :: rs) = r.kernelLine ++ lineFeed :: kernelTable rs := by
      rw [kernelTable, List.flatMap_cons, List.append_assoc, List.singleton_append]
      rfl
    rw [hcons, List.splitOn_append_cons_self_of_not_mem (lineFeed_not_mem_kernelLine hr.1),
      ih hr.2, List.map_cons, List.cons_append]

theorem reads_kernelTable {rs : List Record} (hr : ∀ r ∈ rs, r.Valid)
    (hu : ∀ r ∈ rs, r.Unbroken) : Reads (rs.map Record.kernelLine ++ [[]]) rs := by
  induction rs with
  | nil => exact .silent rfl .nil
  | cons r rs ih =>
    rw [List.forall_mem_cons] at hr hu
    exact .mount ((readLine_kernelLine_iff hr.1).mpr hu.1) (ih hr.2 hu.2)

theorem eq_some_of_filterMap_eq_map {α β : Type} {f : α → Option β} {g : α → β} {l : List α}
    (h : l.filterMap f = l.map g) : ∀ a ∈ l, f a = some (g a) := by
  induction l with
  | nil => exact fun a ha => nomatch ha
  | cons a l ih =>
    cases hf : f a with
    | none =>
      -- with one member dropped the lists cannot be of one length
      have hl := congrArg List.length h
      rw [List.filterMap_cons_none hf, List.length_map, List.length_cons] at hl
      have hle := List.length_filterMap_le f l
      omega
    | some b =>
      rw [List.filterMap_cons_some hf, List.map_cons, List.cons.injEq] at h
      exact List.forall_mem_cons.mpr ⟨by rw [hf, h.1], ih h.2⟩

theorem LineReading.mount?_eq_some {reading : LineReading} {m : Mount}
    (h : reading.mount? = some m) : reading = .mount m := by
  cases reading with
  | mount m' => rw [Option.some.inj h]
  | silent => exact nomatch h
  | unreadable cause => exact nomatch h

theorem unbroken_of_mounts_kernelTable {rs : List Record} (hr : ∀ r ∈ rs, r.Valid)
    (h : (parse (kernelTable rs)).mounts = rs.map Record.mount) : ∀ r ∈ rs, r.Unbroken := by
  have hmounts : (rs.filterMap fun r => (readLine r.kernelLine).mount?) = rs.map Record.mount := by
    rw [← h, parse, splitOn_kernelTable hr, List.filterMap_append, List.filterMap_map]
    exact (List.append_nil _).symm
  intro r hmem
  have hread := LineReading.mount?_eq_some (eq_some_of_filterMap_eq_map hmounts r hmem)
  exact unbroken_of_readLine (hr r hmem) hread

/-- The table is read back without loss exactly when its records are unbroken, and then only a
record of that name and type is taken for a hugetlbfs mount. -/
theorem parse_kernelTable_iff (rs : List Record) (hr : ∀ r ∈ rs, r.Valid) :
    (parse (kernelTable rs) = ⟨rs.map Record.mount, []⟩ ↔ ∀ r ∈ rs, r.Unbroken) ∧
      ((∀ r ∈ rs, r.Unbroken) → ∀ m ∈ (parse (kernelTable rs)).mounts, m.isHugetlbfs = true →
        ∃ r ∈ rs, r.mount = m ∧ r.fsType = Utf8.encode Mount.hugetlbfs ∧
          r.fsName = Utf8.encode Mount.hugetlbfs) := by
  have hread : (∀ r ∈ rs, r.Unbroken) → parse (kernelTable rs) = ⟨rs.map Record.mount, []⟩ := by
    intro hu
    apply Reads.parse_eq
    rw [splitOn_kernelTable hr]
    exact reads_kernelTable hr hu
  refine ⟨⟨fun h => unbroken_of_mounts_kernelTable hr (by rw [h]), hread⟩, fun hu m hm hh => ?_⟩
  rw [hread hu] at hm
  obtain ⟨r, hmem, rfl⟩ := List.mem_map.mp hm
  exact ⟨r, hmem, rfl, r.isHugetlbfs_mount_iff.mp hh⟩

theorem parse_kernelTable_carriageReturn :
    let r : Record := {
      fsName := Utf8.encode "hugetlbfs\r/mnt/huge\rhugetlbfs\rrw".toList
      dir := Utf8.encode "/home/u".toList
      fsType := Utf8.encode "fuse".toList
      options := Utf8.encode "rw".toList }
    r.Valid ∧ parse (kernelTable [r]) ≠ ⟨[r.mount], []⟩ ∧ r.mount.isHugetlbfs = false ∧
      (parse (kernelTable [r])).mounts.any Mount.isHugetlbfs = true := by
  intro r
  have hr : r.Valid := ⟨by decide +kernel, by decide +kernel, by decide +kernel, by decide +kernel,
    by decide +kernel⟩
  refine ⟨hr, fun h => ?_, by decide +kernel, by decide +kernel⟩
  have hu := (parse_kernelTable_iff [r] (List.forall_mem_singleton.mpr hr)).1.mp h r
    (List.mem_singleton_self r)
  exact absurd hu.fsName (by decide +kernel)

end MemoryProbe.MountTable
