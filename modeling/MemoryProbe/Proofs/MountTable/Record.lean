import MemoryProbe.MountTable.Basic
import MemoryProbe.Proofs.MountTable.Fields
import MemoryProbe.Proofs.Text.Utf8

/-! A record is a mount as the system holds it, in bytes. A line whose fields spell a record is read
as its mount, and a table is read line by line, so it is read as a list of records when each of its
lines is silent or spells the next of them. -/

namespace MemoryProbe.MountTable

structure Record where
  fsName : Bytes
  dir : Bytes
  fsType : Bytes
  options : Bytes
deriving DecidableEq, Repr

namespace Record

/-- No field is empty, and the options, which are never escaped, have no separator in them. -/
structure Valid (r : Record) : Prop where
  fsName : r.fsName ≠ []
  dir : r.dir ≠ []
  fsType : r.fsType ≠ []
  options : r.options ≠ []
  options_separator : ∀ b ∈ r.options, isFieldSeparator b = false

def mount (r : Record) : Mount where
  fsName := Utf8.lossy r.fsName
  dir := ⟨r.dir⟩
  fsType := Utf8.lossy r.fsType
  options := (Utf8.lossy r.options).splitOn ','

theorem isHugetlbfs_mount_iff (r : Record) :
    r.mount.isHugetlbfs = true ↔
      r.fsType = Utf8.encode Mount.hugetlbfs ∧ r.fsName = Utf8.encode Mount.hugetlbfs := by
  have ht : Utf8.replacement ∉ Mount.hugetlbfs := by decide
  rw [Mount.isHugetlbfs, Bool.and_eq_true, beq_iff_eq, beq_iff_eq]
  exact and_congr (Utf8.lossy_eq_iff ht) (Utf8.lossy_eq_iff ht)

end Record

theorem readLine_eq_mount {line w₁ w₂ w₃ : Bytes} {r : Record} (more : List Bytes)
    (hline : fields line = w₁ :: w₂ :: w₃ :: r.options :: more) (hhash : w₁.head? ≠ some hash)
    (h₁ : unescape? w₁ = some r.fsName) (h₂ : unescape? w₂ = some r.dir)
    (h₃ : unescape? w₃ = some r.fsType) : readLine line = .mount r.mount := by
  simp only [readLine, hline, if_neg hhash, readMount?, h₁, h₂, h₃, Option.bind_eq_bind,
    Option.bind_some]
  rfl

theorem readLine_eq_silent {line : Bytes} (h : fields line = []) : readLine line = .silent := by
  simp only [readLine, h]

theorem readLine_comment {line w : Bytes} {more : List Bytes} (hline : fields line = w :: more)
    (hhash : w.head? = some hash) : readLine line = .silent := by
  simp only [readLine, hline, if_pos hhash]

theorem exists_of_readMount?_eq_some {w₁ w₂ w₃ w₄ : Bytes} {m : Mount}
    (h : readMount? w₁ w₂ w₃ w₄ = some m) :
    ∃ r : Record, unescape? w₁ = some r.fsName ∧ unescape? w₂ = some r.dir ∧
      unescape? w₃ = some r.fsType ∧ w₄ = r.options ∧ m = r.mount := by
  simp only [readMount?, Option.bind_eq_bind, Option.bind_eq_some_iff] at h
  obtain ⟨a, ha, b, hb, c, hc, hm⟩ := h
  exact ⟨⟨a, b, c, w₄⟩, ha, hb, hc, rfl, (Option.some.inj hm).symm⟩

theorem exists_of_readLine_eq_mount {line : Bytes} {m : Mount} (h : readLine line = .mount m) :
    ∃ (w₁ w₂ w₃ : Bytes) (more : List Bytes) (r : Record),
      fields line = w₁ :: w₂ :: w₃ :: r.options :: more ∧ w₁.head? ≠ some hash ∧
      unescape? w₁ = some r.fsName ∧ unescape? w₂ = some r.dir ∧ unescape? w₃ = some r.fsType ∧
      m = r.mount := by
  simp only [readLine] at h
  split at h
  · exact nomatch h
  next w₁ rest hline =>
    by_cases hhash : w₁.head? = some hash
    · rw [if_pos hhash] at h
      exact nomatch h
    rw [if_neg hhash] at h
    split at h
    · next w₂ w₃ w₄ more =>
      split at h
      · next m' hm =>
        obtain ⟨r, h₁, h₂, h₃, rfl, rfl⟩ := exists_of_readMount?_eq_some hm
        exact ⟨w₁, w₂, w₃, more, r, hline, hhash, h₁, h₂, h₃, (LineReading.mount.inj h).symm⟩
      · exact nomatch h
    · exact nomatch h

theorem skipped_eq_nil_of {content : Bytes}
    (h : ∀ line ∈ content.splitOn lineFeed, ∀ cause, readLine line ≠ .unreadable cause) :
    (parse content).skipped = [] := by
  simp only [parse, List.filterMap_eq_nil_iff]
  rintro ⟨line, number⟩ hl
  have hl : line ∈ content.splitOn lineFeed := List.fst_mem_of_mem_zipIdx hl
  cases hr : readLine line with
  | silent => rfl
  | mount m => rfl
  | unreadable cause => exact absurd hr (h line hl cause)

inductive Reads : List Bytes → List Record → Prop
  | nil : Reads [] []
  | silent {line : Bytes} {lines : List Bytes} {rs : List Record}
      (h : readLine line = .silent) (hs : Reads lines rs) : Reads (line :: lines) rs
  | mount {line : Bytes} {lines : List Bytes} {r : Record} {rs : List Record}
      (h : readLine line = .mount r.mount) (hs : Reads lines rs) : Reads (line :: lines) (r :: rs)

namespace Reads
variable {lines : List Bytes} {rs : List Record}

theorem mounts_eq (h : Reads lines rs) :
    (lines.filterMap fun line => (readLine line).mount?) = rs.map Record.mount := by
  induction h with
  | nil => rfl
  | silent h _ ih => rwa [List.filterMap_cons_none (by rw [h]; rfl)]
  | mount h _ ih => rw [List.filterMap_cons_some (by rw [h]; rfl), ih, List.map_cons]

theorem readable (h : Reads lines rs) :
    ∀ line ∈ lines, ∀ cause, readLine line ≠ .unreadable cause := by
  induction h with
  | nil => exact fun l hl => nomatch hl
  | silent h _ ih => exact List.forall_mem_cons.mpr ⟨fun _ => by rw [h]; exact nofun, ih⟩
  | mount h _ ih => exact List.forall_mem_cons.mpr ⟨fun _ => by rw [h]; exact nofun, ih⟩

theorem parse_eq {content : Bytes} (h : Reads (content.splitOn lineFeed) rs) :
    parse content = ⟨rs.map Record.mount, []⟩ := by
  have hs := skipped_eq_nil_of h.readable
  have hm : (parse content).mounts = rs.map Record.mount := h.mounts_eq
  rw [← hm, ← hs]

end Reads
end MemoryProbe.MountTable
