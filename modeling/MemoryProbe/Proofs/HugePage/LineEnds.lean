import MemoryProbe.Proofs.HugePage.OddLines
import MemoryProbe.Proofs.Text.LineEnds

/-! Carriage returns at line ends do not matter. In a mount table they separate fields and in the
statistics they belong to the line ends, so with or without them the same mounts and the same
entries are read, the same errors are made of lines that cannot be read, and a query has the same
answer. -/

namespace MemoryProbe

namespace MountTable

theorem readLine_congr {line line' : Bytes} (h : fields line' = fields line) :
    readLine line' = readLine line := by
  rw [readLine, readLine, h]

theorem readLine_append_return (line : Bytes) :
    readLine (line ++ [Bytes.carriageReturn]) = readLine line := by
  apply readLine_congr
  rw [fields_append_cons line (by decide), fields_nil, List.append_nil]

theorem mounts_parse_line {line : Bytes} (h : lineFeed ∉ line) :
    (parse line).mounts = (readLine line).mount?.toList := by
  rw [mounts_parse, List.splitOn_eq_singleton h, mountsOf]
  cases hm : (readLine line).mount? <;> simp [hm]

theorem mounts_parse_returned (content : Bytes) :
    (parse content.returned).mounts = (parse content).mounts := by
  induction content using separator_induction lineFeed with
  | word line hline =>
    have hword : Bytes.returned line = line := withReturns_of_not_mem hline
    rw [hword]
  | append line rest hline ih =>
    have hreturn : lineFeed ∉ line ++ [Bytes.carriageReturn] := by
      rw [List.mem_append, not_or]
      exact ⟨hline, by decide⟩
    have hreturned : Bytes.returned (line ++ lineFeed :: rest) =
        (line ++ [Bytes.carriageReturn]) ++ lineFeed :: Bytes.returned rest :=
      withReturns_append_cons hline rest
    rw [hreturned, mounts_parse_append, mounts_parse_append, ih, mounts_parse_line hreturn,
      mounts_parse_line hline, readLine_append_return]

end MountTable

namespace Meminfo

theorem parse_returned {t : Text} (h : '\r' ∉ t) : parse t.returned = parse t := by
  rw [parse, Text.lines_returned h, parse]

end Meminfo

namespace HugePage
open MountTable (lineFeed)
variable {files files' : Files} {c : Config} {path : Path}

def Reended (r r' : Except FileError Bytes) : Prop :=
  r' = r ∨ ∃ content, Bytes.carriageReturn ∉ content ∧ r = .ok content ∧ r' = .ok content.returned

theorem Reended.mounts_load (h : Reended (files path) (files' path)) :
    (MountTable.load files' path).map MountTable.mounts =
      (MountTable.load files path).map MountTable.mounts := by
  rcases h with h | ⟨content, -, hfile, hfile'⟩
  · rw [MountTable.load, MountTable.load, h]
  · rw [MountTable.load, MountTable.load, hfile, hfile']
    exact congrArg Except.ok (MountTable.mounts_parse_returned content)

theorem Reended.load_meminfo (h : Reended (files path) (files' path)) :
    Meminfo.load files' path = Meminfo.load files path := by
  rcases h with h | ⟨content, hreturn, hfile, hfile'⟩
  · rw [Meminfo.load, Meminfo.load, h]
  · rw [Meminfo.load, Meminfo.load, hfile, hfile']
    dsimp only
    rw [Utf8.decode?_returned]
    cases hd : Utf8.decode? content with
    | none => rfl
    | some t =>
      rw [Option.map_some]
      dsimp only
      rw [Meminfo.parse_returned (Utf8.not_return_of_decode? hreturn hd)]

theorem value_mountPhase (files : Files) (c : Config) : (mountPhase files c).value =
    match (MountTable.load files c.mountTable).map MountTable.mounts with
    | .error cause =>
      if cause.isNotFound then .error (.unsupported .mountTableMissing)
      else .error (.failed (.mountTable cause))
    | .ok mounts =>
      match mounts.find? (MountTable.selects c.mountPoint) with
      | none => .error (.unsupported .noHugetlbfsMount)
      | some m => .ok (pinnedBy m).value := by
  rw [mountPhase, Logged.value_bind]
  cases MountTable.load files c.mountTable with
  | error cause =>
    dsimp only [Except.map]
    split <;> rfl
  | ok table =>
    dsimp only [Except.map]
    rw [Logged.value_bind]
    cases hfind : table.mounts.find? (MountTable.selects c.mountPoint) with
    | none => simp only [MountTable.find?, hfind, Logged.value_pure]
    | some m => simp only [MountTable.find?, hfind, Logged.value_bind, Logged.value_pure]

theorem value_amount_congr (hmount : (mountPhase files' c).value = (mountPhase files c).value)
    (hinfo : (meminfoPhase files' c).value = (meminfoPhase files c).value) :
    (amount files' c).value = (amount files c).value := by
  cases hon : c.requireMount with
  | false => rw [value_amount_of_fallsBack (.off hon), value_amount_of_fallsBack (.off hon), hinfo]
  | true => rw [value_amount_of_required hon, value_amount_of_required hon, hmount, hinfo]

theorem value_query_of_reended (system : SystemAnswer)
    (htable : Reended (files c.mountTable) (files' c.mountTable))
    (hinfo : Reended (files c.meminfo) (files' c.meminfo)) :
    (query system files' c).value = (query system files c).value := by
  apply value_query_congr
  apply value_amount_congr
  · rw [value_mountPhase, value_mountPhase, htable.mounts_load]
  · rw [meminfoPhase, meminfoPhase, hinfo.load_meminfo]

/-- Returns at the line ends of either file change neither what is read from it nor the answer. -/
theorem line_ends_harmless :
    (∀ content : Bytes,
      (MountTable.parse content.returned).mounts = (MountTable.parse content).mounts) ∧
      (∀ t : Text, '\r' ∉ t → Meminfo.parse t.returned = Meminfo.parse t) ∧
      ∀ (system : SystemAnswer) (files files' : Files) (c : Config),
        Reended (files c.mountTable) (files' c.mountTable) →
        Reended (files c.meminfo) (files' c.meminfo) →
          (MountTable.load files' c.mountTable).map MountTable.mounts =
              (MountTable.load files c.mountTable).map MountTable.mounts ∧
            Meminfo.load files' c.meminfo = Meminfo.load files c.meminfo ∧
            (query system files' c).value = (query system files c).value := by
  refine ⟨MountTable.mounts_parse_returned, fun t => Meminfo.parse_returned, ?_⟩
  intro system files files' c htable hinfo
  exact ⟨htable.mounts_load, hinfo.load_meminfo, value_query_of_reended system htable hinfo⟩

theorem line_ends_harmless_colonless :
    let mounts := "#\nproc\nhugetlbfs /mnt/h\\\n\nhugetlbfs /mnt/huge hugetlbfs rw\n".toList
    let statistics : Text := "MemTotal: 1 kB\n\nHugepagesize 2 MB\n".toList
    let table := Utf8.encode mounts
    let info := Utf8.encode statistics
    let files (table info : Bytes) : Files := fun p =>
      if p = MountTable.defaultPath then .ok table
      else if p = Meminfo.defaultPath then .ok info else .error .notFound
    let answer := (query .reference (files table.returned info.returned) .default).value
    Meminfo.parse statistics.returned = .error (.missingColon "Hugepagesize 2 MB".toList) ∧
      answer = .error (.meminfo (.malformed (.missingColon "Hugepagesize 2 MB".toList))) := by
  intro mounts statistics table info files answer
  have htable : Reended (files table info Config.default.mountTable)
      (files table.returned info.returned Config.default.mountTable) :=
    .inr ⟨table, by decide +kernel, rfl, rfl⟩
  have hinfo : Reended (files table info Config.default.meminfo)
      (files table.returned info.returned Config.default.meminfo) :=
    .inr ⟨info, by decide +kernel, rfl, rfl⟩
  have hparse := line_ends_harmless.2.1 statistics (by decide +kernel)
  have hquery := line_ends_harmless.2.2 .reference (files table info)
    (files table.returned info.returned) .default htable hinfo
  refine ⟨hparse.trans (by decide +kernel), ?_⟩
  rw [show answer = _ from hquery.2.2]
  decide +kernel

end HugePage
end MemoryProbe
