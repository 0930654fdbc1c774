import MemoryProbe.Proofs.HugePage.Phases
import MemoryProbe.Proofs.MountTable.Lines

/-! Odd lines of a mount table are harmless: they neither hide a mount from the query nor damage the
lines around them, and the log has each of them once. -/

namespace MemoryProbe.HugePage
open MountTable

variable {files files' : Files} {c : Config}

theorem value_mountPhase_of_ok {content : Bytes} (hfile : files c.mountTable = .ok content) :
    (mountPhase files c).value = match (parse content).find? c.mountPoint with
      | none => .error (.unsupported .noHugetlbfsMount)
      | some m => .ok (pinnedBy m).value := by
  cases hfind : (parse content).find? c.mountPoint with
  | none => exact value_mountPhase_of_none hfile (find?_eq_none_iff.mp hfind)
  | some m => exact value_mountPhase_of_chosen ⟨content, hfile, find?_eq_some_iff.mp hfind⟩

theorem value_query_congr_of_find? (system : SystemAnswer) {content content' : Bytes}
    (hfile : files c.mountTable = .ok content) (hfile' : files' c.mountTable = .ok content')
    (hinfo : files' c.meminfo = files c.meminfo)
    (hfind : (parse content').find? c.mountPoint = (parse content).find? c.mountPoint) :
    (query system files' c).value = (query system files c).value := by
  cases hon : c.requireMount with
  | false => exact ignoresMountTable system hon files' c.mountTable c.mountPoint hinfo
  | true =>
    apply value_query_congr
    rw [value_amount_of_required hon, value_amount_of_required hon, value_mountPhase_of_ok hfile,
      value_mountPhase_of_ok hfile', hfind, value_meminfoPhase_congr rfl hinfo]

/-- Tables add up line by line, every line that has to hold a mount is either read or complained
about, and a line that is no wanted mount changes nothing wherever it is put in. -/
theorem odd_lines_harmless :
    (∀ a b : Bytes,
      (parse (a ++ lineFeed :: b)).mounts = (parse a).mounts ++ (parse b).mounts ∧
        (parse (a ++ lineFeed :: b)).skipped =
          (parse a).skipped ++ (parse b).skipped.map (·.shift (a.splitOn lineFeed).length)) ∧
      (∀ content : Bytes,
        (parse content).mounts.length + (parse content).skipped.length =
            (content.splitOn lineFeed).countP speaks ∧
          ((parse content).skipped.Pairwise fun s s' => s.number < s'.number) ∧
          ∀ s, s ∈ (parse content).skipped ↔ 1 ≤ s.number ∧
            (content.splitOn lineFeed)[s.number - 1]? = some s.line ∧
              readLine s.line = .unreadable s.cause) ∧
      ∀ (line content : Bytes) (k : Nat) (point : Option Path),
        (∀ m ∈ (parse line).mounts, ¬Matches point m) →
          (parse (insertLine line k content)).find? point = (parse content).find? point ∧
            ∀ (system : SystemAnswer) (files files' : Files) (c : Config), c.mountPoint = point →
              files c.mountTable = .ok content →
              files' c.mountTable = .ok (insertLine line k content) →
              files' c.meminfo = files c.meminfo →
              (query system files' c).value = (query system files c).value := by
  refine ⟨fun a b => ⟨mounts_parse_append a b, skipped_parse_append a b⟩, fun content => ?_, ?_⟩
  · exact ⟨length_mountsOf_add_length_skippedFrom 1 _, pairwise_skippedFrom 1 _,
      fun s => mem_skippedFrom_iff⟩
  · intro line content k point hline
    have hfind := find?_insertLine hline k content
    refine ⟨hfind, ?_⟩
    rintro system files files' c rfl hfile hfile' hinfo
    exact value_query_congr_of_find? system hfile hfile' hinfo hfind

theorem odd_lines_harmless_bad_escape :
    let line := Utf8.encode "hugetlbfs /mnt/huge\\04 hugetlbfs rw,pagesize=1G".toList
    let content := Utf8.encode "proc\nhugetlbfs /mnt/huge hugetlbfs rw 0 0".toList
    let point := some Config.defaultMountPoint
    (∀ m ∈ (parse line).mounts, ¬Matches point m) ∧
      (parse (insertLine line 1 content)).find? point = (parse content).find? point ∧
      ((parse content).find? point).map Mount.options = some ["rw".toList] := by
  intro line content point
  have hline : (parse line).mounts = [] := by decide +kernel
  have hnone : ∀ m ∈ (parse line).mounts, ¬Matches point m := by
    rw [hline]
    exact nofun
  exact ⟨hnone, (odd_lines_harmless.2.2 line content 1 point hnone).1, by decide +kernel⟩

end MemoryProbe.HugePage
