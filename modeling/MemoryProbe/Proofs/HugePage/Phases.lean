import Mathlib.Logic.ExistsUnique
import MemoryProbe.Host.Basic
import MemoryProbe.Proofs.HugePage.Sources

/-! Which files a query depends on, as a comparison of two runs. Where no mount is required, only
the statistics count. A mount that is pinned to an amount, or the lack of a mount, settles the answer
before the statistics are read. A mount that is pinned to none leaves the answer to the statistics,
as if no mount were required. Every query goes exactly one of these four ways. -/

namespace MemoryProbe.HugePage
variable {files files' : Files} {c c' : Config} {m : Mount} {system : SystemAnswer}

inductive Way
  | unchecked
  | pinned
  | unpinned
  | unmounted
deriving DecidableEq, Repr

/-- The way of a query, said of the mount table and the configuration alone. -/
inductive Goes (files : Files) (c : Config) : Way → Prop
  | unchecked (hoff : c.requireMount = false) : Goes files c .unchecked
  | pinned {m : Mount} {a : Amount} (hon : c.requireMount = true) (hm : MountChosen files c m)
    (hpin : m.Pins a) : Goes files c .pinned
  | unpinned {m : Mount} (hon : c.requireMount = true) (hm : MountChosen files c m)
    (hpin : ∀ a, ¬m.Pins a) : Goes files c .unpinned
  | unreadable {cause : FileError} (hon : c.requireMount = true)
    (hfile : files c.mountTable = .error cause) : Goes files c .unmounted
  | unmatched {content : Bytes} (hon : c.requireMount = true)
    (hfile : files c.mountTable = .ok content)
    (hnone : ∀ m ∈ (MountTable.parse content).mounts, ¬MountTable.Matches c.mountPoint m) :
    Goes files c .unmounted

def Way.Outcome (files : Files) (c : Config) : Way → Prop
  | unchecked => c.requireMount = false
  | pinned => c.requireMount = true ∧ ∃ a, (mountPhase files c).value = .ok (some a)
  | unpinned => c.requireMount = true ∧ (mountPhase files c).value = .ok none
  | unmounted => c.requireMount = true ∧ ∃ e, (mountPhase files c).value = .error e

theorem Goes.outcome {w : Way} (h : Goes files c w) : w.Outcome files c := by
  cases h with
  | unchecked hoff => exact hoff
  | @pinned m a hon hm hpin =>
    refine ⟨hon, a, ?_⟩
    rw [value_mountPhase_of_chosen hm, value_pinnedBy_of_pins hpin]
  | unpinned hon hm hpin =>
    refine ⟨hon, ?_⟩
    rw [value_mountPhase_of_chosen hm, value_pinnedBy_of_not_pins hpin]
  | unreadable hon hfile => exact ⟨hon, _, value_mountPhase_of_error hfile⟩
  | unmatched hon hfile hnone => exact ⟨hon, _, value_mountPhase_of_none hfile hnone⟩

def Way.ofPhase (required : Bool) (phase : Except NoAmount (Option Amount)) : Way :=
  if required then
    match phase with
    | .error _ => unmounted
    | .ok (some _) => pinned
    | .ok none => unpinned
  else unchecked

theorem Way.Outcome.eq_ofPhase {w : Way} (h : w.Outcome files c) :
    w = Way.ofPhase c.requireMount (mountPhase files c).value := by
  cases w with
  | unchecked => rw [show c.requireMount = false from h]; rfl
  | pinned =>
    obtain ⟨hon, a, ha⟩ := h
    rw [hon, ha]
    rfl
  | unpinned =>
    rw [h.1, h.2]
    rfl
  | unmounted =>
    obtain ⟨hon, e, he⟩ := h
    rw [hon, he]
    rfl

theorem exists_goes (files : Files) (c : Config) : ∃ w, Goes files c w := by
  cases hon : c.requireMount with
  | false => exact ⟨_, .unchecked hon⟩
  | true =>
    cases hfile : files c.mountTable with
    | error cause => exact ⟨_, .unreadable hon hfile⟩
    | ok content =>
      cases hfind : (MountTable.parse content).find? c.mountPoint with
      | none => exact ⟨_, .unmatched hon hfile (MountTable.find?_eq_none_iff.mp hfind)⟩
      | some m =>
        have hm : MountChosen files c m := ⟨content, hfile, MountTable.find?_eq_some_iff.mp hfind⟩
        by_cases hpin : ∃ a, m.Pins a
        · obtain ⟨a, ha⟩ := hpin
          exact ⟨_, .pinned hon hm ha⟩
        · exact ⟨_, .unpinned hon hm (not_exists.mp hpin)⟩

theorem existsUnique_goes (files : Files) (c : Config) : ∃! w, Goes files c w := by
  obtain ⟨w, hw⟩ := exists_goes files c
  exact ⟨w, hw, fun w' hw' => hw'.outcome.eq_ofPhase.trans hw.outcome.eq_ofPhase.symm⟩

/-! What each phase reads. -/

theorem value_query_congr (h : (amount files' c').value = (amount files c).value) :
    (query system files' c').value = (query system files c).value := by
  rw [value_query, value_query, h]

theorem value_mountPhase_congr (htable : c'.mountTable = c.mountTable)
    (hpoint : c'.mountPoint = c.mountPoint)
    (hfile : files' c.mountTable = files c.mountTable) :
    (mountPhase files' c').value = (mountPhase files c).value := by
  have hload : MountTable.load files' c'.mountTable = MountTable.load files c.mountTable := by
    rw [htable, MountTable.load, MountTable.load, hfile]
  rw [mountPhase, mountPhase, hload, hpoint]
  rfl

theorem value_meminfoPhase_congr (hpath : c'.meminfo = c.meminfo)
    (hfile : files' c.meminfo = files c.meminfo) :
    (meminfoPhase files' c').value = (meminfoPhase files c).value := by
  have hload : Meminfo.load files' c'.meminfo = Meminfo.load files c.meminfo := by
    rw [hpath, Meminfo.load, Meminfo.load, hfile]
  rw [meminfoPhase, meminfoPhase, hload]
  rfl

theorem value_amount_of_required (hon : c.requireMount = true) :
    (amount files c).value = match (mountPhase files c).value with
      | .error e => .error e
      | .ok (some a) => .ok a
      | .ok none => (meminfoPhase files c).value := by
  rw [amount, if_pos hon, Logged.value_bind]
  cases (mountPhase files c).value with
  | error e => rfl
  | ok pin => cases pin <;> rfl

def IgnoresMountTable (system : SystemAnswer) (files : Files) (c : Config) : Prop :=
  ∀ (files' : Files) (table : Path) (point : Option Path), files' c.meminfo = files c.meminfo →
    (query system files' { c with mountTable := table, mountPoint := point }).value =
      (query system files c).value

def IgnoresMeminfo (system : SystemAnswer) (files : Files) (c : Config) : Prop :=
  ∀ (files' : Files) (info : Path), files' c.mountTable = files c.mountTable →
    (query system files' { c with meminfo := info }).value = (query system files c).value

theorem ignoresMountTable (system : SystemAnswer) (hoff : c.requireMount = false) :
    IgnoresMountTable system files c := by
  intro files' table point hfile
  let c' : Config := { c with mountTable := table, mountPoint := point }
  have hoff' : c'.requireMount = false := hoff
  apply value_query_congr
  rw [value_amount_of_fallsBack (.off hoff), value_amount_of_fallsBack (.off hoff')]
  exact value_meminfoPhase_congr rfl hfile

theorem ignoresMeminfo (system : SystemAnswer) (hon : c.requireMount = true)
    (hsettled : (mountPhase files c).value ≠ .ok none) : IgnoresMeminfo system files c := by
  intro files' info hfile
  let c' : Config := { c with meminfo := info }
  have hon' : c'.requireMount = true := hon
  have hphase : (mountPhase files' c').value = (mountPhase files c).value :=
    value_mountPhase_congr rfl rfl hfile
  apply value_query_congr
  rw [value_amount_of_required hon, value_amount_of_required hon', hphase]
  cases hv : (mountPhase files c).value with
  | error e => rfl
  | ok pin =>
    cases pin with
    | some a => rfl
    | none => exact absurd hv hsettled

theorem value_query_of_unpinned (system : SystemAnswer) (hon : c.requireMount = true)
    (hphase : (mountPhase files c).value = .ok none) :
    (query system files c).value = (query system files { c with requireMount := false }).value := by
  let c' : Config := { c with requireMount := false }
  have hoff : c'.requireMount = false := rfl
  apply value_query_congr
  rw [value_amount_of_required hon, hphase, value_amount_of_fallsBack (.off hoff)]
  exact value_meminfoPhase_congr rfl rfl

/-- A query goes exactly one way, and its answer depends on no more than that way says. -/
theorem query_depends (system : SystemAnswer) (files : Files) (c : Config) :
    (∃! w, Goes files c w) ∧
      (Goes files c .unchecked → IgnoresMountTable system files c) ∧
      (Goes files c .pinned → IgnoresMeminfo system files c) ∧
      (Goes files c .unpinned →
        (query system files c).value = (query system files { c with requireMount := false }).value) ∧
      (Goes files c .unmounted → IgnoresMeminfo system files c) := by
  refine ⟨existsUnique_goes files c, fun h => ignoresMountTable system h.outcome, fun h => ?_,
    fun h => value_query_of_unpinned system h.outcome.1 h.outcome.2, fun h => ?_⟩
  · obtain ⟨hon, a, ha⟩ := h.outcome
    exact ignoresMeminfo system hon (by rw [ha]; exact nofun)
  · obtain ⟨hon, e, he⟩ := h.outcome
    exact ignoresMeminfo system hon (by rw [he]; exact nofun)

theorem query_depends_pinned_mount :
    let table : Text := "hugetlbfs /dev/huge hugetlbfs rw 0 0\n".toList ++
      "hugetlbfs /mnt//huge/ hugetlbfs pagesize,pagesize=1G,pagesize=x 0 0\n".toList
    let files : Files := fun p =>
      if p = MountTable.defaultPath then .ok (Utf8.encode table) else .error .notFound
    Goes files .default .pinned ∧ IgnoresMeminfo .reference files .default := by
  intro table files
  let options : List Text := ["pagesize", "pagesize=1G", "pagesize=x"].map String.toList
  let m : Mount := ⟨Mount.hugetlbfs, .ofText "/mnt//huge/".toList, Mount.hugetlbfs, options⟩
  have hfind : (MountTable.parse (Utf8.encode table)).find? Config.default.mountPoint = some m := by
    decide +kernel
  have hpin : m.pageSize? = some (.ok ⟨1, .gigabytes⟩) := rfl
  have hm : MountChosen files .default m :=
    ⟨Utf8.encode table, if_pos rfl, MountTable.find?_eq_some_iff.mp hfind⟩
  have hgoes : Goes files .default .pinned :=
    .pinned rfl hm (Mount.pageSize?_eq_some_ok_iff.mp hpin)
  exact ⟨hgoes, (query_depends .reference files .default).2.2.1 hgoes⟩

end MemoryProbe.HugePage
