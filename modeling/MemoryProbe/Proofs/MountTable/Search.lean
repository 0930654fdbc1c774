import Mathlib.Data.List.Forall2
import MemoryProbe.Proofs.Files.Spelling
import MemoryProbe.Proofs.MountTable.Selection

/-! The search for a hugetlbfs mount. It ends at the least index of a mount that is wanted, and finds
the same index however the directories of the table and the mount point are spelled. -/

namespace MemoryProbe

structure Mount.Respelled (m m' : Mount) : Prop where
  fsName : m'.fsName = m.fsName
  fsType : m'.fsType = m.fsType
  dir : m.dir.Respelled m'.dir

namespace MountTable
variable {table table' : MountTable} {point point' : Option Path} {m m' : Mount} {i : Nat}

def Wanted (point : Option Path) (m : Mount) : Prop :=
  m.fsType = Mount.hugetlbfs ∧ m.fsName = Mount.hugetlbfs ∧ ∀ p, point = some p → m.dir.Same p

def LeastWanted (mounts : List Mount) (point : Option Path) (i : Nat) : Prop :=
  ∃ m, mounts[i]? = some m ∧ Wanted point m ∧
    ∀ j e, j < i → mounts[j]? = some e → ¬Wanted point e

theorem matches_iff_wanted : Matches point m ↔ Wanted point m := by
  have hsame (p : Path) : m.dir.isAbsolute = p.isAbsolute ∧ m.dir.components = p.components ↔
      m.dir.Same p := Path.sameAs_iff.symm.trans Path.sameAs_iff_same
  simp only [Wanted, ← hsame]
  exact ⟨fun h => ⟨h.fsType, h.fsName, h.dir⟩, fun h => ⟨h.1, h.2.1, h.2.2⟩⟩

theorem selects_iff_wanted : selects point m = true ↔ Wanted point m :=
  selects_iff.trans matches_iff_wanted

theorem findIndex?_eq_some_iff :
    table.findIndex? point = some i ↔ LeastWanted table.mounts point i := by
  rw [findIndex?, List.findIdx?_eq_some_iff_getElem, LeastWanted]
  constructor
  · rintro ⟨hi, hm, hbefore⟩
    refine ⟨table.mounts[i], List.getElem?_eq_getElem hi, selects_iff_wanted.mp hm, ?_⟩
    intro j e hj he hwanted
    obtain ⟨hlt, rfl⟩ := List.getElem?_eq_some_iff.mp he
    exact hbefore j hj (selects_iff_wanted.mpr hwanted)
  · rintro ⟨m, hm, hwanted, hbefore⟩
    obtain ⟨hi, rfl⟩ := List.getElem?_eq_some_iff.mp hm
    refine ⟨hi, selects_iff_wanted.mpr hwanted, fun j hj hselects => ?_⟩
    exact hbefore j _ hj (List.getElem?_eq_getElem _) (selects_iff_wanted.mp hselects)

theorem findIndex?_eq_none_iff :
    table.findIndex? point = none ↔ ∀ m ∈ table.mounts, ¬Wanted point m := by
  rw [findIndex?, List.findIdx?_eq_none_iff]
  exact forall₂_congr fun m _ => by rw [← selects_iff_wanted, Bool.not_eq_true]

theorem find?_eq_bind_findIndex? :
    table.find? point = (table.findIndex? point).bind (table.mounts[·]?) :=
  List.find?_eq_bind_findIdx?_getElem?

theorem selects_congr (hpoint : Option.Rel Path.Respelled point point') (h : m.Respelled m') :
    selects point' m' = selects point m := by
  have hhuge : m'.isHugetlbfs = m.isHugetlbfs := by
    rw [Mount.isHugetlbfs, Mount.isHugetlbfs, h.fsName, h.fsType]
  rw [selects, selects, hhuge]
  cases hpoint with
  | none => rfl
  | some hp => exact congrArg _ (Path.sameAs_congr h.dir.sameAs hp.sameAs)

theorem findIndex?_congr (hpoint : Option.Rel Path.Respelled point point')
    (h : List.Forall₂ Mount.Respelled table.mounts table'.mounts) :
    table'.findIndex? point' = table.findIndex? point := by
  rw [findIndex?, findIndex?]
  generalize table.mounts = mounts, table'.mounts = mounts' at h
  induction h with
  | nil => rfl
  | cons hm _ ih => rw [List.findIdx?_cons, List.findIdx?_cons, selects_congr hpoint hm, ih]

theorem Wanted.anywhere (h : Wanted point m) : Wanted none m := ⟨h.1, h.2.1, nofun⟩

theorem exists_findIndex?_none_le (h : table.findIndex? point = some i) :
    ∃ j ≤ i, table.findIndex? none = some j := by
  obtain ⟨m, hm, hwanted, -⟩ := findIndex?_eq_some_iff.mp h
  cases hj : table.findIndex? none with
  | none =>
    exact absurd hwanted.anywhere (findIndex?_eq_none_iff.mp hj m (List.mem_of_getElem? hm))
  | some j =>
    obtain ⟨-, -, -, hbefore⟩ := findIndex?_eq_some_iff.mp hj
    refine ⟨j, Nat.not_lt.mp fun hlt => ?_, rfl⟩
    exact hbefore i m hlt hm hwanted.anywhere

/-- The search finds the first mount that is wanted. It does not depend on how paths are spelled, and
finds a mount no later when none is asked for in particular. -/
theorem findIndex?_finds_first :
    (∀ p q : Path, (p.sameAs q = true ↔ p.Same q) ∧ (p.Respelled q ↔ p.sameAs q = true)) ∧
      (∀ (table : MountTable) (point : Option Path),
        (∀ i, table.findIndex? point = some i ↔ LeastWanted table.mounts point i) ∧
          (table.findIndex? point = none ↔ ∀ m ∈ table.mounts, ¬Wanted point m) ∧
          table.find? point = (table.findIndex? point).bind (table.mounts[·]?)) ∧
      (∀ (table table' : MountTable) (point point' : Option Path),
        Option.Rel Path.Respelled point point' →
          List.Forall₂ Mount.Respelled table.mounts table'.mounts →
            table'.findIndex? point' = table.findIndex? point) ∧
      ∀ (table : MountTable) (p : Path) (i : Nat), table.findIndex? (some p) = some i →
        ∃ j ≤ i, table.findIndex? none = some j :=
  ⟨fun _ _ => ⟨Path.sameAs_iff_same, Path.respelled_iff⟩,
    fun _ _ => ⟨fun _ => findIndex?_eq_some_iff, findIndex?_eq_none_iff, find?_eq_bind_findIndex?⟩,
    fun _ _ _ _ => findIndex?_congr, fun _ _ _ => exists_findIndex?_none_le⟩

theorem findIndex?_finds_first_leading_dot :
    let mountAt (dir : String) : Mount :=
      ⟨Mount.hugetlbfs, .ofText dir.toList, Mount.hugetlbfs, []⟩
    let table : MountTable := ⟨[mountAt "mnt/huge", mountAt "./mnt/huge"], []⟩
    let table' : MountTable := ⟨[mountAt "mnt//huge", mountAt "./mnt/huge/"], []⟩
    let point := Path.ofText "./mnt/huge".toList
    let point' := Path.ofText "./mnt/./huge".toList
    Path.Respelled point point' ∧ List.Forall₂ Mount.Respelled table.mounts table'.mounts ∧
      table.findIndex? point = some 1 ∧ table'.findIndex? point' = some 1 ∧
      ∃ j ≤ 1, table.findIndex? none = some j := by
  intro mountAt table table' point point'
  have hpoint : Path.Respelled point point' :=
    .rel _ _ (@Path.Respells.stay (Utf8.encode "./mnt".toList) (Utf8.encode "/huge".toList)
      (by decide +kernel) fun b hb => (Option.some.inj hb).symm)
  have hdouble : Path.Respelled (mountAt "mnt/huge").dir (mountAt "mnt//huge").dir :=
    .rel _ _ (.double (Utf8.encode "mnt".toList) (Utf8.encode "huge".toList))
  have hclose : Path.Respelled (mountAt "./mnt/huge").dir (mountAt "./mnt/huge/").dir :=
    .rel _ _ (@Path.Respells.close (Utf8.encode "./mnt/huge".toList) (by decide +kernel))
  have hmounts : List.Forall₂ Mount.Respelled table.mounts table'.mounts :=
    .cons ⟨rfl, rfl, hdouble⟩ (.cons ⟨rfl, rfl, hclose⟩ .nil)
  have hindex : table.findIndex? point = some 1 := by decide +kernel
  refine ⟨hpoint, hmounts, hindex, ?_, findIndex?_finds_first.2.2.2 table point 1 hindex⟩
  rw [findIndex?_finds_first.2.2.1 table table' _ _ (.some hpoint) hmounts, hindex]

end MountTable
end MemoryProbe
