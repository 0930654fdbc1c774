import MemoryProbe.MountTable.Basic

/-! Which mount a table is asked for, and which page size it is pinned to, said without the search:
the first mount that matches, and the first option that is written with the key. -/

namespace MemoryProbe
namespace Mount

def FirstOption (m : Mount) (key value : Text) : Prop :=
  ∃ before after, m.options = before ++ (key ++ '=' :: value) :: after ∧
    ∀ o ∈ before, ¬key ++ ['='] <+: o

def Pins (m : Mount) (a : Amount) : Prop :=
  ∃ value, m.FirstOption pageSizeKey value ∧ Amount.parse value = .ok a

theorem valueOf?_eq_some_iff {key option value : Text} (hkey : '=' ∉ key) :
    valueOf? key option = some value ↔ option = key ++ '=' :: value := by
  unfold valueOf?
  constructor
  · intro h
    split at h
    · next k v hc =>
      rw [Option.ite_none_right_eq_some] at h
      rw [(cut_eq_some_iff.mp hc).2, h.1, Option.some.inj h.2]
    · exact nomatch h
  · rintro rfl
    simp only [cut_append_cons hkey, if_true]

theorem valueOf?_eq_none_iff {key option : Text} (hkey : '=' ∉ key) :
    valueOf? key option = none ↔ ¬key ++ ['='] <+: option := by
  have hstart : key ++ ['='] <+: option ↔ ∃ value, option = key ++ '=' :: value := by
    constructor
    · rintro ⟨value, rfl⟩
      exact ⟨value, by rw [List.append_assoc, List.singleton_append]⟩
    · rintro ⟨value, rfl⟩
      exact ⟨value, by rw [List.append_assoc, List.singleton_append]⟩
  rw [hstart, not_exists, Option.eq_none_iff_forall_ne_some]
  exact forall_congr' fun value => not_congr (valueOf?_eq_some_iff hkey)

theorem option?_eq_some_iff {m : Mount} {key value : Text} (hkey : '=' ∉ key) :
    m.option? key = some value ↔ m.FirstOption key value := by
  rw [option?, List.findSome?_eq_some_iff]
  constructor
  · rintro ⟨before, o, after, hm, ho, hb⟩
    rw [valueOf?_eq_some_iff hkey] at ho
    exact ⟨before, after, ho ▸ hm, fun x hx => (valueOf?_eq_none_iff hkey).mp (hb x hx)⟩
  · rintro ⟨before, after, hm, hb⟩
    exact ⟨before, _, after, hm, (valueOf?_eq_some_iff hkey).mpr rfl,
      fun x hx => (valueOf?_eq_none_iff hkey).mpr (hb x hx)⟩

theorem pageSize?_eq_some_iff {m : Mount} {r : Except Amount.ParseError Amount} :
    m.pageSize? = some r ↔ ∃ value, m.FirstOption pageSizeKey value ∧ Amount.parse value = r := by
  have hkey : '=' ∉ pageSizeKey := by decide
  rw [pageSize?, Option.map_eq_some_iff]
  exact exists_congr fun value => and_congr_left fun _ => option?_eq_some_iff hkey

theorem pageSize?_eq_some_ok_iff {m : Mount} {a : Amount} :
    m.pageSize? = some (.ok a) ↔ m.Pins a := pageSize?_eq_some_iff

end Mount

namespace MountTable

structure Matches (point : Option Path) (m : Mount) : Prop where
  fsType : m.fsType = Mount.hugetlbfs
  fsName : m.fsName = Mount.hugetlbfs
  dir : ∀ p, point = some p → m.dir.isAbsolute = p.isAbsolute ∧ m.dir.components = p.components

def FirstMatch (table : MountTable) (point : Option Path) (m : Mount) : Prop :=
  ∃ before after, table.mounts = before ++ m :: after ∧ Matches point m ∧
    ∀ e ∈ before, ¬Matches point e

theorem selects_iff {point : Option Path} {m : Mount} :
    selects point m = true ↔ Matches point m := by
  have hpoint : point.all m.dir.sameAs = true ↔
      ∀ p, point = some p → m.dir.isAbsolute = p.isAbsolute ∧ m.dir.components = p.components := by
    cases point with
    | none => simp
    | some p => simp [Path.sameAs_iff]
  rw [selects, Bool.and_eq_true, Mount.isHugetlbfs, Bool.and_eq_true, beq_iff_eq, beq_iff_eq,
    hpoint]
  exact ⟨fun h => ⟨h.1.1, h.1.2, h.2⟩, fun h => ⟨⟨h.fsType, h.fsName⟩, h.dir⟩⟩

theorem find?_eq_some_iff {table : MountTable} {point : Option Path} {m : Mount} :
    table.find? point = some m ↔ table.FirstMatch point m := by
  rw [find?, List.find?_eq_some_iff_append, selects_iff]
  constructor
  · rintro ⟨hm, before, after, ht, hb⟩
    refine ⟨before, after, ht, hm, fun e he hmatch => ?_⟩
    have h := hb e he
    rw [selects_iff.mpr hmatch] at h
    exact nomatch h
  · rintro ⟨before, after, ht, hm, hb⟩
    refine ⟨hm, before, after, ht, fun e he => ?_⟩
    rw [Bool.not_eq_true', ← Bool.not_eq_true, selects_iff]
    exact hb e he

theorem find?_eq_none_iff {table : MountTable} {point : Option Path} :
    table.find? point = none ↔ ∀ m ∈ table.mounts, ¬Matches point m := by
  rw [find?, List.find?_eq_none]
  exact forall₂_congr fun m _ => not_congr selects_iff

end MountTable
end MemoryProbe
