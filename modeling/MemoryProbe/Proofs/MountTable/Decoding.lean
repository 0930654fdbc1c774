import MemoryProbe.Proofs.MountTable.Record
import MemoryProbe.Proofs.MountTable.Selection
import MemoryProbe.Proofs.Text.Lossy

/-! What lossy decoding does to a mount. Bytes that are no text come out as replacement characters,
so no field becomes `hugetlbfs` that was not, and no separator is lost. The options and their values
are those that the bytes have, decoded one by one. -/

namespace MemoryProbe.MountTable

def comma : UInt8 := 0x2c
def equals : UInt8 := 0x3d

def hugetlbfsBytes : Bytes := [0x68, 0x75, 0x67, 0x65, 0x74, 0x6c, 0x62, 0x66, 0x73]

theorem encode_hugetlbfs : Utf8.encode Mount.hugetlbfs = hugetlbfsBytes := by decide

def Assigns (key value piece : Bytes) : Prop := equals ∉ key ∧ piece = key ++ equals :: value

/-- The first of the pieces that assigns anything to the key assigns this value. -/
def FirstAssigned (pieces : List Bytes) (key value : Bytes) : Prop :=
  ∃ before piece after, pieces = before ++ piece :: after ∧ Assigns key value piece ∧
    ∀ p ∈ before, ∀ v, ¬Assigns key v p

theorem cut_equals_eq_some_iff {key value piece : Bytes} :
    cut equals piece = some (key, value) ↔ Assigns key value piece := cut_eq_some_iff

theorem valueOf?_lossy_eq_some_iff {key value : Text} (hkey : Utf8.replacement ∉ key)
    {piece : Bytes} : Mount.valueOf? key (Utf8.lossy piece) = some value ↔
      ∃ v, Assigns (Utf8.encode key) v piece ∧ Utf8.lossy v = value := by
  have hcut : cut '=' (Utf8.lossy piece) =
      (cut equals piece).map (Prod.map Utf8.lossy Utf8.lossy) :=
    Utf8.cut_lossy (b := equals) (by decide) piece
  simp only [Mount.valueOf?, hcut, ← cut_equals_eq_some_iff]
  cases hc : cut equals piece with
  | none => exact ⟨nofun, fun ⟨v, hv, _⟩ => nomatch hv⟩
  | some p =>
    obtain ⟨k, v⟩ := p
    -- a key without replacement characters is decoded from its own bytes alone
    have hk : Utf8.lossy k = key ↔ k = Utf8.encode key := Utf8.lossy_eq_iff hkey
    simp only [Option.map_some, Prod.map, Option.ite_none_right_eq_some, hk, Option.some.injEq,
      Prod.mk.injEq]
    constructor
    · rintro ⟨rfl, rfl⟩
      exact ⟨v, ⟨rfl, rfl⟩, rfl⟩
    · rintro ⟨v', ⟨rfl, rfl⟩, rfl⟩
      exact ⟨rfl, rfl⟩

theorem valueOf?_lossy_eq_none_iff {key : Text} (hkey : Utf8.replacement ∉ key) {piece : Bytes} :
    Mount.valueOf? key (Utf8.lossy piece) = none ↔ ∀ v, ¬Assigns (Utf8.encode key) v piece := by
  rw [Option.eq_none_iff_forall_ne_some]
  constructor
  · intro h v hv
    exact h _ ((valueOf?_lossy_eq_some_iff hkey).mpr ⟨v, hv, rfl⟩)
  · intro h value hvalue
    obtain ⟨v, hv, -⟩ := (valueOf?_lossy_eq_some_iff hkey).mp hvalue
    exact h v hv

section
variable {m : Mount} {pieces : List Bytes} {key : Text}

theorem option?_eq_findSome?_pieces (hm : m.options = pieces.map Utf8.lossy) (key : Text) :
    m.option? key = pieces.findSome? fun piece => Mount.valueOf? key (Utf8.lossy piece) := by
  rw [Mount.option?, hm, List.findSome?_map]
  rfl

theorem option?_lossy_eq_some_iff (hm : m.options = pieces.map Utf8.lossy)
    (hkey : Utf8.replacement ∉ key) {value : Text} : m.option? key = some value ↔
      ∃ v, FirstAssigned pieces (Utf8.encode key) v ∧ Utf8.lossy v = value := by
  rw [option?_eq_findSome?_pieces hm, List.findSome?_eq_some_iff]
  constructor
  · rintro ⟨before, piece, after, hsplit, hpiece, hbefore⟩
    obtain ⟨v, hv, hvalue⟩ := (valueOf?_lossy_eq_some_iff hkey).mp hpiece
    exact ⟨v, ⟨before, piece, after, hsplit, hv, fun p hp =>
      (valueOf?_lossy_eq_none_iff hkey).mp (hbefore p hp)⟩, hvalue⟩
  · rintro ⟨v, ⟨before, piece, after, hsplit, hv, hbefore⟩, hvalue⟩
    exact ⟨before, piece, after, hsplit, (valueOf?_lossy_eq_some_iff hkey).mpr ⟨v, hv, hvalue⟩,
      fun p hp => (valueOf?_lossy_eq_none_iff hkey).mpr (hbefore p hp)⟩

theorem option?_lossy_eq_none_iff (hm : m.options = pieces.map Utf8.lossy)
    (hkey : Utf8.replacement ∉ key) : m.option? key = none ↔
      ∀ piece ∈ pieces, ∀ v, ¬Assigns (Utf8.encode key) v piece := by
  rw [option?_eq_findSome?_pieces hm, List.findSome?_eq_none_iff]
  exact forall₂_congr fun piece _ => valueOf?_lossy_eq_none_iff hkey

end

theorem Record.isHugetlbfs_mount_iff_bytes (r : Record) :
    r.mount.isHugetlbfs = true ↔ r.fsName = hugetlbfsBytes ∧ r.fsType = hugetlbfsBytes := by
  rw [isHugetlbfs_mount_iff, encode_hugetlbfs, and_comm]

theorem Record.options_mount (r : Record) :
    r.mount.options = (r.options.splitOn comma).map Utf8.lossy :=
  Utf8.splitOn_lossy (b := comma) (by decide) r.options

/-- A line that is read as a mount shows what its bytes say: the mount is a hugetlbfs mount exactly
if two fields are the bytes of that name, the options are the pieces between the commas, and a key
without replacement characters has the value that its bytes have. -/
theorem readLine_decodes {line : Bytes} {m : Mount} (h : readLine line = .mount m) :
    ∃ fsName dir fsType options more, fields line = fsName :: dir :: fsType :: options :: more ∧
      (m.isHugetlbfs = true ↔
        unescape? fsName = some hugetlbfsBytes ∧ unescape? fsType = some hugetlbfsBytes) ∧
      m.options = (options.splitOn comma).map Utf8.lossy ∧
      m.options = (Utf8.lossy options).splitOn ',' ∧
      ∀ key, Utf8.replacement ∉ key →
        (∀ value, m.option? key = some value ↔
          ∃ v, FirstAssigned (options.splitOn comma) (Utf8.encode key) v ∧ Utf8.lossy v = value) ∧
        (m.option? key = none ↔
          ∀ piece ∈ options.splitOn comma, ∀ v, ¬Assigns (Utf8.encode key) v piece) := by
  obtain ⟨w₁, w₂, w₃, more, r, hline, -, h₁, -, h₃, rfl⟩ := exists_of_readLine_eq_mount h
  refine ⟨w₁, w₂, w₃, r.options, more, hline, ?_, r.options_mount, rfl, fun key hkey => ?_⟩
  · rw [r.isHugetlbfs_mount_iff_bytes, h₁, h₃, Option.some.injEq, Option.some.injEq]
  · exact ⟨fun value => option?_lossy_eq_some_iff r.options_mount hkey,
      option?_lossy_eq_none_iff r.options_mount hkey⟩

theorem readLine_decodes_broken_characters :
    let name := Utf8.encode "hugetlbfs".toList
    let key := Utf8.encode "pagesize".toList
    let broken := key ++ 0xc3 :: Utf8.encode "=1G".toList
    let given := key ++ equals :: [0x32, 0xe2, 0x82]
    let line := name ++ 0x20 :: (Utf8.encode "/mnt/huge hugetlb\\146s ".toList ++
      (broken ++ comma :: (given ++ comma :: Utf8.encode "rw".toList)))
    ∃ m, readLine line = .mount m ∧ m.isHugetlbfs = true ∧
      m.option? Mount.pageSizeKey = some ['2', Utf8.replacement] := by
  intro name key broken given line
  let m : Mount := {
    fsName := Mount.hugetlbfs
    dir := .ofText "/mnt/huge".toList
    fsType := Mount.hugetlbfs
    options := ["pagesize\ufffd=1G".toList, "pagesize=2\ufffd".toList, "rw".toList] }
  have hread : readLine line = .mount m := by decide +kernel
  obtain ⟨fsName, dir, fsType, options, more, hline, hhuge, -, -, hoption⟩ :=
    readLine_decodes hread
  have hfields : fields line = [name, Utf8.encode "/mnt/huge".toList,
      Utf8.encode "hugetlb\\146s".toList,
      broken ++ comma :: (given ++ comma :: Utf8.encode "rw".toList)] := by decide +kernel
  rw [hline] at hfields
  simp only [List.cons.injEq] at hfields
  obtain ⟨rfl, -, rfl, rfl, -⟩ := hfields
  have hbroken : ∀ v, ¬Assigns key v broken := by
    intro v hv
    have hcut : cut equals broken = some (key ++ [0xc3], Utf8.encode "1G".toList) := by
      decide +kernel
    rw [← cut_equals_eq_some_iff, hcut, Option.some.injEq, Prod.mk.injEq] at hv
    exact absurd hv.1 (by decide +kernel)
  refine ⟨m, hread, hhuge.mpr (by decide +kernel), ?_⟩
  refine ((hoption Mount.pageSizeKey (by decide +kernel)).1 _).mpr
    ⟨[0x32, 0xe2, 0x82], ⟨[broken], given, [Utf8.encode "rw".toList], by decide +kernel,
      ⟨by decide +kernel, rfl⟩, List.forall_mem_singleton.mpr hbroken⟩, by decide +kernel⟩

end MemoryProbe.MountTable
