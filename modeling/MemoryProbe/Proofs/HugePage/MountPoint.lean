import MemoryProbe.Host.Basic
import MemoryProbe.Proofs.Files.Path
import MemoryProbe.Proofs.HugePage.Sources
import MemoryProbe.Proofs.MountTable.Lines
import MemoryProbe.Proofs.Text.Blank

/-! The mount point that the environment names. Its text loses the white space at its ends, but a
mount table gives a directory with all its white space. So a directory that has none at either end
selects the mounts at it, and for any other there is a table in which it selects a mount
elsewhere. -/

namespace MemoryProbe
variable {t : Text} {env : Environment}

namespace Path

/-! Text around a path that is neither slash nor dot makes another path of it. -/

theorem isSolid_of_mem_encode {l : Text} (h : ∀ c ∈ l, Text.isBlank c = true) :
    ∀ b ∈ Utf8.encode l, isSolid b = true := by
  intro b hb
  have hne {x : UInt8} (hx : x.toNat < 0x80)
      (hblank : Text.isBlank (Char.ofNat x.toNat) = false) : b ≠ x := by
    rintro rfl
    have hmem := h _ ((Utf8.mem_encode_iff hx).mp hb)
    exact Bool.false_ne_true (hblank.symm.trans hmem)
  rw [isSolid, Bool.and_eq_true, bne_iff_ne, bne_iff_ne]
  exact ⟨hne (by decide) (by decide), hne (by decide) (by decide)⟩

theorem eq_nil_of_sameAs {lead trail : Text}
    (hlead : ∀ b ∈ Utf8.encode lead, isSolid b = true)
    (htrail : ∀ b ∈ Utf8.encode trail, isSolid b = true)
    (h : (ofText t).sameAs (.ofText (lead ++ (t ++ trail))) = true) :
    lead = [] ∧ trail = [] := by
  have hsolid := filter_isSolid_eq_of_sameAs h
  simp only [Path.ofText, Utf8.encode_append, List.filter_append, List.filter_eq_self.mpr hlead,
    List.filter_eq_self.mpr htrail] at hsolid
  have hlength := congrArg List.length hsolid
  simp only [List.length_append] at hlength
  rw [← Utf8.encode_eq_nil_iff, ← List.length_eq_zero_iff, ← @Utf8.encode_eq_nil_iff trail,
    ← List.length_eq_zero_iff]
  omega

theorem trimmed_of_sameAs (h : (ofText (Text.trim t)).sameAs (.ofText t) = true) :
    Text.Trimmed t := by
  obtain ⟨lead, trail, hlead, htrail, ht⟩ := Text.exists_append_trim_append t
  have hnil : lead = [] ∧ trail = [] := by
    apply eq_nil_of_sameAs (isSolid_of_mem_encode hlead) (isSolid_of_mem_encode htrail)
    rwa [ht]
  rw [hnil.1, hnil.2, List.nil_append, List.append_nil] at ht
  exact Text.trim_eq_self_iff.mp ht

end Path

namespace Config

theorem mountPoint_ofEnvironment (h : env Variable.mountPoint = some (Utf8.encode t)) :
    (ofEnvironment env).value.mountPoint = parseMountPoint t := by
  have ht : env.text? Variable.mountPoint = some t := by
    rw [Environment.text?, h]
    exact Utf8.decode?_eq_some_iff.mpr rfl
  simp only [ofEnvironment, ofLookup, ht]
  split
  · rfl
  · split <;> rfl

theorem requireMount_ofEnvironment (h : env Variable.requireMount = none) :
    (ofEnvironment env).value.requireMount = true := by
  have ht : env.text? Variable.requireMount = none := by
    rw [Environment.text?, h]
    rfl
  simp only [ofEnvironment, ofLookup, ht]
  rfl

theorem parseMountPoint_of_trimmed (h : Text.Trimmed t) (hne : t ≠ []) (hstar : t ≠ ['*']) :
    parseMountPoint t = some (.ofText t) := by
  rw [← Text.trim_eq_self_iff] at h
  simp only [parseMountPoint, h]
  exact if_neg (not_or.mpr ⟨hne, hstar⟩)

theorem of_parseMountPoint_eq_some {p : Path} (h : parseMountPoint t = some p) :
    Text.trim t ≠ [] ∧ p = .ofText (Text.trim t) := by
  simp only [parseMountPoint] at h
  split at h
  · exact nomatch h
  · next hany => exact ⟨(not_or.mp hany).1, (Option.some.inj h).symm⟩

theorem exists_selected_elsewhere (h : ¬Text.Trimmed t) :
    ∃ u : Text, u ≠ [] ∧ (parseMountPoint t).all (Path.ofText u).sameAs = true ∧
      (Path.ofText u).sameAs (.ofText t) = false := by
  cases hpoint : parseMountPoint t with
  | none =>
    -- any directory is selected, so one with a letter more will do
    refine ⟨t ++ ['x'], List.append_ne_nil_of_right_ne_nil t (List.cons_ne_nil _ _), rfl, ?_⟩
    rw [← Bool.not_eq_true, Path.sameAs_comm]
    intro hsame
    have hlead : ∀ b ∈ Utf8.encode [], Path.isSolid b = true := nofun
    have htrail : ∀ b ∈ Utf8.encode ['x'], Path.isSolid b = true :=
      List.forall_mem_singleton.mpr rfl
    exact List.cons_ne_nil _ _ (Path.eq_nil_of_sameAs hlead htrail hsame).2
  | some p =>
    obtain ⟨hne, rfl⟩ := of_parseMountPoint_eq_some hpoint
    refine ⟨Text.trim t, hne, Path.sameAs_self _, ?_⟩
    rw [← Bool.not_eq_true]
    exact fun hsame => h (Path.trimmed_of_sameAs hsame)

end Config

namespace HugePage
open MountTable

/-- With this text for the mount point and a mount required, every hugetlbfs mount at the directory
that the text spells is within reach: the mount chosen is the first one there, and the query does
not find that there is none. -/
def SelectsOwnMount (t : Text) : Prop :=
  ∀ (system : SystemAnswer) (files : Files) (env : Environment) (content : Bytes) (m : Mount),
    let c := (Config.ofEnvironment env).value
    env Variable.mountPoint = some (Utf8.encode t) → c.requireMount = true →
    files c.mountTable = .ok content → m ∈ (parse content).mounts → m.isHugetlbfs = true →
    m.dir = .ofText t →
    (∃ m', MountChosen files c m' ∧ (parse content).FirstMatch (some (.ofText t)) m') ∧
      (query system files c).value ≠ .ok (.unsupported .noHugetlbfsMount)

theorem selectsOwnMount_of_trimmed (h : Text.Trimmed t) (hne : t ≠ []) (hstar : t ≠ ['*']) :
    SelectsOwnMount t := by
  intro system files env content m c henv hon hfile hm hhuge hdir
  have hpoint : c.mountPoint = some (.ofText t) :=
    (Config.mountPoint_ofEnvironment henv).trans (Config.parseMountPoint_of_trimmed h hne hstar)
  have hselects : selects (some (.ofText t)) m = true := by
    rw [selects, hhuge, hdir]
    exact Path.sameAs_self _
  obtain ⟨m', hfind⟩ : ∃ m', (parse content).find? (some (.ofText t)) = some m' :=
    Option.isSome_iff_exists.mp (List.find?_isSome.mpr ⟨m, hm, hselects⟩)
  have hfirst := find?_eq_some_iff.mp hfind
  refine ⟨⟨m', ⟨content, hfile, hpoint ▸ hfirst⟩, hfirst⟩, fun hquery => ?_⟩
  cases value_query_eq_unsupported_iff.mp hquery with
  | @mount content' _ hfile' hnone =>
    obtain rfl : content = content' := Except.ok.inj (hfile.symm.trans hfile')
    exact hnone m hm (hpoint ▸ selects_iff.mp hselects)

def hugetlbfsRecord (dir : Text) : Record where
  fsName := Utf8.encode Mount.hugetlbfs
  dir := Utf8.encode dir
  fsType := Utf8.encode Mount.hugetlbfs
  options := Utf8.encode "rw".toList

theorem valid_hugetlbfsRecord (hne : t ≠ []) : (hugetlbfsRecord t).Valid where
  fsName := mt Utf8.encode_eq_nil_iff.mp (by decide)
  dir := mt Utf8.encode_eq_nil_iff.mp hne
  fsType := mt Utf8.encode_eq_nil_iff.mp (by decide)
  options := mt Utf8.encode_eq_nil_iff.mp (by decide)
  options_separator := List.forall_mem_cons.mpr ⟨rfl, List.forall_mem_singleton.mpr rfl⟩

theorem isHugetlbfs_hugetlbfsRecord (dir : Text) :
    (hugetlbfsRecord dir).mount.isHugetlbfs = true :=
  (hugetlbfsRecord dir).isHugetlbfs_mount_iff.mpr ⟨rfl, rfl⟩

theorem selects_hugetlbfsRecord {point : Option Path} {dir : Text}
    (h : point.all (Path.ofText dir).sameAs = true) :
    selects point (hugetlbfsRecord dir).mount = true := by
  rw [selects, isHugetlbfs_hugetlbfsRecord]
  exact h

theorem exists_mounts_parse_pair {u : Text} (hu : u ≠ []) (ht : t ≠ []) :
    ∃ content, (parse content).mounts =
      [(hugetlbfsRecord u).mount, (hugetlbfsRecord t).mount] := by
  have hvalid : ∀ r ∈ [hugetlbfsRecord u, hugetlbfsRecord t], r.Valid :=
    List.forall_mem_cons.mpr
      ⟨valid_hugetlbfsRecord hu, List.forall_mem_singleton.mpr (valid_hugetlbfsRecord ht)⟩
  exact exists_mounts_parse_eq hvalid

theorem trimmed_of_selectsOwnMount (hne : t ≠ []) (h : SelectsOwnMount t) : Text.Trimmed t := by
  by_contra hblank
  obtain ⟨u, hu, hselected, helsewhere⟩ := Config.exists_selected_elsewhere hblank
  -- the mount elsewhere stands before the one at the directory itself
  obtain ⟨content, hmounts⟩ := exists_mounts_parse_pair hu hne
  let env := Environment.empty.set Variable.mountPoint (Utf8.encode t)
  let c := (Config.ofEnvironment env).value
  have henv : env Variable.mountPoint = some (Utf8.encode t) := Environment.set_self ..
  have hon : c.requireMount = true := Config.requireMount_ofEnvironment rfl
  have hm : (hugetlbfsRecord t).mount ∈ (parse content).mounts := by
    rw [hmounts]
    exact List.mem_cons_of_mem _ (List.mem_singleton_self _)
  obtain ⟨⟨m, ⟨content', hfile, hchosen⟩, hfirst⟩, -⟩ := h .reference
    (fun _ => .ok content) env content _ henv hon rfl hm (isHugetlbfs_hugetlbfsRecord t) rfl
  obtain rfl : content = content' := Except.ok.inj hfile
  have hfind : (parse content).find? c.mountPoint = some (hugetlbfsRecord u).mount := by
    have hpoint : c.mountPoint = Config.parseMountPoint t := Config.mountPoint_ofEnvironment henv
    rw [find?, hmounts, hpoint, List.find?_cons_of_pos (selects_hugetlbfsRecord hselected)]
  obtain rfl : m = (hugetlbfsRecord u).mount :=
    Option.some.inj ((find?_eq_some_iff.mpr hchosen).symm.trans hfind)
  obtain ⟨-, -, -, hmatch, -⟩ := hfirst
  have hsame := Path.sameAs_iff.mpr (hmatch.dir _ rfl)
  exact Bool.false_ne_true (helsewhere.symm.trans hsame)

/-- A directory selects its mounts exactly when there is no white space at either end of it. -/
theorem selectsOwnMount_iff (hne : t ≠ []) (hstar : t ≠ ['*']) :
    SelectsOwnMount t ↔ Text.Trimmed t :=
  ⟨trimmed_of_selectsOwnMount hne, fun h => selectsOwnMount_of_trimmed h hne hstar⟩

theorem selectsOwnMount_iff_inner_space :
    SelectsOwnMount "/mnt/my huge".toList ∧ ¬SelectsOwnMount "/mnt/huge ".toList := by
  constructor
  · refine (selectsOwnMount_iff (by decide) (by decide)).mpr (Text.trim_eq_self_iff.mp ?_)
    decide +kernel
  · intro h
    have htrim := Text.trim_eq_self_iff.mpr ((selectsOwnMount_iff (by decide) (by decide)).mp h)
    exact absurd htrim (by decide +kernel)

end HugePage
end MemoryProbe
