import MemoryProbe.Proofs.HugePage.Validation
import MemoryProbe.Proofs.Meminfo
import MemoryProbe.Proofs.MountTable.Selection
import MemoryProbe.Proofs.Text.Utf8

/-! Where the amount of a query comes from, said of the files and the configuration alone. Either
there is a source that gives an amount, or something is absent that the query needs, or something is
there that cannot be read. These exclude each other, and the search ends in the one that holds. -/

namespace MemoryProbe.HugePage
variable {files : Files} {c : Config} {content : Bytes} {cause : FileError} {t : Text}
  {info : Meminfo} {m : Mount} {a : Amount}

def MountChosen (files : Files) (c : Config) (m : Mount) : Prop :=
  ∃ content, files c.mountTable = .ok content ∧
    (MountTable.parse content).FirstMatch c.mountPoint m

def MeminfoReads (files : Files) (c : Config) (info : Meminfo) : Prop :=
  ∃ t, files c.meminfo = .ok (Utf8.encode t) ∧ Meminfo.parse t = .ok info

/-- The statistics decide: no mount is required, or it is there and pinned to no amount. -/
inductive FallsBack (files : Files) (c : Config) : Prop
  | off (hoff : c.requireMount = false)
  | unpinned {m : Mount} (hon : c.requireMount = true) (hm : MountChosen files c m)
    (hpin : ∀ a, ¬m.Pins a)

inductive Source (files : Files) (c : Config) : Amount → Prop
  | pinned {m : Mount} {a : Amount} (hon : c.requireMount = true) (hm : MountChosen files c m)
    (hpin : m.Pins a) : Source files c a
  | default {info : Meminfo} {value : Text} {a : Amount} (hf : FallsBack files c)
    (hinfo : MeminfoReads files c info)
    (hfirst : info.FirstEntry Meminfo.hugePageSizeName value)
    (hparse : Amount.parse value = .ok a) : Source files c a

inductive Lacking (files : Files) (c : Config) : UnsupportedReason → Prop
  | mountTable (hon : c.requireMount = true) (hfile : files c.mountTable = .error .notFound) :
    Lacking files c .mountTableMissing
  | mount {content : Bytes} (hon : c.requireMount = true)
    (hfile : files c.mountTable = .ok content)
    (hnone : ∀ m ∈ (MountTable.parse content).mounts, ¬MountTable.Matches c.mountPoint m) :
    Lacking files c .noHugetlbfsMount
  | meminfo (hf : FallsBack files c) (hfile : files c.meminfo = .error .notFound) :
    Lacking files c .meminfoMissing
  | entry {info : Meminfo} (hf : FallsBack files c) (hinfo : MeminfoReads files c info)
    (hnone : ∀ e ∈ info.entries, e.1 ≠ Meminfo.hugePageSizeName) :
    Lacking files c .noHugepagesizeEntry

inductive Broken (files : Files) (c : Config) : Prop
  | mountTable {cause : FileError} (hon : c.requireMount = true)
    (hfile : files c.mountTable = .error cause) (hcause : cause ≠ .notFound)
  | meminfo {cause : FileError} (hf : FallsBack files c)
    (hfile : files c.meminfo = .error cause) (hcause : cause ≠ .notFound)
  | notText {content : Bytes} (hf : FallsBack files c) (hfile : files c.meminfo = .ok content)
    (hnone : ∀ t, content ≠ Utf8.encode t)
  | colonless {t : Text} (hf : FallsBack files c) (hfile : files c.meminfo = .ok (Utf8.encode t))
    (hline : Meminfo.HasColonless t)
  | amount {info : Meminfo} {value : Text} (hf : FallsBack files c)
    (hinfo : MeminfoReads files c info)
    (hfirst : info.FirstEntry Meminfo.hugePageSizeName value)
    (hparse : ∀ a, Amount.parse value ≠ .ok a)

theorem Source.exists_parse (h : Source files c a) : ∃ s, Amount.parse s = .ok a := by
  cases h with
  | pinned _ _ hpin =>
    obtain ⟨s, -, hs⟩ := hpin
    exact ⟨s, hs⟩
  | default _ _ _ hparse => exact ⟨_, hparse⟩

/-! One of the three always holds. -/

theorem FallsBack.source_or_lacking_or_broken (hf : FallsBack files c) :
    (∃ a, Source files c a) ∨ (∃ reason, Lacking files c reason) ∨ Broken files c := by
  cases hfile : files c.meminfo with
  | error cause =>
    by_cases hcause : cause = .notFound
    · exact .inr (.inl ⟨_, .meminfo hf (hcause ▸ hfile)⟩)
    · exact .inr (.inr (.meminfo hf hfile hcause))
  | ok content =>
    cases hd : Utf8.decode? content with
    | none => exact .inr (.inr (.notText hf hfile (Utf8.decode?_eq_none_iff.mp hd)))
    | some t =>
      rw [Utf8.decode?_eq_some_iff.mp hd] at hfile
      cases hp : Meminfo.parse t with
      | error e =>
        exact .inr (.inr (.colonless hf hfile (Meminfo.exists_parse_eq_error_iff.mp ⟨e, hp⟩)))
      | ok info =>
        have hinfo : MeminfoReads files c info := ⟨t, hfile, hp⟩
        cases hraw : info.raw? Meminfo.hugePageSizeName with
        | none => exact .inr (.inl ⟨_, .entry hf hinfo (Meminfo.raw?_eq_none_iff.mp hraw)⟩)
        | some value =>
          have hfirst := Meminfo.raw?_eq_some_iff.mp hraw
          by_cases hparse : ∃ a, Amount.parse value = .ok a
          · obtain ⟨a, ha⟩ := hparse
            exact .inl ⟨a, .default hf hinfo hfirst ha⟩
          · exact .inr (.inr (.amount hf hinfo hfirst (not_exists.mp hparse)))

theorem source_or_lacking_or_broken (files : Files) (c : Config) :
    (∃ a, Source files c a) ∨ (∃ reason, Lacking files c reason) ∨ Broken files c := by
  cases hon : c.requireMount with
  | false => exact FallsBack.source_or_lacking_or_broken (.off hon)
  | true =>
    cases hfile : files c.mountTable with
    | error cause =>
      by_cases hcause : cause = .notFound
      · exact .inr (.inl ⟨_, .mountTable hon (hcause ▸ hfile)⟩)
      · exact .inr (.inr (.mountTable hon hfile hcause))
    | ok content =>
      cases hfind : (MountTable.parse content).find? c.mountPoint with
      | none => exact .inr (.inl ⟨_, .mount hon hfile (MountTable.find?_eq_none_iff.mp hfind)⟩)
      | some m =>
        have hm : MountChosen files c m := ⟨content, hfile, MountTable.find?_eq_some_iff.mp hfind⟩
        by_cases hpin : ∃ a, m.Pins a
        · obtain ⟨a, ha⟩ := hpin
          exact .inl ⟨a, .pinned hon hm ha⟩
        · exact FallsBack.source_or_lacking_or_broken (.unpinned hon hm (not_exists.mp hpin))

/-! What the phases of the search give in each case. -/

theorem value_pinnedBy_of_pins (h : m.Pins a) : (pinnedBy m).value = some a := by
  rw [pinnedBy, Mount.pageSize?_eq_some_ok_iff.mpr h]
  rfl

theorem value_pinnedBy_of_not_pins (h : ∀ a, ¬m.Pins a) : (pinnedBy m).value = none := by
  unfold pinnedBy
  cases hs : m.pageSize? with
  | none => rfl
  | some r =>
    cases r with
    | error cause => rfl
    | ok a => exact absurd (Mount.pageSize?_eq_some_ok_iff.mp hs) (h a)

theorem value_mountPhase_of_error (hfile : files c.mountTable = .error cause) :
    (mountPhase files c).value = .error (if cause = .notFound then .unsupported .mountTableMissing
      else .failed (.mountTable (.unreadable c.mountTable cause))) := by
  rw [mountPhase, MountTable.load, hfile]
  cases cause <;> rfl

theorem value_mountPhase_of_chosen (hm : MountChosen files c m) :
    (mountPhase files c).value = .ok (pinnedBy m).value := by
  obtain ⟨content, hfile, hfirst⟩ := hm
  rw [mountPhase, MountTable.load, hfile]
  simp only [Logged.value_bind, MountTable.find?_eq_some_iff.mpr hfirst, Logged.value_pure]

theorem value_mountPhase_of_none (hfile : files c.mountTable = .ok content)
    (hnone : ∀ m ∈ (MountTable.parse content).mounts, ¬MountTable.Matches c.mountPoint m) :
    (mountPhase files c).value = .error (.unsupported .noHugetlbfsMount) := by
  rw [mountPhase, MountTable.load, hfile]
  simp only [Logged.value_bind, MountTable.find?_eq_none_iff.mpr hnone, Logged.value_pure]

theorem value_meminfoPhase_of_error (hfile : files c.meminfo = .error cause) :
    (meminfoPhase files c).value = .error (if cause = .notFound then .unsupported .meminfoMissing
      else .failed (.meminfo (.unreadable c.meminfo cause))) := by
  rw [meminfoPhase, Meminfo.load, hfile]
  cases cause <;> rfl

theorem value_meminfoPhase_of_notText (hfile : files c.meminfo = .ok content)
    (hnone : ∀ t, content ≠ Utf8.encode t) : (meminfoPhase files c).value =
      .error (.failed (.meminfo (.unreadable c.meminfo .notText))) := by
  rw [meminfoPhase, Meminfo.load, hfile]
  simp only [Logged.value_bind, Utf8.decode?_eq_none_iff.mpr hnone]
  rfl

theorem value_meminfoPhase_of_colonless (hfile : files c.meminfo = .ok (Utf8.encode t))
    (hline : Meminfo.HasColonless t) :
    ∃ cause, (meminfoPhase files c).value = .error (.failed cause) := by
  obtain ⟨cause, hp⟩ := Meminfo.exists_parse_eq_error_iff.mpr hline
  refine ⟨.meminfo (.malformed cause), ?_⟩
  rw [meminfoPhase, Meminfo.load, hfile]
  simp only [Logged.value_bind, Utf8.decode?_eq_some_iff.mpr rfl, hp]
  rfl

theorem value_meminfoPhase_of_reads (hinfo : MeminfoReads files c info) :
    (meminfoPhase files c).value = match info.hugePageSize? with
      | .error cause => .error (.failed (.meminfo (.malformed cause)))
      | .ok none => .error (.unsupported .noHugepagesizeEntry)
      | .ok (some amount) => .ok amount := by
  obtain ⟨t, hfile, hp⟩ := hinfo
  rw [meminfoPhase, Meminfo.load, hfile]
  simp only [Logged.value_bind, Utf8.decode?_eq_some_iff.mpr rfl, hp]
  show Logged.value (match info.hugePageSize? with
    | .error cause => _
    | .ok none => _
    | .ok (some _) => _) = _
  cases info.hugePageSize? with
  | error cause => rfl
  | ok amount => cases amount <;> rfl

theorem value_amount_of_fallsBack (hf : FallsBack files c) :
    (amount files c).value = (meminfoPhase files c).value := by
  cases hf with
  | off hoff =>
    rw [amount, hoff]
    rfl
  | unpinned hon hm hpin =>
    rw [amount, if_pos hon, Logged.value_bind, value_mountPhase_of_chosen hm,
      value_pinnedBy_of_not_pins hpin]

theorem value_amount_of_mountPhase_error {e : NoAmount} (hon : c.requireMount = true)
    (h : (mountPhase files c).value = .error e) : (amount files c).value = .error e := by
  rw [amount, if_pos hon, Logged.value_bind, h]
  rfl

/-! The search ends in the case that holds. -/

theorem value_amount_of_source (h : Source files c a) : (amount files c).value = .ok a := by
  cases h with
  | pinned hon hm hpin =>
    rw [amount, if_pos hon, Logged.value_bind, value_mountPhase_of_chosen hm,
      value_pinnedBy_of_pins hpin]
    rfl
  | default hf hinfo hfirst hparse =>
    rw [value_amount_of_fallsBack hf, value_meminfoPhase_of_reads hinfo, Meminfo.hugePageSize?,
      Meminfo.amount?, Meminfo.raw?_eq_some_iff.mpr hfirst]
    simp only [hparse]

theorem value_amount_of_lacking {reason : UnsupportedReason} (h : Lacking files c reason) :
    (amount files c).value = .error (.unsupported reason) := by
  cases h with
  | mountTable hon hfile =>
    exact value_amount_of_mountPhase_error hon (value_mountPhase_of_error hfile)
  | mount hon hfile hnone =>
    exact value_amount_of_mountPhase_error hon (value_mountPhase_of_none hfile hnone)
  | meminfo hf hfile =>
    rw [value_amount_of_fallsBack hf, value_meminfoPhase_of_error hfile, if_pos rfl]
  | entry hf hinfo hnone =>
    rw [value_amount_of_fallsBack hf, value_meminfoPhase_of_reads hinfo, Meminfo.hugePageSize?,
      Meminfo.amount?, Meminfo.raw?_eq_none_iff.mpr hnone]

theorem value_amount_of_broken (h : Broken files c) :
    ∃ cause, (amount files c).value = .error (.failed cause) := by
  cases h with
  | mountTable hon hfile hcause =>
    have hphase := value_mountPhase_of_error hfile
    rw [if_neg hcause] at hphase
    exact ⟨_, value_amount_of_mountPhase_error hon hphase⟩
  | meminfo hf hfile hcause =>
    have hphase := value_meminfoPhase_of_error hfile
    rw [if_neg hcause] at hphase
    exact ⟨_, (value_amount_of_fallsBack hf).trans hphase⟩
  | notText hf hfile hnone =>
    exact ⟨_, (value_amount_of_fallsBack hf).trans (value_meminfoPhase_of_notText hfile hnone)⟩
  | colonless hf hfile hline =>
    obtain ⟨cause, hphase⟩ := value_meminfoPhase_of_colonless hfile hline
    exact ⟨cause, (value_amount_of_fallsBack hf).trans hphase⟩
  | @amount info value hf hinfo hfirst hparse =>
    cases hp : Amount.parse value with
    | ok a => exact absurd hp (hparse a)
    | error cause =>
      refine ⟨.meminfo (.malformed (.invalidAmount Meminfo.hugePageSizeName cause)), ?_⟩
      rw [value_amount_of_fallsBack hf, value_meminfoPhase_of_reads hinfo, Meminfo.hugePageSize?,
        Meminfo.amount?, Meminfo.raw?_eq_some_iff.mpr hfirst]
      simp only [hp]

def verdict (system : SystemAnswer) (a : Amount) : Except QueryError HugePageSize :=
  (PageSize.ofSystem system).bind (validate · a)

theorem value_query_eq_value_size (system : SystemAnswer) (files : Files) (c : Config) :
    (query system files c).value = (size system files c).value := by
  rw [query, Logged.value_bind]
  cases (size system files c).value <;> rfl

theorem value_query (system : SystemAnswer) (files : Files) (c : Config) :
    (query system files c).value = match (amount files c).value with
      | .error e => e.answer
      | .ok a => verdict system a := by
  rw [value_query_eq_value_size, size, Logged.value_bind]
  cases (amount files c).value with
  | error e => rfl
  | ok a =>
    dsimp only
    rw [Logged.value_bind, PageSize.value_query, verdict]
    cases PageSize.ofSystem system <;> rfl

theorem value_query_of_source (system : SystemAnswer) (h : Source files c a) :
    (query system files c).value = verdict system a := by
  rw [value_query, value_amount_of_source h]

theorem verdict_eq_ok_iff {system : SystemAnswer} {s : HugePageSize} : verdict system a = .ok s ↔
      s = .available a.bytes ∧
        (∃ page, PageSize.ofSystem system = .ok page ∧ page.bytes < a.bytes) ∧
        ∃ k, a.bytes.toNat = 2 ^ k := by
  unfold verdict
  cases PageSize.ofSystem system with
  | error cause => exact ⟨nofun, fun h => nomatch h.2.1⟩
  | ok page =>
    refine validate_eq_ok_iff.trans (and_congr_right fun _ => and_congr_left fun _ => ?_)
    simp only [Except.ok.injEq, exists_eq_left']

theorem value_query_eq_unsupported_iff {system : SystemAnswer} {reason : UnsupportedReason} :
    (query system files c).value = .ok (.unsupported reason) ↔ Lacking files c reason := by
  constructor
  · intro h
    obtain ⟨a, ha⟩ | ⟨reason', hlack⟩ | hbroken := source_or_lacking_or_broken files c
    · rw [value_query_of_source system ha] at h
      exact nomatch (verdict_eq_ok_iff.mp h).1
    · rw [value_query, value_amount_of_lacking hlack] at h
      rwa [← HugePageSize.unsupported.inj (Except.ok.inj h)]
    · obtain ⟨cause, hcause⟩ := value_amount_of_broken hbroken
      rw [value_query, hcause] at h
      exact nomatch h
  · intro h
    rw [value_query, value_amount_of_lacking h]
    rfl

theorem value_query_eq_available_iff {system : SystemAnswer} {bytes : UInt64} :
    (query system files c).value = .ok (.available bytes) ↔
      (∃ a, Source files c a ∧ a.exactBytes = bytes.toNat) ∧
        (∃ page, PageSize.ofSystem system = .ok page ∧ page.bytes < bytes) ∧
        ∃ k, bytes.toNat = 2 ^ k := by
  constructor
  · intro h
    obtain ⟨a, ha⟩ | ⟨reason, hlack⟩ | hbroken := source_or_lacking_or_broken files c
    · rw [value_query_of_source system ha] at h
      obtain ⟨hs, hgate⟩ := verdict_eq_ok_iff.mp h
      obtain rfl := HugePageSize.available.inj hs
      obtain ⟨s, hs⟩ := ha.exists_parse
      exact ⟨⟨a, ha, (Amount.toNat_bytes_of_parse hs).symm⟩, hgate⟩
    · rw [value_query, value_amount_of_lacking hlack] at h
      exact nomatch h
    · obtain ⟨cause, hcause⟩ := value_amount_of_broken hbroken
      rw [value_query, hcause] at h
      exact nomatch h
  · rintro ⟨⟨a, ha, hexact⟩, hgate⟩
    obtain ⟨s, hs⟩ := ha.exists_parse
    have hbytes : a.bytes = bytes :=
      UInt64.toNat_inj.mp ((Amount.toNat_bytes_of_parse hs).trans hexact)
    rw [value_query_of_source system ha]
    exact verdict_eq_ok_iff.mpr ⟨by rw [hbytes], hbytes.symm ▸ hgate⟩

theorem of_value_query_available {system : SystemAnswer} {bytes : UInt64}
    (h : (query system files c).value = .ok (.available bytes)) :
    (∃ page, PageSize.ofSystem system = .ok page ∧ page.bytes < bytes) ∧
      ∃ k, bytes.toNat = 2 ^ k := (value_query_eq_available_iff.mp h).2

end MemoryProbe.HugePage
