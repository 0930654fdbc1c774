import MemoryProbe.Proofs.HugePage.Settings
import MemoryProbe.Proofs.MountTable.Lines
import MemoryProbe.Proofs.Native.HugePageSize

/-! What one call about huge pages warns of, and in which order: a setting that is no boolean, the
lines of the mount table that were skipped, a page size of the chosen mount that is no amount, and
last the failure of the call. Each of these is told exactly when it is the case, so a call that fails
says so once, and a call that does not fail never says that it did. -/

namespace MemoryProbe.Native
open HugePage

variable {files : Files} {env : Environment} {c : Config} {system : SystemAnswer}
  {page : PageSize} {m : Mount}

inductive CallFailure
  | query (cause : QueryError)
  | tooWide (bytes : UInt64)
deriving DecidableEq, Repr

def CallFailure.event : CallFailure → Event
  | query cause => .queryFailed cause
  | tooWide bytes => .hugePageSizeTooWide bytes

structure Warnings where
  misspelt : Option Text
  skipped : List MountTable.SkippedLine
  ignored : Option (Path × Amount.ParseError)
  failure : Option CallFailure

def Warnings.events (w : Warnings) : List Event :=
  (w.misspelt.map Event.ignoredRequireMount).toList ++ (w.skipped.map Event.skippedLine ++
    ((w.ignored.map fun i => Event.ignoredPageSize i.1 i.2).toList ++
      (w.failure.map CallFailure.event).toList))

def readTable? (files : Files) (c : Config) : Option MountTable :=
  if c.requireMount then (MountTable.load files c.mountTable).toOption else none

def ignoredPageSize? (m : Mount) : Option (Path × Amount.ParseError) :=
  match m.pageSize? with
  | some (.error cause) => some (m.dir, cause)
  | _ => none

def failure? : Except QueryError HugePageSize → Option CallFailure
  | .error cause => some (.query cause)
  | .ok (.available bytes) => if bytes.toNat < 2 ^ 63 then none else some (.tooWide bytes)
  | .ok (.unsupported _) => none

def warnings (files : Files) (env : Environment) : Warnings :=
  let c := (Config.ofEnvironment env).value
  let table? := readTable? files c
  { misspelt := Config.misspelt? env
    skipped := (table?.map MountTable.skipped).getD []
    ignored := (table?.bind (·.find? c.mountPoint)).bind ignoredPageSize?
    failure := failure? (query .reference files c).value }

def SkipsLine (files : Files) (c : Config) (s : MountTable.SkippedLine) : Prop :=
  c.requireMount = true ∧ ∃ content, files c.mountTable = .ok content ∧ 1 ≤ s.number ∧
    (content.splitOn MountTable.lineFeed)[s.number - 1]? = some s.line ∧
      MountTable.Unreadable s.line s.cause

def IgnoresPageSize (files : Files) (c : Config) (dir : Path) (cause : Amount.ParseError) : Prop :=
  c.requireMount = true ∧ ∃ m, MountChosen files c m ∧ m.dir = dir ∧
    ∃ value, m.FirstOption Mount.pageSizeKey value ∧ Amount.parse value = .error cause

/-! The log of each phase. -/

theorem notices_pinnedBy (m : Mount) : (pinnedBy m).notices =
    ((ignoredPageSize? m).map fun i => Event.ignoredPageSize i.1 i.2).toList := by
  unfold pinnedBy ignoredPageSize?
  cases m.pageSize? with
  | none => rfl
  | some r => cases r <;> rfl

theorem notices_mountPhase (files : Files) (c : Config) : (mountPhase files c).notices =
    match MountTable.load files c.mountTable with
    | .error _ => []
    | .ok table => table.skipped.map Event.skippedLine ++
      (((table.find? c.mountPoint).bind ignoredPageSize?).map
        fun i => Event.ignoredPageSize i.1 i.2).toList := by
  rw [mountPhase, Logged.notices_bind]
  cases MountTable.load files c.mountTable with
  | error cause =>
    dsimp only
    split <;> rfl
  | ok table =>
    have hskipped : ∀ e ∈ table.skipped.map Event.skippedLine, e.isNotice = true := by
      intro e he
      obtain ⟨line, -, rfl⟩ := List.mem_map.mp he
      rfl
    dsimp only
    rw [Logged.notices_bind, Logged.notices_logAll hskipped]
    cases table.find? c.mountPoint with
    | none => rfl
    | some m =>
      rw [Logged.notices_bind, Logged.notices_bind, notices_pinnedBy, Logged.notices_pure,
        List.append_nil]
      rfl

theorem notices_meminfoPhase (files : Files) (c : Config) : (meminfoPhase files c).notices = [] := by
  rw [meminfoPhase, Logged.notices_bind]
  cases Meminfo.load files c.meminfo with
  | error cause =>
    dsimp only
    split <;> rfl
  | ok info =>
    dsimp only
    split <;> rfl

theorem notices_amount (files : Files) (c : Config) : (amount files c).notices =
    if c.requireMount then (mountPhase files c).notices else [] := by
  cases hon : c.requireMount with
  | false =>
    rw [amount, hon]
    exact notices_meminfoPhase files c
  | true =>
    rw [amount, if_pos hon, if_pos rfl, Logged.notices_bind]
    cases (mountPhase files c).value with
    | error e => exact List.append_nil _
    | ok pinned =>
      cases pinned with
      | some a => exact List.append_nil _
      | none =>
        dsimp only
        rw [notices_meminfoPhase, List.append_nil]

theorem notices_amount_eq (files : Files) (c : Config) : (amount files c).notices =
    (((readTable? files c).map MountTable.skipped).getD []).map Event.skippedLine ++
      ((((readTable? files c).bind (·.find? c.mountPoint)).bind ignoredPageSize?).map
        fun i => Event.ignoredPageSize i.1 i.2).toList := by
  rw [notices_amount, readTable?]
  cases c.requireMount with
  | false => rfl
  | true =>
    rw [if_pos rfl, if_pos rfl, notices_mountPhase]
    cases MountTable.load files c.mountTable <;> rfl

theorem notices_pageSizeQuery (h : PageSize.ofSystem system = .ok page) :
    (PageSize.query system).notices = [] := by
  rw [Logged.notices, PageSize.events_query, h]
  rfl

theorem notices_size (h : PageSize.ofSystem system = .ok page) (files : Files) (c : Config) :
    (size system files c).notices = (amount files c).notices := by
  rw [size, Logged.notices_bind]
  cases (amount files c).value with
  | error e => exact List.append_nil _
  | ok a =>
    dsimp only
    rw [Logged.notices_bind, notices_pageSizeQuery h, PageSize.value_query, h]
    exact List.append_nil _

theorem notices_query (h : PageSize.ofSystem system = .ok page) (files : Files) (c : Config) :
    (query system files c).notices = (amount files c).notices ++
      match (query system files c).value with
      | .error cause => [.queryFailed cause]
      | .ok _ => [] := by
  rw [value_query_eq_value_size, query, Logged.notices_bind, notices_size h]
  cases (size system files c).value <;> rfl

theorem notices_hugePageSize (host : Host) :
    (hugePageSize host).notices = host.hugePageSize.notices ++
      match host.hugePageSize.value with
      | .ok (.available bytes) =>
        if bytes.toNat < 2 ^ 63 then [] else [.hugePageSizeTooWide bytes]
      | _ => [] := by
  rw [hugePageSize, Logged.notices_bind]
  cases host.hugePageSize.value with
  | error cause => rfl
  | ok answer =>
    cases answer with
    | unsupported reason => rfl
    | available bytes =>
      dsimp only
      by_cases h : bytes.toNat < 2 ^ 63
      · rw [toInt64?_of_lt h, if_pos h]
        rfl
      · rw [toInt64?_of_le (Nat.le_of_not_lt h), if_neg h]
        rfl

theorem notices_hugePageSize_ofConfig (files : Files) (c : Config) :
    (hugePageSize (.ofConfig files c)).notices = (amount files c).notices ++
      ((failure? (query .reference files c).value).map CallFailure.event).toList := by
  have hhost : (Host.ofConfig files c).hugePageSize = query .reference files c := rfl
  rw [notices_hugePageSize, hhost, notices_query Host.ofSystem_reference, List.append_assoc]
  cases (query .reference files c).value with
  | error cause => rfl
  | ok answer =>
    cases answer with
    | unsupported reason => rfl
    | available bytes =>
      dsimp only [failure?]
      split <;> rfl

theorem notices_exportedHugePageSize (files : Files) (env : Environment) :
    (exportedHugePageSize sound files env).notices = (warnings files env).events := by
  rw [exportedHugePageSize, guarded_sound, Logged.notices_bind, Config.notices_ofEnvironment,
    notices_hugePageSize_ofConfig, notices_amount_eq, List.append_assoc]
  rfl

/-! When each of the warnings is given. -/

theorem readTable?_eq_some_iff {table : MountTable} : readTable? files c = some table ↔
    c.requireMount = true ∧
      ∃ content, files c.mountTable = .ok content ∧ MountTable.parse content = table := by
  rw [readTable?, Option.ite_none_right_eq_some, MountTable.load]
  refine and_congr_right fun _ => ?_
  cases files c.mountTable <;> simp [Except.toOption]

theorem pairwise_skipped (files : Files) (env : Environment) :
    (warnings files env).skipped.Pairwise fun s s' => s.number < s'.number := by
  show (((readTable? files _).map MountTable.skipped).getD []).Pairwise _
  cases htable : readTable? files (Config.ofEnvironment env).value with
  | none => exact .nil
  | some table =>
    obtain ⟨-, content, -, rfl⟩ := readTable?_eq_some_iff.mp htable
    exact MountTable.pairwise_skippedFrom 1 _

theorem mem_skipped_iff {s : MountTable.SkippedLine} : s ∈ (warnings files env).skipped ↔
    SkipsLine files (Config.ofEnvironment env).value s := by
  let c := (Config.ofEnvironment env).value
  have htable : s ∈ (warnings files env).skipped ↔
      ∃ table, readTable? files c = some table ∧ s ∈ table.skipped := by
    show s ∈ ((readTable? files c).map MountTable.skipped).getD [] ↔ _
    cases readTable? files c <;> simp
  have hline (content : Bytes) : s ∈ (MountTable.parse content).skipped ↔ 1 ≤ s.number ∧
      (content.splitOn MountTable.lineFeed)[s.number - 1]? = some s.line ∧
        MountTable.Unreadable s.line s.cause := by
    rw [← MountTable.readLine_eq_unreadable_iff]
    exact MountTable.mem_skippedFrom_iff
  rw [htable]
  constructor
  · rintro ⟨table, hread, hs⟩
    obtain ⟨hon, content, hfile, rfl⟩ := readTable?_eq_some_iff.mp hread
    exact ⟨hon, content, hfile, (hline content).mp hs⟩
  · rintro ⟨hon, content, hfile, hs⟩
    exact ⟨_, readTable?_eq_some_iff.mpr ⟨hon, content, hfile, rfl⟩, (hline content).mpr hs⟩

theorem ignoredPageSize?_eq_some_iff {dir : Path} {cause : Amount.ParseError} :
    ignoredPageSize? m = some (dir, cause) ↔ m.dir = dir ∧
      ∃ value, m.FirstOption Mount.pageSizeKey value ∧ Amount.parse value = .error cause := by
  rw [← Mount.pageSize?_eq_some_iff, ignoredPageSize?]
  match m.pageSize? with
  | none => exact ⟨nofun, fun h => nomatch h.2⟩
  | some (.ok a) => exact ⟨nofun, fun h => nomatch h.2⟩
  | some (.error cause') => simp

theorem ignored_eq_some_iff {dir : Path} {cause : Amount.ParseError} :
    (warnings files env).ignored = some (dir, cause) ↔
      IgnoresPageSize files (Config.ofEnvironment env).value dir cause := by
  let c := (Config.ofEnvironment env).value
  show ((readTable? files c).bind (·.find? c.mountPoint)).bind ignoredPageSize? = _ ↔ _
  rw [Option.bind_eq_some_iff]
  constructor
  · rintro ⟨m, hm, hignored⟩
    obtain ⟨table, hread, hfind⟩ := Option.bind_eq_some_iff.mp hm
    obtain ⟨hon, content, hfile, rfl⟩ := readTable?_eq_some_iff.mp hread
    exact ⟨hon, m, ⟨content, hfile, MountTable.find?_eq_some_iff.mp hfind⟩,
      ignoredPageSize?_eq_some_iff.mp hignored⟩
  · rintro ⟨hon, m, ⟨content, hfile, hfirst⟩, hignored⟩
    have hread := readTable?_eq_some_iff.mpr ⟨hon, content, hfile, rfl⟩
    refine ⟨m, ?_, ignoredPageSize?_eq_some_iff.mpr hignored⟩
    exact Option.bind_eq_some_iff.mpr ⟨_, hread, MountTable.find?_eq_some_iff.mpr hfirst⟩

theorem failure?_eq_query_iff {answer : Except QueryError HugePageSize} {cause : QueryError} :
    failure? answer = some (.query cause) ↔ answer = .error cause := by
  match answer with
  | .error cause' => rw [failure?, Option.some.injEq, CallFailure.query.injEq, Except.error.injEq]
  | .ok (.unsupported reason) => exact ⟨nofun, nofun⟩
  | .ok (.available bytes) =>
    rw [failure?]
    split <;> exact ⟨nofun, nofun⟩

theorem failure?_eq_tooWide_iff {answer : Except QueryError HugePageSize} {bytes : UInt64} :
    failure? answer = some (.tooWide bytes) ↔
      answer = .ok (.available bytes) ∧ 2 ^ 63 ≤ bytes.toNat := by
  match answer with
  | .error cause => exact ⟨nofun, nofun⟩
  | .ok (.unsupported reason) => exact ⟨nofun, nofun⟩
  | .ok (.available n) =>
    rw [failure?, Except.ok.injEq, HugePageSize.available.injEq]
    split
    · next hfits =>
      refine ⟨nofun, ?_⟩
      rintro ⟨rfl, hwide⟩
      exact absurd hfits (Nat.not_lt.mpr hwide)
    · next hwide =>
      rw [Option.some.injEq, CallFailure.tooWide.injEq]
      exact ⟨fun h => ⟨h, h ▸ Nat.le_of_not_lt hwide⟩, And.left⟩

theorem isSome_failure?_iff {answer : Except QueryError HugePageSize}
    (h : answer ≠ .ok (.available 0)) :
    (failure? answer).isSome = true ↔ signedAnswer answer = 0 := by
  match answer with
  | .error cause => exact iff_of_true rfl rfl
  | .ok (.unsupported reason) =>
    have hne : hugePagesUnsupported ≠ 0 := by decide
    exact iff_of_false Bool.false_ne_true hne
  | .ok (.available n) =>
    rw [failure?]
    split
    · next hfits =>
      refine iff_of_false Bool.false_ne_true fun hzero => h ?_
      have hvalue := toInt_signedAnswer hfits
      rw [hzero] at hvalue
      have hn : n = 0 := UInt64.toNat_inj.mp (Int.ofNat.inj hvalue).symm
      rw [hn]
    · next hwide => exact iff_of_true rfl (signedAnswer_of_wide (Nat.le_of_not_lt hwide))

theorem value_query_ne_available_zero (system : SystemAnswer) (files : Files) (c : Config) :
    (query system files c).value ≠ .ok (.available 0) := by
  intro h
  obtain ⟨⟨page, -, hpage⟩, -⟩ := of_value_query_available h
  exact absurd (UInt64.lt_iff_toNat_lt.mp hpage) (Nat.not_lt_zero _)

theorem failure_eq_tooWide_iff {bytes : UInt64} :
    (warnings files env).failure = some (.tooWide bytes) ↔ bytes.toNat = 2 ^ 63 ∧
      ∃ a, Source files (Config.ofEnvironment env).value a ∧ a.exactBytes = 2 ^ 63 := by
  show failure? _ = _ ↔ _
  rw [failure?_eq_tooWide_iff, value_query_eq_available_iff]
  constructor
  · rintro ⟨⟨⟨a, ha, hexact⟩, -, k, hk⟩, hwide⟩
    have hbytes := eq_two_pow_of_wide hk hwide
    exact ⟨hbytes, a, ha, hexact.trans hbytes⟩
  · rintro ⟨hbytes, a, ha, hexact⟩
    have hpage : Host.referencePageSize.bytes < bytes := by
      rw [UInt64.lt_iff_toNat_lt, hbytes]
      decide
    exact ⟨⟨⟨a, ha, hexact.trans hbytes.symm⟩, ⟨_, Host.ofSystem_reference, hpage⟩, 63, hbytes⟩,
      Nat.le_of_eq hbytes.symm⟩

/-- The log of one call, and when each part of it is there. -/
theorem exportedHugePageSize_warns (files : Files) (env : Environment) :
    let c := (Config.ofEnvironment env).value
    let call := exportedHugePageSize sound files env
    ∃ w : Warnings, call.notices = w.events ∧
      (∀ value, w.misspelt = some value ↔ Config.Misspelt env value) ∧
      (w.skipped.Pairwise fun s s' => s.number < s'.number) ∧
      (∀ s, s ∈ w.skipped ↔ SkipsLine files c s) ∧
      (∀ dir cause, w.ignored = some (dir, cause) ↔ IgnoresPageSize files c dir cause) ∧
      (w.failure.isSome = true ↔ call.value = 0) ∧
      (∀ cause, w.failure = some (.query cause) ↔
        (query .reference files c).value = .error cause) ∧
      ∀ bytes, w.failure = some (.tooWide bytes) ↔ bytes.toNat = 2 ^ 63 ∧
        ∃ a, Source files c a ∧ a.exactBytes = 2 ^ 63 := by
  intro c call
  have hanswer : call.value = signedAnswer (query .reference files c).value :=
    value_exportedHugePageSize files env .reference
  refine ⟨warnings files env, notices_exportedHugePageSize files env,
    fun value => Config.misspelt?_eq_some_iff, pairwise_skipped files env,
    fun s => mem_skipped_iff, fun dir cause => ignored_eq_some_iff, ?_,
    fun cause => failure?_eq_query_iff, fun bytes => failure_eq_tooWide_iff⟩
  rw [hanswer]
  exact isSome_failure?_iff (value_query_ne_available_zero .reference files c)

end MemoryProbe.Native
