import MemoryProbe.Proofs.HugePage.Validation
import MemoryProbe.Proofs.Native.Sentinel
import MemoryProbe.Report

/-! Any host, real or not, reported directly and by way of its signed answers. The second report is
the first one narrowed: a size that a positive answer of its width can name is kept, the lack of
huge pages is kept without its reason, and everything else is told as a failed query. -/

namespace MemoryProbe

namespace Native

def answers (host : Host) : Results where
  pageSize := (pageSize host).value
  addressSize := (addressSize host).value
  hugePageSize := (hugePageSize host).value

def signedWord (n : UInt64) : Int32 := (toInt32? n).getD queryFailed

theorem value_pageSize (host : Host) :
    (pageSize host).value = match host.pageSize.value with
      | .ok page => signedWord page.bytes
      | .error _ => queryFailed := by
  rw [pageSize, Logged.value_bind]
  cases host.pageSize.value with
  | error cause => rfl
  | ok page =>
    dsimp only [signedWord]
    cases toInt32? page.bytes <;> rfl

theorem value_addressSize (host : Host) :
    (addressSize host).value = signedWord host.addressSize := by
  unfold addressSize signedWord
  cases toInt32? host.addressSize <;> rfl

theorem toInt_signedWord {n : UInt64} (h : n.toNat < 2 ^ 31) : (signedWord n).toInt = n.toNat := by
  have hword : toInt32? n = some (Int32.ofNat n.toNat) := if_pos h
  rw [signedWord, hword, Option.getD_some, Int32.toInt_ofNat_of_lt h]

theorem signedWord_of_wide {n : UInt64} (h : 2 ^ 31 ≤ n.toNat) : signedWord n = queryFailed := by
  have hword : toInt32? n = none := if_neg (Nat.not_lt.mpr h)
  rw [signedWord, hword, Option.getD_none]

theorem signedAnswer_available_ne_unsupported (bytes : UInt64) :
    signedAnswer (.ok (.available bytes)) ≠ hugePagesUnsupported := by
  intro h
  obtain hfits | hwide := Nat.lt_or_ge bytes.toNat (2 ^ 63)
  · have hvalue := toInt_signedAnswer hfits
    rw [h] at hvalue
    exact absurd (hvalue.symm ▸ Int.natCast_nonneg bytes.toNat) (by decide)
  · exact absurd ((signedAnswer_of_wide hwide).symm.trans h) (by decide)

theorem signedAnswer_eq_unsupported_iff {answer : Except QueryError HugePageSize} :
    signedAnswer answer = hugePagesUnsupported ↔ ∃ reason, answer = .ok (.unsupported reason) := by
  constructor
  · intro h
    match answer with
    | .error cause =>
      have h : hugePageQueryFailed = hugePagesUnsupported := h
      exact absurd h (by decide)
    | .ok (.available bytes) => exact absurd h (signedAnswer_available_ne_unsupported bytes)
    | .ok (.unsupported reason) => exact ⟨reason, rfl⟩
  · rintro ⟨reason, rfl⟩
    rfl

end Native

namespace Report
open Native

variable {what : Quantity} {given : Except Failure UInt64} {pages : HugePages} {n : UInt64}

def narrowSize (what : Quantity) : Except Failure UInt64 → Except Failure UInt64
  | .ok n => if 1 ≤ n.toNat ∧ n.toNat < 2 ^ 31 then .ok n else .error (.queryFailed what)
  | .error _ => .error (.queryFailed what)

def HugePages.narrow : HugePages → HugePages
  | available bytes =>
    if 1 ≤ bytes.toNat ∧ bytes.toNat < 2 ^ 63 then available bytes
    else failed (.queryFailed .hugePageSize)
  | unsupported _ => unsupported none
  | failed _ => failed (.queryFailed .hugePageSize)

def narrow (r : Report) : Report where
  pageSize := narrowSize .pageSize r.pageSize
  addressSize := narrowSize .addressSize r.addressSize
  hugePageSize := r.hugePageSize.narrow

/-! What narrowing keeps. -/

theorem narrowSize_eq_ok_iff :
    narrowSize what given = .ok n ↔ given = .ok n ∧ 1 ≤ n.toNat ∧ n.toNat < 2 ^ 31 := by
  cases given with
  | error f => exact ⟨nofun, nofun⟩
  | ok m =>
    rw [narrowSize]
    split
    · next h =>
      rw [Except.ok.injEq]
      exact ⟨fun e => ⟨e, e ▸ h⟩, And.left⟩
    · next h =>
      rw [Except.ok.injEq]
      exact ⟨nofun, fun hn => absurd (hn.1 ▸ hn.2) h⟩

theorem narrowSize_eq_error_iff {f : Failure} :
    narrowSize what given = .error f ↔
      f = .queryFailed what ∧ ¬∃ n, given = .ok n ∧ 1 ≤ n.toNat ∧ n.toNat < 2 ^ 31 := by
  cases given with
  | error cause =>
    rw [narrowSize, Except.error.injEq]
    exact ⟨fun e => ⟨e.symm, nofun⟩, fun e => e.1.symm⟩
  | ok m =>
    rw [narrowSize]
    split
    · next h => exact ⟨nofun, fun e => absurd ⟨m, rfl, h⟩ e.2⟩
    · next h =>
      rw [Except.error.injEq]
      refine ⟨fun e => ⟨e.symm, ?_⟩, fun e => e.1.symm⟩
      rintro ⟨n, hn, hfits⟩
      exact h (Except.ok.inj hn ▸ hfits)

theorem HugePages.narrow_eq_available_iff :
    pages.narrow = .available n ↔ pages = .available n ∧ 1 ≤ n.toNat ∧ n.toNat < 2 ^ 63 := by
  cases pages with
  | unsupported reason => exact ⟨nofun, nofun⟩
  | failed f => exact ⟨nofun, nofun⟩
  | available m =>
    rw [narrow]
    split
    · next h =>
      rw [available.injEq]
      exact ⟨fun e => ⟨e, e ▸ h⟩, And.left⟩
    · next h =>
      rw [available.injEq]
      exact ⟨nofun, fun hn => absurd (hn.1 ▸ hn.2) h⟩

theorem HugePages.narrow_eq_unsupported_iff {told : Option UnsupportedReason} :
    pages.narrow = .unsupported told ↔ told = none ∧ ∃ reason, pages = .unsupported reason := by
  cases pages with
  | unsupported reason =>
    rw [narrow, unsupported.injEq]
    exact ⟨fun e => ⟨e.symm, reason, rfl⟩, fun e => e.1.symm⟩
  | failed f => exact ⟨nofun, nofun⟩
  | available m =>
    rw [narrow]
    split <;> exact ⟨nofun, nofun⟩

theorem HugePages.narrow_eq_failed_iff {f : Failure} :
    pages.narrow = .failed f ↔ f = .queryFailed .hugePageSize ∧
      ¬(∃ reason, pages = .unsupported reason) ∧
      ¬∃ n, pages = .available n ∧ 1 ≤ n.toNat ∧ n.toNat < 2 ^ 63 := by
  cases pages with
  | unsupported reason => exact ⟨nofun, fun e => absurd ⟨reason, rfl⟩ e.2.1⟩
  | failed cause =>
    rw [narrow, failed.injEq]
    exact ⟨fun e => ⟨e.symm, nofun, nofun⟩, fun e => e.1.symm⟩
  | available m =>
    rw [narrow]
    split
    · next h => exact ⟨nofun, fun e => absurd ⟨m, rfl, h⟩ e.2.2⟩
    · next h =>
      rw [failed.injEq]
      refine ⟨fun e => ⟨e.symm, nofun, ?_⟩, fun e => e.1.symm⟩
      rintro ⟨n, hn, hfits⟩
      exact h (available.inj hn ▸ hfits)

theorem eq_queryFailed_of_mem_failures_narrow {r : Report} {f : Failure}
    (h : f ∈ r.narrow.failures) : ∃ what, f = .queryFailed what := by
  have hsize (what : Quantity) (given : Except Failure UInt64)
      (h : f ∈ sizeFailure (narrowSize what given)) : f = .queryFailed what := by
    cases hn : narrowSize what given with
    | ok n =>
      rw [hn] at h
      exact nomatch h
    | error cause =>
      rw [hn] at h
      exact (List.mem_singleton.mp h).trans (narrowSize_eq_error_iff.mp hn).1
  have hpages (h : f ∈ r.hugePageSize.narrow.failure) : f = .queryFailed .hugePageSize := by
    cases hn : r.hugePageSize.narrow with
    | available bytes =>
      rw [hn] at h
      exact nomatch h
    | unsupported reason =>
      rw [hn] at h
      exact nomatch h
    | failed cause =>
      rw [hn] at h
      exact (List.mem_singleton.mp h).trans (HugePages.narrow_eq_failed_iff.mp hn).1
  obtain h | h := List.mem_append.mp h
  · obtain h | h := List.mem_append.mp h
    · exact ⟨_, hsize _ _ h⟩
    · exact ⟨_, hsize _ _ h⟩
  · exact ⟨_, hpages h⟩

/-! Reading a signed answer again narrows what was to be told. -/

theorem ofSigned_signedWord (what : Quantity) (n : UInt64) :
    ofSigned what (signedWord n).toInt = narrowSize what (.ok n) := by
  rw [narrowSize]
  split
  · next h =>
    have hpos : (n.toNat : Int) ≠ queryFailed.toInt := by
      intro hzero
      exact absurd (Int.ofNat.inj hzero) (Nat.ne_of_gt h.1)
    rw [ofSigned, toInt_signedWord h.2, if_neg hpos,
      if_neg (Int.not_lt.mpr (Int.natCast_nonneg _)), Int.toNat_natCast, UInt64.ofNat_toNat]
  · next h =>
    -- zero is the sentinel itself, and what is too wide is answered with it
    have hfailed : signedWord n = queryFailed := by
      obtain hfits | hwide := Nat.lt_or_ge n.toNat (2 ^ 31)
      · have hzero : n.toNat = 0 := Nat.eq_zero_of_not_pos fun hpos => h ⟨hpos, hfits⟩
        rw [← Int32.toInt_inj, toInt_signedWord hfits, hzero]
        rfl
      · exact signedWord_of_wide hwide
    rw [hfailed]
    rfl

theorem hugePagesOfSigned_wide {bytes : UInt64} (h : 2 ^ 63 ≤ bytes.toNat) :
    hugePagesOfSigned (signedAnswer (.ok (.available bytes))) =
      .failed (.queryFailed .hugePageSize) := by
  rw [signedAnswer_of_wide h]
  rfl

theorem hugePagesOfSigned_available {bytes : UInt64} (hpos : 0 < bytes.toNat)
    (h : bytes.toNat < 2 ^ 63) :
    hugePagesOfSigned (signedAnswer (.ok (.available bytes))) = .available bytes := by
  have hvalue := toInt_signedAnswer h
  have hne (k : Int64) (hk : k.toInt ≤ 0) :
      signedAnswer (.ok (.available bytes)) ≠ k := by
    rintro rfl
    omega
  have hneg : ¬signedAnswer (.ok (.available bytes)) < 0 := by
    rw [Int64.lt_iff_toInt_lt, hvalue]
    exact Int.not_lt.mpr (Int.natCast_nonneg _)
  rw [hugePagesOfSigned, if_neg (hne _ (by decide)), if_neg (hne _ (by decide)), if_neg hneg,
    signedAnswer, toInt64?_of_lt h, Option.getD_some, Int64.toUInt64_ofNat', UInt64.ofNat_toNat]

theorem hugePagesOfSigned_signedAnswer (answer : Except QueryError HugePageSize) :
    hugePagesOfSigned (signedAnswer answer) = (hugePagesOfAnswer answer).narrow := by
  match answer with
  | .error cause => rfl
  | .ok (.unsupported reason) => rfl
  | .ok (.available bytes) =>
    rw [hugePagesOfAnswer, HugePages.narrow]
    split
    · next h => exact hugePagesOfSigned_available h.1 h.2
    · next h =>
      obtain hfits | hwide := Nat.lt_or_ge bytes.toNat (2 ^ 63)
      · have hzero : bytes.toNat = 0 := Nat.eq_zero_of_not_pos fun hpos => h ⟨hpos, hfits⟩
        obtain rfl : bytes = 0 := UInt64.toNat_inj.mp hzero
        rfl
      · exact hugePagesOfSigned_wide hwide

theorem ofResults_answers (host : Host) :
    ofResults (answers host) = (ofHost host).value.narrow := by
  have hpage : ofSigned .pageSize (Native.pageSize host).value.toInt =
      narrowSize .pageSize (ofHost host).value.pageSize := by
    rw [value_pageSize]
    show _ = narrowSize .pageSize ((host.pageSize.value.map PageSize.bytes).mapError Failure.query)
    cases host.pageSize.value with
    | error cause => rfl
    | ok page => exact ofSigned_signedWord .pageSize page.bytes
  have haddress : ofSigned .addressSize (Native.addressSize host).value.toInt =
      narrowSize .addressSize (ofHost host).value.addressSize := by
    rw [value_addressSize]
    exact ofSigned_signedWord .addressSize host.addressSize
  have hpages : hugePagesOfSigned (Native.hugePageSize host).value =
      (ofHost host).value.hugePageSize.narrow := by
    rw [value_hugePageSize]
    exact hugePagesOfSigned_signedAnswer host.hugePageSize.value
  rw [ofResults, narrow, ← hpage, ← haddress, ← hpages]
  rfl

theorem value_results (files : Files) (env : Environment) (system : SystemAnswer) :
    (results sound files env system).value =
      answers (.ofConfig files (Config.ofEnvironment env).value system) := by
  unfold results exportedPageSize exportedAddressSize exportedHugePageSize
  rw [guarded_sound, guarded_sound, guarded_sound]
  rfl

/-- The report by way of the natives is the direct one, narrowed. -/
theorem ofResults_results (files : Files) (env : Environment) (system : SystemAnswer) :
    ofResults (results sound files env system).value =
      (ofEnvironment files env system).value.narrow := by
  rw [value_results, ofResults_answers]
  rfl

theorem toNat_pos_of_pageSize {host : Host} (h : (ofHost host).value.pageSize = .ok n) :
    1 ≤ n.toNat := by
  have h : (host.pageSize.value.map PageSize.bytes).mapError Failure.query = .ok n := h
  cases hpage : host.pageSize.value with
  | error cause =>
    rw [hpage] at h
    exact nomatch h
  | ok page =>
    rw [hpage] at h
    obtain rfl : page.bytes = n := Except.ok.inj h
    exact page.toNat_bytes_pos

/-- What the signed answers of a host tell, against what the host itself tells. -/
theorem ofResults_answers_iff (host : Host) :
    let direct := (ofHost host).value
    let signed := ofResults (answers host)
    (∀ n, signed.pageSize = .ok n ↔ direct.pageSize = .ok n ∧ n.toNat < 2 ^ 31) ∧
      (∀ f, signed.pageSize = .error f ↔ f = .queryFailed .pageSize ∧
        ¬∃ n, direct.pageSize = .ok n ∧ n.toNat < 2 ^ 31) ∧
      (∀ n, signed.addressSize = .ok n ↔
        host.addressSize = n ∧ 1 ≤ n.toNat ∧ n.toNat < 2 ^ 31) ∧
      (∀ f, signed.addressSize = .error f ↔ f = .queryFailed .addressSize ∧
        ¬(1 ≤ host.addressSize.toNat ∧ host.addressSize.toNat < 2 ^ 31)) ∧
      (∀ told, signed.hugePageSize = .unsupported told ↔
        told = none ∧ ∃ reason, direct.hugePageSize = .unsupported reason) ∧
      (∀ n, signed.hugePageSize = .available n ↔
        direct.hugePageSize = .available n ∧ 1 ≤ n.toNat ∧ n.toNat < 2 ^ 63) ∧
      (∀ f, signed.hugePageSize = .failed f ↔ f = .queryFailed .hugePageSize ∧
        ¬(∃ reason, direct.hugePageSize = .unsupported reason) ∧
        ¬∃ n, direct.hugePageSize = .available n ∧ 1 ≤ n.toNat ∧ n.toNat < 2 ^ 63) ∧
      (∀ what value, .unexpected what value ∉ signed.failures) ∧
      ((answers host).hugePageSize = -1 ↔
        ∃ reason, host.hugePageSize.value = .ok (.unsupported reason)) := by
  intro direct signed
  have hsigned : signed = direct.narrow := ofResults_answers host
  have hpos : ∀ n, direct.pageSize = .ok n ∧ 1 ≤ n.toNat ∧ n.toNat < 2 ^ 31 ↔
      direct.pageSize = .ok n ∧ n.toNat < 2 ^ 31 := fun n =>
    and_congr_right fun hn => and_iff_right (toNat_pos_of_pageSize hn)
  have haddress : direct.addressSize = .ok host.addressSize := rfl
  rw [hsigned]
  refine ⟨fun n => narrowSize_eq_ok_iff.trans (hpos n), fun f => ?_, fun n => ?_, fun f => ?_,
    fun told => HugePages.narrow_eq_unsupported_iff, fun n => HugePages.narrow_eq_available_iff,
    fun f => HugePages.narrow_eq_failed_iff, fun what value hmem => ?_, ?_⟩
  · simp only [← hpos]
    exact narrowSize_eq_error_iff
  · rw [narrow, haddress, narrowSize_eq_ok_iff, Except.ok.injEq]
  · rw [narrow, haddress, narrowSize_eq_error_iff]
    simp only [Except.ok.injEq, exists_eq_left']
  · obtain ⟨what', h⟩ := eq_queryFailed_of_mem_failures_narrow hmem
    exact nomatch h
  · rw [answers, value_hugePageSize]
    exact signedAnswer_eq_unsupported_iff

end Report
end MemoryProbe
