import Mathlib.Data.Nat.Prime.Basic
import MemoryProbe.Proofs.Report.Narrowing

/-! The gates that a size passes on its way to an answer. The page size of a host is a power of two
that a signed 64-bit number can name, and it is answered if a signed 32-bit number can name it too. A
huge page size is a power of two above the page size. An amount that was read has its exact size,
and its unit is a power of two, so the gate judges it by its number. -/

namespace MemoryProbe

theorem eq_two_pow_of_toInt {b : Int64} {n k : Nat} (h : (n : Int) = b.toInt)
    (hb : b.toInt = 2 ^ k) : n = 2 ^ k :=
  Int.ofNat.inj (h.trans (hb.trans (Int.natCast_pow 2 k).symm))

namespace PageSize
variable {b : Int64} {p : PageSize} {cause : QueryError}

theorem toNat_toUInt64 (h : 0 < b) : (b.toUInt64.toNat : Int) = b.toInt := by
  have hle : 0 ≤ b := Int64.le_of_lt h
  rw [Int64.toNat_toUInt64_of_le hle, Int64.toInt_eq_toNatClampNeg hle]

theorem ofInt64?_eq_some_iff : ofInt64? b = some p ↔ (p.bytes.toNat : Int) = b.toInt := by
  unfold ofInt64?
  constructor
  · intro h
    split at h
    · next hgate =>
      rw [← Option.some.inj h]
      exact toNat_toUInt64 hgate.1
    · exact nomatch h
  · intro h
    have hpos : 0 < b := by
      rw [Int64.lt_iff_toInt_lt, ← h]
      exact Int.natCast_pos.mpr p.toNat_bytes_pos
    have hbytes : b.toUInt64 = p.bytes :=
      UInt64.toNat_inj.mp (Int.ofNat.inj ((toNat_toUInt64 hpos).trans h.symm))
    rw [dif_pos ⟨hpos, hbytes ▸ p.isPowerOfTwo⟩, Option.some.injEq, PageSize.mk.injEq]
    exact hbytes

theorem exists_toNat_bytes_eq_iff :
    (∃ p : PageSize, (p.bytes.toNat : Int) = b.toInt) ↔ ∃ k ≤ 62, b.toInt = 2 ^ k := by
  constructor
  · rintro ⟨p, hp⟩
    obtain ⟨k, hk⟩ := isPowerOfTwo_iff.mp p.isPowerOfTwo
    rw [hk] at hp
    have hlt : 2 ^ k < 2 ^ 63 := Int.ofNat_lt.mp (hp ▸ b.toInt_lt)
    have hk : k < 63 := (Nat.pow_lt_pow_iff_right Nat.one_lt_two).mp hlt
    exact ⟨k, Nat.le_of_lt_succ hk, hp.symm.trans (Int.natCast_pow 2 k)⟩
  · rintro ⟨k, -, hb⟩
    have hpos : 0 < b := by
      rw [Int64.lt_iff_toInt_lt, hb]
      exact Int.pow_pos (by decide)
    have hvalue := toNat_toUInt64 hpos
    have htwo : b.toUInt64.toNat = 2 ^ k := eq_two_pow_of_toInt hvalue hb
    exact ⟨⟨b.toUInt64, isPowerOfTwo_iff.mpr ⟨k, htwo⟩⟩, hvalue⟩

theorem ofInt64_eq_ok_iff : ofInt64 b = .ok p ↔ (p.bytes.toNat : Int) = b.toInt := by
  rw [← ofInt64?_eq_some_iff, ofInt64]
  cases ofInt64? b with
  | none => exact ⟨nofun, nofun⟩
  | some q => rw [Except.ok.injEq, Option.some.injEq]

theorem exists_ofInt64_eq_ok_iff : (∃ p, ofInt64 b = .ok p) ↔ ∃ k ≤ 62, b.toInt = 2 ^ k := by
  rw [← exists_toNat_bytes_eq_iff]
  exact exists_congr fun p => ofInt64_eq_ok_iff

theorem ofInt64_eq_error_iff : ofInt64 b = .error cause ↔
    cause = .invalidPageSize b ∧ ¬∃ k ≤ 62, b.toInt = 2 ^ k := by
  rw [← exists_ofInt64_eq_ok_iff, ofInt64]
  cases ofInt64? b with
  | none =>
    rw [Except.error.injEq]
    exact ⟨fun h => ⟨h.symm, nofun⟩, fun h => h.1.symm⟩
  | some q => exact ⟨nofun, fun h => absurd ⟨q, rfl⟩ h.2⟩

end PageSize

namespace Native
variable {host : Host} {b : Int64} {k : Nat}

theorem value_pageSize_of_two_pow (hhost : host.pageSize.value = PageSize.ofInt64 b) (hk : k ≤ 62)
    (hb : b.toInt = 2 ^ k) :
    ((pageSize host).value.toInt = b.toInt ↔ k ≤ 30) ∧ ((pageSize host).value = 0 ↔ 30 < k) := by
  obtain ⟨p, hp⟩ := PageSize.exists_ofInt64_eq_ok_iff.mpr ⟨k, hk, hb⟩
  have hbytes : (p.bytes.toNat : Int) = b.toInt := PageSize.ofInt64_eq_ok_iff.mp hp
  have htwo : p.bytes.toNat = 2 ^ k := eq_two_pow_of_toInt hbytes hb
  have hvalue : (pageSize host).value = signedWord p.bytes := by
    rw [value_pageSize, hhost, hp]
  have hne : b.toInt ≠ 0 := by
    rw [hb]
    exact (Int.pow_pos (by decide)).ne'
  by_cases hle : k ≤ 30
  · have hfits : p.bytes.toNat < 2 ^ 31 := by
      rw [htwo]
      exact Nat.pow_lt_pow_right Nat.one_lt_two (Nat.lt_succ_of_le hle)
    have hanswer : (pageSize host).value.toInt = b.toInt := by
      rw [hvalue, toInt_signedWord hfits, hbytes]
    refine ⟨iff_of_true hanswer hle, iff_of_false (fun h => ?_) (Nat.not_lt.mpr hle)⟩
    rw [h] at hanswer
    exact hne hanswer.symm
  · have hlt : 30 < k := Nat.lt_of_not_le hle
    have hwide : 2 ^ 31 ≤ p.bytes.toNat := by
      rw [htwo]
      exact Nat.pow_le_pow_right Nat.two_pos hlt
    have hanswer : (pageSize host).value = 0 := hvalue.trans (signedWord_of_wide hwide)
    refine ⟨iff_of_false (fun h => ?_) hle, iff_of_true hanswer hlt⟩
    rw [hanswer] at h
    exact hne h.symm

theorem value_pageSize_of_not_two_pow (hhost : host.pageSize.value = PageSize.ofInt64 b)
    (hb : ¬∃ k ≤ 62, b.toInt = 2 ^ k) : (pageSize host).value = 0 := by
  rw [value_pageSize, hhost, PageSize.ofInt64_eq_error_iff.mpr ⟨rfl, hb⟩]
  rfl

end Native

namespace HugePage
variable {page : PageSize} {s : Text} {a : Amount} {p : Nat}

theorem exists_mul_two_pow_eq_iff {n e : Nat} :
    (∃ j, n * 2 ^ e = 2 ^ j ∧ p < j) ↔ ∃ k, n = 2 ^ k ∧ p < k + e := by
  constructor
  · rintro ⟨j, hj, hp⟩
    obtain ⟨k, -, rfl⟩ := (Nat.dvd_prime_pow Nat.prime_two).mp (Dvd.intro _ hj)
    rw [← Nat.pow_add] at hj
    rw [← Nat.pow_right_injective (Nat.le_refl 2) hj] at hp
    exact ⟨k, rfl, hp⟩
  · rintro ⟨k, rfl, hp⟩
    exact ⟨k + e, (Nat.pow_add 2 k e).symm, hp⟩

theorem toNat_bytes_eq_mul_of_parse (h : Amount.parse s = .ok a) :
    a.bytes.toNat = a.number.toNat * 2 ^ a.unit.exponent := by
  rw [Amount.toNat_bytes_of_parse h, Amount.exactBytes, Nat.shiftLeft_eq]

theorem passes_iff_of_parse (h : Amount.parse s = .ok a) (hpage : page.bytes.toNat = 2 ^ p) :
    (page.bytes < a.bytes ∧ ∃ j, a.bytes.toNat = 2 ^ j) ↔
      ∃ k, a.number.toNat = 2 ^ k ∧ p < k + a.unit.exponent := by
  rw [← exists_mul_two_pow_eq_iff, ← toNat_bytes_eq_mul_of_parse h, ← exists_and_left]
  refine exists_congr fun j => and_comm.trans (and_congr_right fun hj => ?_)
  rw [UInt64.lt_iff_toNat_lt, hpage, hj, Nat.pow_lt_pow_iff_right Nat.one_lt_two]

end HugePage

/-- Which numbers a host may name its page size by and which of them are answered, and which
amounts are huge page sizes. Whatever is refused is named in full. -/
theorem size_gates :
    (∀ b : Int64,
      (∀ p, PageSize.ofInt64 b = .ok p ↔ (p.bytes.toNat : Int) = b.toInt) ∧
      ((∃ p, PageSize.ofInt64 b = .ok p) ↔ ∃ k ≤ 62, b.toInt = 2 ^ k) ∧
      ∀ cause, PageSize.ofInt64 b = .error cause ↔
        cause = .invalidPageSize b ∧ ¬∃ k ≤ 62, b.toInt = 2 ^ k) ∧
    (∀ (host : Host) (b : Int64), host.pageSize.value = PageSize.ofInt64 b →
      let n := (Native.pageSize host).value
      (∀ k ≤ 62, b.toInt = 2 ^ k → (n.toInt = b.toInt ↔ k ≤ 30) ∧ (n = 0 ↔ 30 < k)) ∧
        ((¬∃ k ≤ 62, b.toInt = 2 ^ k) → n = 0)) ∧
    ∀ (s : Text) (a : Amount) (page : PageSize) (p : Nat), Amount.parse s = .ok a →
      page.bytes.toNat = 2 ^ p →
      ∃ size : UInt64, size.toNat = a.number.toNat * 2 ^ a.unit.exponent ∧
        (∀ answer, HugePage.validate page a = .ok answer ↔ answer = .available size ∧
          ∃ k, a.number.toNat = 2 ^ k ∧ p < k + a.unit.exponent) ∧
        ∀ cause, HugePage.validate page a = .error cause ↔
          cause = .invalidHugePageSize size page.bytes ∧
            ¬∃ k, a.number.toNat = 2 ^ k ∧ p < k + a.unit.exponent := by
  refine ⟨fun b => ⟨fun p => PageSize.ofInt64_eq_ok_iff, PageSize.exists_ofInt64_eq_ok_iff,
    fun cause => PageSize.ofInt64_eq_error_iff⟩, fun host b hhost => ?_,
    fun s a page p hs hpage => ?_⟩
  · exact ⟨fun k hk hb => Native.value_pageSize_of_two_pow hhost hk hb,
      Native.value_pageSize_of_not_two_pow hhost⟩
  · have hpasses := HugePage.passes_iff_of_parse hs hpage
    refine ⟨a.bytes, HugePage.toNat_bytes_eq_mul_of_parse hs, fun answer => ?_, fun cause => ?_⟩
    · rw [HugePage.validate_eq_ok_iff, hpasses]
    · rw [HugePage.validate_eq_error_iff, hpasses]

theorem size_gates_wide_page :
    let b : Int64 := 0x80000000
    let page : PageSize := ⟨0x80000000, by decide⟩
    let host : Host := ⟨pure (PageSize.ofInt64 b), 8, pure (.error .pageSizeUndefined)⟩
    let s := "4 GiB".toList
    let a : Amount := ⟨4, .gigabytes⟩
    host.pageSize.value = PageSize.ofInt64 b ∧ b.toInt = 2 ^ 31 ∧
      (Native.pageSize host).value = 0 ∧ Amount.parse s = .ok a ∧ page.bytes.toNat = 2 ^ 31 ∧
      HugePage.validate page a = .ok (.available 0x100000000) := by
  intro b page host s a
  have hb : b.toInt = 2 ^ 31 := by decide
  have hs : Amount.parse s = .ok a := by decide +kernel
  have hpage : page.bytes.toNat = 2 ^ 31 := by decide
  have hanswer := ((size_gates.2.1 host b rfl).1 31 (by decide) hb).2.mpr (by decide)
  obtain ⟨size, hsize, hok, -⟩ := size_gates.2.2 s a page 31 hs hpage
  obtain rfl : size = 0x100000000 := UInt64.toNat_inj.mp (hsize.trans (by decide))
  exact ⟨rfl, hb, hanswer, hs, hpage, (hok _).mpr ⟨rfl, 2, by decide, by decide⟩⟩

end MemoryProbe
