import Mathlib.Algebra.Group.Nat.Defs
import MemoryProbe.HugePage.Query

/-! The test of the single bit picks the powers of two, and an amount that was read never saturates,
so a size is judged by its exact number of bytes. -/

namespace MemoryProbe

theorem isPowerOfTwo_iff {n : UInt64} : IsPowerOfTwo n ↔ ∃ k, n.toNat = 2 ^ k := by
  have h := Nat.ne_zero_and_sub_one_eq_zero_iff_isPowerOfTwo (n := n.toNat)
  have hzero : n = 0 ↔ n.toNat = 0 := UInt64.toNat_inj.symm
  rw [Nat.isPowerOfTwo] at h
  rw [← h, IsPowerOfTwo, ne_eq, hzero]
  refine and_congr_right fun hn => ?_
  have hle : (1 : UInt64) ≤ n := by
    rw [UInt64.le_iff_toNat_le]
    exact Nat.one_le_iff_ne_zero.mpr hn
  rw [← UInt64.toNat_inj, UInt64.toNat_and, UInt64.toNat_sub_of_le _ _ hle]
  rfl

theorem eq_two_pow_of_wide {bytes : UInt64} {k : Nat} (hk : bytes.toNat = 2 ^ k)
    (hwide : 2 ^ 63 ≤ bytes.toNat) : bytes.toNat = 2 ^ 63 := by
  have hlt : bytes.toNat < 2 ^ 64 := bytes.toNat_lt
  rw [hk] at hwide hlt ⊢
  have hle : 63 ≤ k := (Nat.pow_le_pow_iff_right Nat.one_lt_two).mp hwide
  have hlt : k < 64 := (Nat.pow_lt_pow_iff_right Nat.one_lt_two).mp hlt
  rw [Nat.le_antisymm (Nat.le_of_lt_succ hlt) hle]

theorem PageSize.toNat_bytes_pos (p : PageSize) : 0 < p.bytes.toNat := by
  obtain ⟨k, hk⟩ := isPowerOfTwo_iff.mp p.isPowerOfTwo
  exact hk ▸ Nat.two_pow_pos k

namespace Amount

theorem parse_eq_ok {s : Text} {a : Amount} (h : parse s = .ok a) : a.exactBytes ≤ limit := by
  simp only [parse] at h
  split at h
  · exact nomatch h
  split at h
  · exact nomatch h
  split at h
  · exact nomatch h
  split at h
  · next hle =>
    rw [← Except.ok.inj h]
    exact hle
  · exact nomatch h

theorem toNat_bytes_of_parse {s : Text} {a : Amount} (h : parse s = .ok a) :
    a.bytes.toNat = a.exactBytes := by
  rw [toNat_bytes, Nat.min_eq_left (parse_eq_ok h)]

end Amount

namespace HugePage

theorem validate_eq_ok_iff {page : PageSize} {a : Amount} {s : HugePageSize} :
    validate page a = .ok s ↔
      s = .available a.bytes ∧ page.bytes < a.bytes ∧ ∃ k, a.bytes.toNat = 2 ^ k := by
  unfold validate
  rw [← isPowerOfTwo_iff]
  split
  · next h =>
    rw [Except.ok.injEq]
    exact ⟨fun hs => ⟨hs.symm, h.2, h.1⟩, fun hs => hs.1.symm⟩
  · next h =>
    exact ⟨nofun, fun hs => absurd ⟨hs.2.2, hs.2.1⟩ h⟩

theorem validate_eq_error_iff {page : PageSize} {a : Amount} {cause : QueryError} :
    validate page a = .error cause ↔ cause = .invalidHugePageSize a.bytes page.bytes ∧
      ¬(page.bytes < a.bytes ∧ ∃ k, a.bytes.toNat = 2 ^ k) := by
  unfold validate
  rw [← isPowerOfTwo_iff]
  split
  · next h => exact ⟨nofun, fun hs => absurd ⟨h.2, h.1⟩ hs.2⟩
  · next h =>
    rw [Except.error.injEq]
    exact ⟨fun hs => ⟨hs.symm, fun hn => h ⟨hn.2, hn.1⟩⟩, fun hs => hs.1.symm⟩

end HugePage
end MemoryProbe
