import Mathlib.Algebra.Group.Int.Defs
import MemoryProbe.Proofs.HugePage.Sources
import MemoryProbe.Proofs.Native.Sentinel

/-! The huge page native, for every state of the files and every environment. It answers minus one
where something is lacking, the size where the source gives a power of two that a positive answer
can name, and zero where something is broken or the source gives any other amount. -/

namespace MemoryProbe.Native
open HugePage

variable {files : Files} {c : Config} {a : Amount}

def Nameable (a : Amount) : Prop := ∃ e, 13 ≤ e ∧ e ≤ 62 ∧ a.exactBytes = 2 ^ e

theorem value_hugePageSize_ofConfig (files : Files) (c : Config) :
    (hugePageSize (.ofConfig files c)).value = signedAnswer (match (amount files c).value with
      | .error e => e.answer
      | .ok a => validate Host.referencePageSize a) := by
  have hverdict : verdict .reference = validate Host.referencePageSize := by
    funext a
    rw [verdict, Host.ofSystem_reference]
    rfl
  rw [value_hugePageSize, ← hverdict]
  exact congrArg signedAnswer (value_query .reference files c)

theorem value_hugePageSize_of_lacking {reason : UnsupportedReason} (h : Lacking files c reason) :
    (hugePageSize (.ofConfig files c)).value = hugePagesUnsupported := by
  rw [value_hugePageSize_ofConfig, value_amount_of_lacking h]
  rfl

theorem value_hugePageSize_of_broken (h : Broken files c) :
    (hugePageSize (.ofConfig files c)).value = hugePageQueryFailed := by
  obtain ⟨cause, hc⟩ := value_amount_of_broken h
  rw [value_hugePageSize_ofConfig, hc]
  rfl

theorem toInt_value_hugePageSize_of_source {e : Nat} (h : Source files c a) (hlow : 13 ≤ e)
    (hhigh : e ≤ 62) (ha : a.exactBytes = 2 ^ e) :
    (hugePageSize (.ofConfig files c)).value.toInt = 2 ^ e := by
  obtain ⟨s, hs⟩ := h.exists_parse
  have hbytes : a.bytes.toNat = 2 ^ e := (Amount.toNat_bytes_of_parse hs).trans ha
  have hpage : Host.referencePageSize.bytes < a.bytes := by
    rw [UInt64.lt_iff_toNat_lt, hbytes]
    exact Nat.pow_lt_pow_right Nat.one_lt_two hlow
  have hwide : a.bytes.toNat < 2 ^ 63 := by
    rw [hbytes]
    exact Nat.pow_lt_pow_right Nat.one_lt_two (Nat.lt_succ_of_le hhigh)
  have hvalid : validate Host.referencePageSize a = .ok (.available a.bytes) :=
    validate_eq_ok_iff.mpr ⟨rfl, hpage, e, hbytes⟩
  rw [value_hugePageSize_ofConfig, value_amount_of_source h]
  show (signedAnswer (validate Host.referencePageSize a)).toInt = _
  rw [hvalid, toInt_signedAnswer hwide, hbytes]
  exact Int.natCast_pow 2 e

theorem value_hugePageSize_of_not_nameable (h : Source files c a) (hn : ¬Nameable a) :
    (hugePageSize (.ofConfig files c)).value = hugePageQueryFailed := by
  obtain ⟨s, hs⟩ := h.exists_parse
  rw [value_hugePageSize_ofConfig, value_amount_of_source h]
  show signedAnswer (validate Host.referencePageSize a) = _
  cases hv : validate Host.referencePageSize a with
  | error cause => rfl
  | ok s =>
    obtain ⟨rfl, hpage, e, he⟩ := validate_eq_ok_iff.mp hv
    rw [UInt64.lt_iff_toNat_lt, he] at hpage
    have hlow : 12 < e := (Nat.pow_lt_pow_iff_right Nat.one_lt_two).mp hpage
    have hhigh : 63 ≤ e := by
      refine Nat.lt_of_not_le fun hhigh => hn ⟨e, hlow, hhigh, ?_⟩
      rw [← Amount.toNat_bytes_of_parse hs, he]
    refine signedAnswer_of_wide ?_
    rw [he]
    exact Nat.pow_le_pow_right Nat.two_pos hhigh

theorem lacking_or_nameable_or_broken (files : Files) (c : Config) :
    (∃ reason, Lacking files c reason) ∨ (∃ a, Source files c a ∧ Nameable a) ∨
      (Broken files c ∨ ∃ a, Source files c a ∧ ¬Nameable a) := by
  obtain ⟨a, ha⟩ | hlack | hbroken := source_or_lacking_or_broken files c
  · by_cases hn : Nameable a
    · exact .inr (.inl ⟨a, ha, hn⟩)
    · exact .inr (.inr (.inr ⟨a, ha, hn⟩))
  · exact .inl hlack
  · exact .inr (.inr (.inl hbroken))

theorem value_hugePageSize_eq_zero
    (h : Broken files c ∨ ∃ a, Source files c a ∧ ¬Nameable a) :
    (hugePageSize (.ofConfig files c)).value = 0 := by
  obtain hbroken | ⟨a, ha, hn⟩ := h
  · exact value_hugePageSize_of_broken hbroken
  · exact value_hugePageSize_of_not_nameable ha hn

theorem value_hugePageSize_pos (h : ∃ a, Source files c a ∧ Nameable a) :
    0 < (hugePageSize (.ofConfig files c)).value := by
  obtain ⟨a, ha, e, hlow, hhigh, he⟩ := h
  rw [Int64.lt_iff_toInt_lt, toInt_value_hugePageSize_of_source ha hlow hhigh he]
  exact Int.pow_pos (by decide)

theorem sign_iff {n : Int64} {P Q R : Prop} (hP : P → n = -1) (hQ : Q → 0 < n) (hR : R → n = 0)
    (h : P ∨ Q ∨ R) : (n = -1 ↔ P) ∧ (0 < n ↔ Q) ∧ (n = 0 ↔ R) := by
  have hne : (-1 : Int64) ≠ 0 := by decide
  have hneg : ¬(0 : Int64) < -1 := by decide
  have hzero : ¬(0 : Int64) < 0 := by decide
  refine ⟨⟨fun hn => ?_, hP⟩, ⟨fun hn => ?_, hQ⟩, ⟨fun hn => ?_, hR⟩⟩
  · obtain h | h | h := h
    · exact h
    · exact absurd (hn ▸ hQ h) hneg
    · exact absurd (hn.symm.trans (hR h)) hne
  · obtain h | h | h := h
    · exact absurd (hP h ▸ hn) hneg
    · exact h
    · exact absurd (hR h ▸ hn) hzero
  · obtain h | h | h := h
    · exact absurd ((hP h).symm.trans hn) hne
    · exact absurd (hn ▸ hQ h) hzero
    · exact h

theorem value_hugePageSize_iff (files : Files) (c : Config) :
    ((hugePageSize (.ofConfig files c)).value = -1 ↔ ∃ reason, Lacking files c reason) ∧
      (0 < (hugePageSize (.ofConfig files c)).value ↔ ∃ a, Source files c a ∧ Nameable a) ∧
      ((hugePageSize (.ofConfig files c)).value = 0 ↔
        Broken files c ∨ ∃ a, Source files c a ∧ ¬Nameable a) := by
  apply sign_iff
  · rintro ⟨reason, hlack⟩
    exact value_hugePageSize_of_lacking hlack
  · exact value_hugePageSize_pos
  · exact value_hugePageSize_eq_zero
  · exact lacking_or_nameable_or_broken files c

/-- The three kinds of answers, and what brings each of them about. -/
theorem exportedHugePageSize_answers (files : Files) (env : Environment) :
    let c := (Config.ofEnvironment env).value
    let n := (exportedHugePageSize sound files env).value
    (n = -1 ↔ ∃ reason, Lacking files c reason) ∧
      (∀ k : Int64, 0 < k ∧ n = k ↔
        ∃ a e, Source files c a ∧ 13 ≤ e ∧ e ≤ 62 ∧ a.exactBytes = 2 ^ e ∧ k.toInt = 2 ^ e) ∧
      (n = 0 ↔ Broken files c ∨ ∃ a, Source files c a ∧ ¬Nameable a) ∧
      (n = 0 ↔ ¬(∃ reason, Lacking files c reason) ∧ ¬∃ a, Source files c a ∧ Nameable a) := by
  intro c n
  have hn : n = (hugePageSize (.ofConfig files c)).value :=
    (value_exportedHugePageSize files env .reference).trans (value_hugePageSize (.ofConfig files c)).symm
  obtain ⟨hneg, hpos, hzero⟩ := value_hugePageSize_iff files c
  rw [← hn] at hneg hpos hzero
  have htoInt {a : Amount} {e : Nat} (ha : Source files c a) (hlow : 13 ≤ e) (hhigh : e ≤ 62)
      (he : a.exactBytes = 2 ^ e) : n.toInt = 2 ^ e :=
    hn ▸ toInt_value_hugePageSize_of_source ha hlow hhigh he
  refine ⟨hneg, fun k => ⟨?_, ?_⟩, hzero, ?_⟩
  · rintro ⟨hk, rfl⟩
    obtain ⟨a, ha, e, hlow, hhigh, he⟩ := hpos.mp hk
    exact ⟨a, e, ha, hlow, hhigh, he, htoInt ha hlow hhigh he⟩
  · rintro ⟨a, e, ha, hlow, hhigh, he, hk⟩
    have heq : n = k := Int64.toInt_inj.mp ((htoInt ha hlow hhigh he).trans hk.symm)
    exact ⟨heq ▸ hpos.mpr ⟨a, ha, e, hlow, hhigh, he⟩, heq⟩
  · constructor
    · intro h
      rw [← hneg, ← hpos, h]
      decide
    · rintro ⟨hlack, hs⟩
      have hcases := lacking_or_nameable_or_broken files c
      exact hzero.mpr ((hcases.resolve_left hlack).resolve_left hs)

end MemoryProbe.Native
