import MemoryProbe.Proofs.Amount.Grammar

/-! Amounts are told apart by their exact size as long as it is below the largest 64-bit number. All
amounts from there on count as one size, so the order is a total preorder and not an order of
sizes. Sorting is the one rearrangement that follows this preorder and leaves amounts of the same
size in the order in which they were given. What was read is never beyond the limit, so between
amounts that were read there are no ties but those of equal sizes. -/

namespace MemoryProbe.Amount
variable {a b c : Amount} {amounts sorted sorted' : List Amount}

def rank (a : Amount) : Nat := min a.exactBytes limit

theorem compare_eq_compare_rank (a b : Amount) : compare a b = compare a.rank b.rank := by
  show compare a.bytes b.bytes = _
  rw [UInt64.compare_eq_toNat_compare_toNat, toNat_bytes, toNat_bytes]
  rfl

theorem le_iff_rank : a ≤ b ↔ a.rank ≤ b.rank := by
  show (compare a b).isLE = true ↔ _
  rw [compare_eq_compare_rank, Nat.isLE_compare]

theorem lt_iff_rank : a < b ↔ a.rank < b.rank := by
  show compare a b = .lt ↔ _
  rw [compare_eq_compare_rank, Nat.compare_eq_lt]

theorem sameSize_iff_rank : a.sameSize b = true ↔ a.rank = b.rank := by
  rw [sameSize, beq_iff_eq, ← UInt64.toNat_inj, toNat_bytes, toNat_bytes]
  rfl

theorem sameSize_iff : a.sameSize b = true ↔
    a.exactBytes = b.exactBytes ∨ limit ≤ a.exactBytes ∧ limit ≤ b.exactBytes := by
  rw [sameSize_iff_rank, rank, rank]
  omega

theorem lt_iff : a < b ↔ a.exactBytes < b.exactBytes ∧ a.exactBytes < limit := by
  rw [lt_iff_rank, rank, rank]
  omega

/-- Not the larger one of two amounts, or both are too large to be told apart. -/
def NotAbove (a b : Amount) : Prop :=
  a.exactBytes ≤ b.exactBytes ∨ limit ≤ a.exactBytes ∧ limit ≤ b.exactBytes

theorem le_iff_notAbove : a ≤ b ↔ a.NotAbove b := by
  rw [le_iff_rank, NotAbove, rank, rank]
  omega

instance : Std.IsLinearPreorder Amount where
  le_refl _ := le_iff_rank.mpr (Nat.le_refl _)
  le_trans _ _ _ hab hbc := le_iff_rank.mpr ((le_iff_rank.mp hab).trans (le_iff_rank.mp hbc))
  le_total _ _ := (Nat.le_total _ _).imp le_iff_rank.mpr le_iff_rank.mpr

theorem compare_eq_eq_iff : compare a b = .eq ↔ a.sameSize b = true := by
  rw [compare_eq_compare_rank, Nat.compare_eq_eq, sameSize_iff_rank]

theorem compare_eq_gt_iff : compare a b = .gt ↔ b < a := by
  rw [compare_eq_compare_rank, Nat.compare_eq_gt, lt_iff_rank]

theorem le_iff_lt_or_sameSize : a ≤ b ↔ a < b ∨ a.sameSize b = true := by
  rw [le_iff_rank, lt_iff_rank, sameSize_iff_rank, Nat.le_iff_lt_or_eq]

theorem rank_of_parse {s : Text} (h : parse s = .ok a) : a.rank = a.exactBytes :=
  Nat.min_eq_left (parse_eq_ok h)

theorem compare_of_parse {s t : Text} (ha : parse s = .ok a) (hb : parse t = .ok b) :
    compare a b = compare a.exactBytes b.exactBytes := by
  rw [compare_eq_compare_rank, rank_of_parse ha, rank_of_parse hb]

theorem toNat_kilobytes (a : Amount) : a.kilobytes.toNat = min a.exactBytes limit / 1024 := by
  rw [kilobytes, UInt64.toNat_div, toNat_bytes]
  rfl

/-! Sorting. -/

/-- The same amounts from small to large, those of the same size in the order in which they were
given. -/
structure SortsStably (amounts sorted : List Amount) : Prop where
  perm : sorted.Perm amounts
  ordered : sorted.Pairwise NotAbove
  stable : ∀ a : Amount, sorted.filter a.sameSize = amounts.filter a.sameSize

theorem isLE_compare_iff : (compare a b).isLE = true ↔ a.rank ≤ b.rank := le_iff_rank

theorem isLE_compare_trans (a b c : Amount) (hab : (compare a b).isLE = true)
    (hbc : (compare b c).isLE = true) : (compare a c).isLE = true := by
  rw [isLE_compare_iff] at *
  exact hab.trans hbc

theorem isLE_compare_total (a b : Amount) : ((compare a b).isLE || (compare b a).isLE) = true := by
  rw [Bool.or_eq_true, isLE_compare_iff, isLE_compare_iff]
  exact Nat.le_total _ _

theorem filter_sort (amounts : List Amount) (a : Amount) :
    (sort amounts).filter a.sameSize = amounts.filter a.sameSize := by
  -- amounts of one size are sorted as they stand, so they come through the sort in their order
  have hsorted : (amounts.filter a.sameSize).Pairwise fun b c => (compare b c).isLE = true := by
    refine List.pairwise_of_forall_mem_list fun b hb c hc => ?_
    have hb := sameSize_iff_rank.mp (List.mem_filter.mp hb).2
    have hc := sameSize_iff_rank.mp (List.mem_filter.mp hc).2
    exact isLE_compare_iff.mpr (hb.symm.trans hc).le
  have hsub : (amounts.filter a.sameSize).Sublist (sort amounts) :=
    List.sublist_mergeSort isLE_compare_trans isLE_compare_total hsorted List.filter_sublist
  have hsub := hsub.filter a.sameSize
  simp only [List.filter_filter, Bool.and_self] at hsub
  have hperm : (sort amounts).Perm amounts := List.mergeSort_perm _ _
  exact (hsub.eq_of_length (hperm.filter _).length_eq.symm).symm

theorem sortsStably_sort (amounts : List Amount) : SortsStably amounts (sort amounts) where
  perm := List.mergeSort_perm _ _
  ordered :=
    (List.pairwise_mergeSort isLE_compare_trans isLE_compare_total amounts).imp le_iff_notAbove.mp
  stable := filter_sort amounts

theorem rank_le_of_mem_cons {s : List Amount} (h : ∀ c ∈ s, a.NotAbove c) (hb : b ∈ a :: s) :
    a.rank ≤ b.rank := by
  obtain rfl | hb := List.mem_cons.mp hb
  · exact Nat.le_refl _
  · exact le_iff_rank.mp (le_iff_notAbove.mpr (h b hb))

theorem eq_of_ordered (hperm : sorted.Perm sorted') (hs : sorted.Pairwise NotAbove)
    (hs' : sorted'.Pairwise NotAbove)
    (hstable : ∀ a : Amount, sorted.filter a.sameSize = sorted'.filter a.sameSize) :
    sorted = sorted' := by
  induction sorted generalizing sorted' with
  | nil => exact hperm.nil_eq
  | cons a s ih =>
    cases sorted' with
    | nil => exact hperm.eq_nil
    | cons b s' =>
      rw [List.pairwise_cons] at hs hs'
      -- neither of the two first amounts is above the other one
      have hb : b ∈ a :: s := hperm.mem_iff.mpr (List.mem_cons_self ..)
      have ha : a ∈ b :: s' := hperm.mem_iff.mp (List.mem_cons_self ..)
      have hab : a.sameSize b = true := sameSize_iff_rank.mpr
        (Nat.le_antisymm (rank_le_of_mem_cons hs.1 hb) (rank_le_of_mem_cons hs'.1 ha))
      have haa : a.sameSize a = true := sameSize_iff_rank.mpr rfl
      have hfirst := hstable a
      rw [List.filter_cons_of_pos haa, List.filter_cons_of_pos hab] at hfirst
      obtain ⟨rfl, -⟩ := List.cons.inj hfirst
      have hrest : s = s' := by
        refine ih hperm.cons_inv hs.2 hs'.2 fun c => ?_
        have hc := hstable c
        rw [List.filter_cons, List.filter_cons] at hc
        split at hc
        · exact (List.cons.inj hc).2
        · exact hc
      rw [hrest]

theorem sort_eq_iff : sort amounts = sorted ↔ SortsStably amounts sorted := by
  constructor
  · rintro rfl
    exact sortsStably_sort amounts
  · intro h
    have hsort := sortsStably_sort amounts
    exact eq_of_ordered (hsort.perm.trans h.perm.symm) hsort.ordered h.ordered fun a =>
      (hsort.stable a).trans (h.stable a).symm

/-- How amounts compare by their exact sizes, what kind of order this makes, and how it sorts. -/
theorem compare_by_size :
    (∀ a : Amount, a.exactBytes = a.number.toNat * a.unit.multiplier ∧
      a.kilobytes.toNat = min a.exactBytes (2 ^ 64 - 1) / 1024) ∧
    (∀ a b : Amount,
      (a.sameSize b = true ↔ a.exactBytes = b.exactBytes ∨
        2 ^ 64 - 1 ≤ a.exactBytes ∧ 2 ^ 64 - 1 ≤ b.exactBytes) ∧
      (a < b ↔ a.exactBytes < b.exactBytes ∧ a.exactBytes < 2 ^ 64 - 1) ∧
      (compare a b = .lt ↔ a < b) ∧ (compare a b = .eq ↔ a.sameSize b = true) ∧
      (compare a b = .gt ↔ b < a) ∧ a.partialCompare b = some (compare a b) ∧
      (a ≤ b ↔ a < b ∨ a.sameSize b = true)) ∧
    Std.IsLinearPreorder Amount ∧
    (∀ amounts sorted : List Amount, sort amounts = sorted ↔ SortsStably amounts sorted) ∧
    ∀ (s t : Text) (a b : Amount), parse s = .ok a → parse t = .ok b →
      compare a b = compare a.exactBytes b.exactBytes := by
  refine ⟨fun a => ⟨exactBytes_eq_mul a, toNat_kilobytes a⟩, fun a b => ?_, inferInstance,
    fun amounts sorted => sort_eq_iff, fun s t a b => compare_of_parse⟩
  exact ⟨sameSize_iff, lt_iff, Iff.rfl, compare_eq_eq_iff, compare_eq_gt_iff, rfl,
    le_iff_lt_or_sameSize⟩

theorem compare_by_size_largest :
    let s := "18446744073709551615".toList
    let t := "17179869183 GiB".toList
    let a : Amount := ⟨18446744073709551615, .bytes⟩
    let b : Amount := ⟨17179869183, .gigabytes⟩
    parse s = .ok a ∧ parse t = .ok b ∧ compare a b = compare a.exactBytes b.exactBytes ∧
      b < a := by
  intro s t a b
  have hs : parse s = .ok a := by decide +kernel
  have ht : parse t = .ok b := by decide +kernel
  exact ⟨hs, ht, compare_by_size.2.2.2.2 s t a b hs ht, by decide⟩

-- One gigabyte more cannot be read, and as an amount it is no larger than the other one.
example : sameSize ⟨17179869184, .gigabytes⟩ ⟨18446744073709551615, .bytes⟩ = true := by decide

end MemoryProbe.Amount
