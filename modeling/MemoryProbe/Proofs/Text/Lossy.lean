import MemoryProbe.Proofs.Text.Split
import MemoryProbe.Proofs.Text.Utf8

/-! An ASCII byte ends whatever character is unfinished before it and stands for itself. So lossy
decoding goes separately over the bytes before and after it, and it makes no difference whether bytes
are decoded before or after they are split at an ASCII separator. -/

namespace MemoryProbe.Utf8
variable {b : UInt8} {bs : Bytes}

theorem step_ascii {s : Option Pending} (hs : ∀ p, s = some p → p.Sound) (hb : b.toNat < 0x80) :
    step s b = (finish s ++ [.char (Char.ofNat b.toNat)], none) := by
  cases s with
  | none => exact start_ascii hb
  | some p =>
    -- no range of a next byte reaches down to ASCII
    have hlow : 0x80 ≤ p.low := (hs p rfl).low_high
    rw [step, if_neg (by omega), start_ascii hb]
    rfl

theorem run_append_cons {s : Option Pending} (hs : ∀ p, s = some p → p.Sound)
    (hb : b.toNat < 0x80) (bs rest : Bytes) :
    run s (bs ++ b :: rest) = run s bs ++ .char (Char.ofNat b.toNat) :: run none rest := by
  induction bs generalizing s with
  | nil =>
    show (step s b).1 ++ run (step s b).2 rest = finish s ++ _
    rw [step_ascii hs hb, List.append_assoc, List.singleton_append]
  | cons x bs ih =>
    rw [List.cons_append, run, ih (step_faithful hs x).sound, run, List.append_assoc]

theorem pieces_append_cons (hb : b.toNat < 0x80) (bs rest : Bytes) :
    pieces (bs ++ b :: rest) = pieces bs ++ .char (Char.ofNat b.toNat) :: pieces rest :=
  run_append_cons (s := none) (fun _ h => nomatch h) hb bs rest

theorem lossy_append_cons (hb : b.toNat < 0x80) (bs rest : Bytes) :
    lossy (bs ++ b :: rest) = lossy bs ++ Char.ofNat b.toNat :: lossy rest := by
  rw [lossy, pieces_append_cons hb, List.map_append, List.map_cons]
  rfl

theorem splitOn_lossy (hb : b.toNat < 0x80) (bs : Bytes) :
    (lossy bs).splitOn (Char.ofNat b.toNat) = (bs.splitOn b).map lossy := by
  induction bs using separator_induction b with
  | word bs h =>
    rw [List.splitOn_eq_singleton h, List.splitOn_eq_singleton (mt (mem_lossy_iff hb).mp h),
      List.map_singleton]
  | append first rest h ih =>
    rw [lossy_append_cons hb,
      List.splitOn_append_cons_self_of_not_mem (mt (mem_lossy_iff hb).mp h),
      List.splitOn_append_cons_self_of_not_mem h, ih, List.map_cons]

theorem cut_lossy (hb : b.toNat < 0x80) (bs : Bytes) :
    cut (Char.ofNat b.toNat) (lossy bs) = (cut b bs).map (Prod.map lossy lossy) := by
  cases hc : cut b bs with
  | none => exact cut_eq_none_iff.mpr (mt (mem_lossy_iff hb).mp (cut_eq_none_iff.mp hc))
  | some p =>
    obtain ⟨hfirst, rfl⟩ := cut_eq_some_iff.mp hc
    rw [lossy_append_cons hb, cut_append_cons (mt (mem_lossy_iff hb).mp hfirst)]
    rfl

end MemoryProbe.Utf8
