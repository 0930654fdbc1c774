import MemoryProbe.CommandLine.Run

/-! A report line by line: what it shows of each quantity and the failures behind that line. The
outcome of a run is the report and whether any line has a failure behind it. -/

namespace MemoryProbe

namespace Quantity

def all : List Quantity := [pageSize, addressSize, hugePageSize]

theorem mem_all (what : Quantity) : what ∈ all := by
  cases what <;> decide

theorem forall_iff {p : Quantity → Prop} :
    (∀ what, p what) ↔ p pageSize ∧ p addressSize ∧ p hugePageSize := by
  refine ⟨fun h => ⟨h _, h _, h _⟩, fun h what => ?_⟩
  cases what with
  | pageSize => exact h.1
  | addressSize => exact h.2.1
  | hugePageSize => exact h.2.2

end Quantity

namespace Report
variable {r r' : Report}

def shown (r : Report) : Quantity → Text
  | .pageSize => sizeText r.pageSize
  | .addressSize => sizeText r.addressSize
  | .hugePageSize => r.hugePageSize.text

def failuresOf (r : Report) : Quantity → List Failure
  | .pageSize => sizeFailure r.pageSize
  | .addressSize => sizeFailure r.addressSize
  | .hugePageSize => r.hugePageSize.failure

theorem text_eq_flatMap (r : Report) :
    r.text = Quantity.all.flatMap fun what => line what (r.shown what) := by
  simp [text, shown, Quantity.all]

theorem failures_eq_flatMap (r : Report) : r.failures = Quantity.all.flatMap r.failuresOf := by
  simp [failures, failuresOf, Quantity.all]

theorem mem_failures_iff {f : Failure} : f ∈ r.failures ↔ ∃ what, f ∈ r.failuresOf what := by
  rw [failures_eq_flatMap, List.mem_flatMap]
  exact exists_congr fun what => and_iff_right what.mem_all

theorem failures_eq_nil_iff : r.failures = [] ↔ ∀ what, r.failuresOf what = [] := by
  rw [failures_eq_flatMap, List.flatMap_eq_nil_iff]
  exact forall_congr' fun what => forall_prop_of_true what.mem_all

end Report

namespace CommandLine
variable {r r' : Report}

theorem output_ofReport (r : Report) : (Outcome.ofReport r).output = r.text := by
  unfold Outcome.ofReport
  split <;> rfl

theorem status_ofReport (r : Report) :
    (Outcome.ofReport r).status = if r.failures = [] then 0 else 1 := by
  unfold Outcome.ofReport
  split <;> rfl

theorem status_ofReport_eq_zero_iff : (Outcome.ofReport r).status = 0 ↔ r.failures = [] := by
  rw [status_ofReport]
  split
  · next h => exact iff_of_true rfl h
  · next h => exact iff_of_false (by decide) h

theorem status_ofReport_of_failure {what : Quantity} (h : r.failuresOf what ≠ []) :
    (Outcome.ofReport r).status = 1 := by
  rw [status_ofReport, if_neg fun hnil => h (Report.failures_eq_nil_iff.mp hnil what)]

end CommandLine
end MemoryProbe
