import MemoryProbe.Proofs.Amount.Printing
import MemoryProbe.Proofs.Report.Lines

/-! The report of signed answers. An answer is told on the line of its quantity and, if that line
reads as failed, by one failure that names the quantity and, unless it is the sentinel, the answer.
A report without failures gives its answers back: a size and the lack of huge pages are never told
by the same text. -/

namespace MemoryProbe

namespace Numeral

theorem not_mem_decimal {n : Nat} {c : Char} (h : c.isDigit = false) : c ∉ decimal n := fun hc =>
  Bool.false_ne_true (h.symm.trans (isDigit_of_mem_decimal hc))

theorem decimal_ne {n : Nat} {t : Text} (h : t.all Char.isDigit = false) : decimal n ≠ t := by
  rintro rfl
  exact Bool.false_ne_true (h.symm.trans (List.all_eq_true.mpr fun _ => isDigit_of_mem_decimal))

theorem decimal_inj {n k : Nat} (h : decimal n = decimal k) : n = k := by
  rw [← value_decimal n, h, value_decimal]

theorem signed_inj {n k : Int} (h : signed n = signed k) : n = k := by
  unfold signed at h
  split at h <;> split at h
  · have := decimal_inj (List.cons.inj h).2
    omega
  · exact absurd h.symm (decimal_ne rfl)
  · exact absurd h (decimal_ne rfl)
  · have := decimal_inj h
    omega

end Numeral

namespace Quantity

theorem head?_name_append (what : Quantity) (s : Text) :
    (what.name ++ s).head? = what.name.head? := by
  cases what <;> rfl

theorem name_append_inj {what what' : Quantity} {s t : Text}
    (h : what.name ++ s = what'.name ++ t) : what = what' ∧ s = t := by
  have hwhat : what = what' := by
    have hfirst := congrArg List.head? h
    rw [head?_name_append, head?_name_append] at hfirst
    cases what <;> cases what' <;> first | rfl | exact absurd hfirst (by decide)
  subst hwhat
  exact ⟨rfl, List.append_cancel_left h⟩

theorem name_append_ne_unexpected {what : Quantity} {s t : Text} :
    what.name ++ s ≠ "unexpected ".toList ++ t := by
  intro h
  have hfirst : (what.name ++ s).head? = some 'u' := congrArg List.head? h
  rw [head?_name_append] at hfirst
  cases what <;> exact absurd hfirst (by decide)

theorem newline_not_mem_name (what : Quantity) : '\n' ∉ what.name := by
  cases what <;> decide

end Quantity

namespace Native

theorem toNat_ofNat_toNat {n : Int} (h : n < 2 ^ 64) : (UInt64.ofNat n.toNat).toNat = n.toNat :=
  UInt64.toNat_ofNat_of_lt' (by rw [UInt64.size]; omega)

def Results.answer (r : Results) : Quantity → Int
  | .pageSize => r.pageSize.toInt
  | .addressSize => r.addressSize.toInt
  | .hugePageSize => r.hugePageSize.toInt

theorem Results.eq_of_answer {r r' : Results} (h : ∀ what, r.answer what = r'.answer what) :
    r = r' := by
  have hpage := Int32.toInt_inj.mp (h .pageSize)
  have haddress := Int32.toInt_inj.mp (h .addressSize)
  have hpages := Int64.toInt_inj.mp (h .hugePageSize)
  cases r
  cases r'
  exact (mk.injEq ..).mpr ⟨hpage, haddress, hpages⟩

end Native

namespace Report
open Native

variable {what : Quantity} {n k : Int} {t : Text} {fs : List Failure}

/-! Failures of signed answers are told apart by their messages. -/

def Failure.IsSigned (f : Failure) : Prop := ∀ cause, f ≠ .query cause

theorem Failure.message_queryFailed (what : Quantity) :
    (queryFailed what).message = what.name ++ " query failed".toList := rfl

theorem Failure.message_unexpected (what : Quantity) (n : Int) :
    (unexpected what n).message =
      "unexpected ".toList ++ (what.name ++ ' ' :: Numeral.signed n) := List.append_assoc ..

theorem Failure.message_inj {f f' : Failure} (hf : f.IsSigned) (hf' : f'.IsSigned)
    (h : f.message = f'.message) : f = f' := by
  match f, f' with
  | .query cause, _ => exact absurd rfl (hf cause)
  | _, .query cause => exact absurd rfl (hf' cause)
  | .queryFailed what, .queryFailed what' =>
    rw [message_queryFailed, message_queryFailed] at h
    rw [(Quantity.name_append_inj h).1]
  | .queryFailed what, .unexpected what' k =>
    rw [message_queryFailed, message_unexpected] at h
    exact absurd h Quantity.name_append_ne_unexpected
  | .unexpected what n, .queryFailed what' =>
    rw [message_queryFailed, message_unexpected] at h
    exact absurd h.symm Quantity.name_append_ne_unexpected
  | .unexpected what n, .unexpected what' k =>
    rw [message_unexpected, message_unexpected] at h
    obtain ⟨rfl, hvalue⟩ := Quantity.name_append_inj (List.append_cancel_left h)
    rw [Numeral.signed_inj (List.cons.inj hvalue).2]

/-! How one answer is told. -/

/-- The text on the line of a quantity and the failures behind it, for this answer about it. -/
inductive Tells (what : Quantity) (n : Int) : Text → List Failure → Prop
  | size (h : 0 < n) : Tells what n (Numeral.decimal n.toNat) []
  | unsupported (hwhat : what = .hugePageSize) (h : n = -1) : Tells what n "unsupported".toList []
  | failed (h : n = 0) : Tells what n "failed".toList [.queryFailed what]
  | unexpected (h : n < 0) (hwhat : what = .hugePageSize → n < -1) :
    Tells what n "failed".toList [.unexpected what n]

def told (what : Quantity) (n : Int) : Text :=
  if 0 < n then Numeral.decimal n.toNat
  else if what = .hugePageSize ∧ n = -1 then "unsupported".toList
  else "failed".toList

def NoFailure (what : Quantity) (n : Int) : Prop := 0 < n ∨ what = .hugePageSize ∧ n = -1

def complaint (what : Quantity) (n : Int) : Text :=
  if n = 0 then what.name ++ " query failed".toList
  else "unexpected ".toList ++ what.name ++ ' ' :: Numeral.signed n

theorem Tells.eq_told (h : Tells what n t fs) : t = told what n := by
  unfold told
  cases h with
  | size h => rw [if_pos h]
  | unsupported hwhat h => rw [if_neg (by omega), if_pos ⟨hwhat, h⟩]
  | failed h =>
    rw [if_neg (by omega), if_neg]
    rintro ⟨-, hn⟩
    omega
  | unexpected h hwhat =>
    rw [if_neg (by omega), if_neg]
    rintro ⟨hpages, hn⟩
    have := hwhat hpages
    omega

theorem Tells.newline_not_mem (h : Tells what n t fs) : '\n' ∉ t := by
  cases h with
  | size => exact Numeral.not_mem_decimal rfl
  | unsupported => decide
  | failed => decide
  | unexpected => decide

theorem Tells.eq_nil_iff (h : Tells what n t fs) : fs = [] ↔ NoFailure what n := by
  unfold NoFailure
  cases h with
  | size h => exact iff_of_true rfl (.inl h)
  | unsupported hwhat h => exact iff_of_true rfl (.inr ⟨hwhat, h⟩)
  | failed h =>
    refine iff_of_false nofun ?_
    rintro (hpos | ⟨-, hn⟩) <;> omega
  | unexpected h hwhat =>
    refine iff_of_false nofun ?_
    rintro (hpos | ⟨hpages, hn⟩)
    · omega
    · have := hwhat hpages
      omega

theorem Tells.messages (h : Tells what n t fs) :
    fs.map Failure.message = if t = "failed".toList then [complaint what n] else [] := by
  cases h with
  | size => rw [if_neg (Numeral.decimal_ne rfl), List.map_nil]
  | unsupported => rfl
  | failed h =>
    rw [if_pos rfl, complaint, if_pos h]
    rfl
  | unexpected h =>
    rw [if_pos rfl, complaint, if_neg (Int.ne_of_lt h)]
    rfl

theorem Tells.isSigned {f : Failure} (h : Tells what n t fs) (hf : f ∈ fs) : f.IsSigned := by
  cases h with
  | size => cases hf
  | unsupported => cases hf
  | failed =>
    cases List.mem_singleton.mp hf
    exact nofun
  | unexpected =>
    cases List.mem_singleton.mp hf
    exact nofun

theorem Tells.queryFailed_mem_iff {what' : Quantity} (h : Tells what n t fs) :
    .queryFailed what' ∈ fs ↔ what = what' ∧ n = 0 := by
  cases h with
  | size h => exact iff_of_false nofun fun e => absurd e.2 (Int.ne_of_gt h)
  | unsupported hwhat h => exact iff_of_false nofun fun e => absurd (h.symm.trans e.2) (by decide)
  | failed h => simp [h, eq_comm]
  | unexpected h => exact iff_of_false (by simp) fun e => absurd e.2 (Int.ne_of_lt h)

theorem Tells.unexpected_mem_iff {what' : Quantity} (h : Tells what n t fs) :
    .unexpected what' k ∈ fs ↔ what = what' ∧ n = k ∧ n < 0 ∧ (what = .hugePageSize → n < -1) := by
  cases h with
  | size h => exact iff_of_false nofun fun e => absurd e.2.2.1 (Int.not_lt.mpr (Int.le_of_lt h))
  | unsupported hwhat h =>
    exact iff_of_false nofun fun e => absurd (e.2.2.2 hwhat) (Int.not_lt.mpr (Int.le_of_eq h.symm))
  | failed h =>
    exact iff_of_false (by simp) fun e => absurd e.2.2.1 (Int.not_lt.mpr (Int.le_of_eq h.symm))
  | unexpected h hwhat =>
    rw [List.mem_singleton, Failure.unexpected.injEq, and_iff_left (And.intro h hwhat)]
    exact and_congr eq_comm eq_comm

theorem Tells.inj (hn : Tells what n t []) (hk : Tells what k t []) : n = k := by
  generalize htext : t = text at hn
  cases hn with
  | size hn =>
    cases hk with
    | size hk =>
      have := Numeral.decimal_inj htext
      omega
    | unsupported => exact absurd htext.symm (Numeral.decimal_ne rfl)
  | unsupported _ hn =>
    cases hk with
    | size => exact absurd htext (Numeral.decimal_ne rfl)
    | unsupported _ hk => exact hn.trans hk.symm

/-! The answers of a library are told like this. -/

theorem tells_ofSigned (hwhat : what ≠ .hugePageSize) (h : n < 2 ^ 64) :
    Tells what n (sizeText (ofSigned what n)) (sizeFailure (ofSigned what n)) := by
  unfold ofSigned
  split
  · next hzero => exact .failed hzero
  · next hzero =>
    have hzero : n ≠ 0 := hzero
    split
    · next hneg => exact .unexpected hneg fun e => absurd e hwhat
    · next hneg =>
      have htext : sizeText (.ok (UInt64.ofNat n.toNat)) = Numeral.decimal n.toNat :=
        congrArg Numeral.decimal (toNat_ofNat_toNat h)
      rw [htext]
      exact .size (by omega)

theorem tells_hugePagesOfSigned (v : Int64) :
    Tells .hugePageSize v.toInt (hugePagesOfSigned v).text (hugePagesOfSigned v).failure := by
  unfold hugePagesOfSigned
  split
  · next h =>
    subst h
    exact .unsupported rfl (by decide)
  · next hunsupported =>
    split
    · next h =>
      subst h
      exact .failed (by decide)
    · next hfailed =>
      have hunsupported : v.toInt ≠ -1 := fun h => hunsupported (Int64.toInt_inj.mp h)
      have hfailed : v.toInt ≠ 0 := fun h => hfailed (Int64.toInt_inj.mp h)
      split
      · next h =>
        have hneg : v.toInt < 0 := Int64.lt_iff_toInt_lt.mp h
        exact .unexpected hneg fun _ => by omega
      · next h =>
        have hle : 0 ≤ v := Int64.not_lt.mp h
        have hpos : 0 ≤ v.toInt := Int64.le_iff_toInt_le.mp hle
        have htext : (HugePages.available v.toUInt64).text = Numeral.decimal v.toInt.toNat :=
          congrArg Numeral.decimal (Int64.toNat_toUInt64_of_le hle)
        rw [htext]
        exact .size (by omega)

theorem tells_ofResults (r : Results) (what : Quantity) :
    Tells what (r.answer what) ((ofResults r).shown what) ((ofResults r).failuresOf what) := by
  cases what with
  | pageSize => exact tells_ofSigned nofun (Int.lt_trans r.pageSize.toInt_lt (by decide))
  | addressSize => exact tells_ofSigned nofun (Int.lt_trans r.addressSize.toInt_lt (by decide))
  | hugePageSize => exact tells_hugePagesOfSigned r.hugePageSize

/-! The whole report. -/

theorem message_mem_iff (r : Results) {f : Failure} (hf : f.IsSigned) :
    f.message ∈ (ofResults r).failures.map Failure.message ↔
      ∃ what, f ∈ (ofResults r).failuresOf what := by
  rw [← mem_failures_iff, List.mem_map]
  constructor
  · rintro ⟨f', hmem, hmessage⟩
    obtain ⟨what, hwhat⟩ := mem_failures_iff.mp hmem
    rwa [← Failure.message_inj ((tells_ofResults r what).isSigned hwhat) hf hmessage]
  · exact fun hmem => ⟨f, hmem, rfl⟩

theorem lines_text {r : Report} (h : ∀ what, '\n' ∉ r.shown what) : r.text.splitOn '\n' =
    Quantity.all.map (fun what => what.name ++ ": ".toList ++ r.shown what) ++ [[]] := by
  have hline (what : Quantity) : '\n' ∉ what.name ++ ": ".toList ++ r.shown what := by
    rw [List.mem_append, List.mem_append]
    rintro ((hmem | hmem) | hmem)
    · exact what.newline_not_mem_name hmem
    · exact absurd hmem (by decide)
    · exact h what hmem
  rw [text_eq_flatMap]
  induction Quantity.all with
  | nil => rfl
  | cons what rest ih =>
    rw [List.flatMap_cons, line, ← List.append_cons,
      List.splitOn_append_cons_self_of_not_mem (hline what), ih]
    rfl

theorem shown_eq_of_text_eq {r r' : Report} (h : ∀ what, '\n' ∉ r.shown what)
    (h' : ∀ what, '\n' ∉ r'.shown what) (htext : r.text = r'.text) (what : Quantity) :
    r.shown what = r'.shown what := by
  have hlines := congrArg (List.splitOn '\n') htext
  rw [lines_text h, lines_text h', List.append_cancel_right_eq] at hlines
  exact List.append_cancel_left (List.map_inj_left.mp hlines what what.mem_all)

theorem failures_ofResults_eq_nil_iff (r : Results) : (ofResults r).failures = [] ↔
    0 < r.pageSize ∧ 0 < r.addressSize ∧ (0 < r.hugePageSize ∨ r.hugePageSize = -1) := by
  have hnone : (ofResults r).failures = [] ↔ ∀ what, NoFailure what (r.answer what) := by
    rw [failures_eq_nil_iff]
    exact forall_congr' fun what => (tells_ofResults r what).eq_nil_iff
  rw [hnone, Quantity.forall_iff, Int32.lt_iff_toInt_lt, Int32.lt_iff_toInt_lt,
    Int64.lt_iff_toInt_lt, ← Int64.toInt_inj]
  simp [NoFailure, Results.answer]

theorem messages_ofResults (r : Results) : (ofResults r).failures.map Failure.message =
    (Quantity.all.filter fun what => (ofResults r).shown what = "failed".toList).map
      fun what => complaint what (r.answer what) := by
  rw [failures_eq_flatMap, List.map_flatMap]
  simp only [(tells_ofResults r _).messages]
  induction Quantity.all with
  | nil => rfl
  | cons what rest ih =>
    rw [List.flatMap_cons, ih, List.filter_cons]
    by_cases h : (ofResults r).shown what = "failed".toList
    · rw [if_pos h, if_pos (decide_eq_true h)]
      rfl
    · rw [if_neg h, decide_eq_false h]
      rfl

theorem queryFailed_mem_messages_iff (r : Results) :
    what.name ++ " query failed".toList ∈ (ofResults r).failures.map Failure.message ↔
      r.answer what = 0 := by
  refine (message_mem_iff r (f := .queryFailed what) nofun).trans ?_
  simp only [(tells_ofResults r _).queryFailed_mem_iff, exists_eq_left]

theorem unexpected_mem_messages_iff (r : Results) :
    "unexpected ".toList ++ what.name ++ ' ' :: Numeral.signed n ∈
        (ofResults r).failures.map Failure.message ↔
      r.answer what = n ∧ n < 0 ∧ (what = .hugePageSize → n < -1) := by
  refine (message_mem_iff r (f := .unexpected what n) nofun).trans ?_
  simp only [(tells_ofResults r _).unexpected_mem_iff, exists_eq_left]
  refine and_congr_right fun h => ?_
  rw [h]

theorem eq_of_text_eq {r r' : Results} (h : (ofResults r).failures = [])
    (h' : (ofResults r').failures = []) (htext : (ofResults r).text = (ofResults r').text) :
    r = r' := by
  have hshown := shown_eq_of_text_eq (fun what => (tells_ofResults r what).newline_not_mem)
    (fun what => (tells_ofResults r' what).newline_not_mem) htext
  refine Results.eq_of_answer fun what => ?_
  have hr := tells_ofResults r what
  have hr' := tells_ofResults r' what
  rw [failures_eq_nil_iff.mp h] at hr
  rw [failures_eq_nil_iff.mp h', ← hshown] at hr'
  exact hr.inj hr'

/-- A report of signed answers: its lines, the failures behind those that read as failed, and the
answers that can be read off it again. -/
theorem ofResults_tells (r : Results) :
    let report := ofResults r
    let messages := report.failures.map Failure.message
    let outcome := CommandLine.Outcome.ofReport report
    report.text.splitOn '\n' =
        Quantity.all.map (fun what => what.name ++ ": ".toList ++ report.shown what) ++ [[]] ∧
      (∀ what, report.shown what = told what (r.answer what)) ∧
      messages = (Quantity.all.filter fun what => report.shown what = "failed".toList).map
        (fun what => complaint what (r.answer what)) ∧
      (report.failures = [] ↔
        0 < r.pageSize ∧ 0 < r.addressSize ∧ (0 < r.hugePageSize ∨ r.hugePageSize = -1)) ∧
      outcome.output = report.text ∧ (outcome.status = 0 ↔ report.failures = []) ∧
      (∀ what : Quantity, what.name ++ " query failed".toList ∈ messages ↔ r.answer what = 0) ∧
      (∀ (what : Quantity) (n : Int),
        "unexpected ".toList ++ what.name ++ ' ' :: Numeral.signed n ∈ messages ↔
          r.answer what = n ∧ n < 0 ∧ (what = .hugePageSize → n < -1)) ∧
      ∀ r', report.failures = [] → (ofResults r').failures = [] →
        report.text = (ofResults r').text → r = r' := by
  intro report messages outcome
  have hlines := lines_text fun what => (tells_ofResults r what).newline_not_mem
  exact ⟨hlines, fun what => (tells_ofResults r what).eq_told, messages_ofResults r,
    failures_ofResults_eq_nil_iff r, CommandLine.output_ofReport report,
    CommandLine.status_ofReport_eq_zero_iff, fun what => queryFailed_mem_messages_iff r,
    fun what n => unexpected_mem_messages_iff r, fun r' h h' => eq_of_text_eq h h'⟩

theorem ofResults_tells_least :
    let least : Results := ⟨Int32.minValue, Int32.minValue, Int64.minValue⟩
    let given : Results := ⟨4096, 8, -1⟩
    (ofResults least).failures.map Failure.message =
        ["unexpected page size -2147483648".toList, "unexpected address size -2147483648".toList,
          "unexpected huge page size -9223372036854775808".toList] ∧
      (ofResults given).text.splitOn '\n' =
        ["page size: 4096".toList, "address size: 8".toList,
          "huge page size: unsupported".toList, []] ∧
      (ofResults given).failures = [] ∧
      given = ⟨Int32.ofNat 4096, Int32.ofNat 8, hugePagesUnsupported⟩ := by
  intro least given
  have hsound : (ofResults given).failures = [] :=
    (ofResults_tells given).2.2.2.1.mpr (by decide)
  refine ⟨(ofResults_tells least).2.2.1.trans (by decide +kernel),
    (ofResults_tells given).1.trans (by decide +kernel), hsound, ?_⟩
  exact (ofResults_tells given).2.2.2.2.2.2.2.2 _ hsound hsound rfl

end Report
end MemoryProbe
