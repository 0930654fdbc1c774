import MemoryProbe.Proofs.MountTable.Rendering
import MemoryProbe.Proofs.MountTable.Selection
import MemoryProbe.Proofs.MountTable.WrittenBytes

/-! A table is the sum of its lines. What one line gives, a mount, a complaint or nothing, depends
on no other line; only the numbers in the complaints count the lines before. So every line is accounted
for once, and a line that is no wanted mount may stand anywhere without hiding one. -/

namespace MemoryProbe.MountTable

def speaks (line : Bytes) : Bool :=
  match fields line with
  | [] => false
  | first :: _ => first.head? != some hash

def SkippedLine.shift (n : Nat) (s : SkippedLine) : SkippedLine := { s with number := s.number + n }

def mountsOf (lines : List Bytes) : List Mount := lines.filterMap fun line => (readLine line).mount?

def skippedFrom (number : Nat) (lines : List Bytes) : List SkippedLine :=
  (lines.zipIdx number).filterMap fun (line, number) => (readLine line).skipped? number line

theorem mounts_parse (content : Bytes) :
    (parse content).mounts = mountsOf (content.splitOn lineFeed) := rfl

theorem skipped_parse (content : Bytes) :
    (parse content).skipped = skippedFrom 1 (content.splitOn lineFeed) := rfl

theorem readLine_eq_silent_iff {line : Bytes} :
    readLine line = .silent ↔ speaks line = false := by
  unfold readLine speaks
  cases fields line with
  | nil => exact ⟨fun _ => rfl, fun _ => rfl⟩
  | cons first rest =>
    by_cases hhash : first.head? = some hash
    · simp [hhash]
    · simp only [hhash, if_false]
      split
      · split <;> simp [hhash]
      · simp [hhash]

theorem speaks_of_readLine {line : Bytes} (h : readLine line ≠ .silent) : speaks line = true := by
  rwa [ne_eq, readLine_eq_silent_iff, Bool.not_eq_false] at h

/-! The lines that should hold a mount and do not. -/

inductive Unreadable (line : Bytes) : SkipCause → Prop
  | tooFewFields (hspeaks : speaks line = true) (hcount : (fields line).length < 4) :
    Unreadable line .tooFewFields
  | badEscape (hspeaks : speaks line = true) (hcount : 4 ≤ (fields line).length)
    (hfield : ∃ f ∈ (fields line).take 3, ¬WellEscaped f) : Unreadable line .badEscape

theorem speaks_eq_true_iff {line : Bytes} : speaks line = true ↔
    ∃ first rest, fields line = first :: rest ∧ first.head? ≠ some hash := by
  unfold speaks
  cases fields line with
  | nil => exact ⟨nofun, fun ⟨_, _, h, _⟩ => nomatch h⟩
  | cons first rest =>
    rw [bne_iff_ne]
    constructor
    · exact fun h => ⟨first, rest, rfl, h⟩
    · rintro ⟨first', rest', h, hhash⟩
      rwa [(List.cons.inj h).1]

theorem readMount?_eq_none_iff {w₁ w₂ w₃ w₄ : Bytes} :
    readMount? w₁ w₂ w₃ w₄ = none ↔ ∃ f ∈ [w₁, w₂, w₃], ¬WellEscaped f := by
  simp only [← isSome_unescape?_iff, List.mem_cons, List.not_mem_nil, or_false, exists_eq_or_imp,
    exists_eq_left, Option.not_isSome_iff_eq_none]
  unfold readMount?
  cases unescape? w₁ with
  | none => exact iff_of_true rfl (.inl rfl)
  | some v₁ =>
    cases unescape? w₂ with
    | none => exact iff_of_true rfl (.inr (.inl rfl))
    | some v₂ =>
      cases unescape? w₃ with
      | none => exact iff_of_true rfl (.inr (.inr rfl))
      | some v₃ => exact iff_of_false nofun (by simp)

theorem readLine_of_length_lt {line : Bytes} (hspeaks : speaks line = true)
    (hcount : (fields line).length < 4) : readLine line = .unreadable .tooFewFields := by
  obtain ⟨first, rest, hline, hhash⟩ := speaks_eq_true_iff.mp hspeaks
  simp only [readLine, hline, if_neg hhash]
  split
  · next dir fsType options more =>
    rw [hline] at hcount
    exact absurd hcount (Nat.not_lt.mpr (Nat.le_add_left 4 more.length))
  · rfl

theorem readLine_of_fields {line w₁ w₂ w₃ w₄ : Bytes} {more : List Bytes}
    (hline : fields line = w₁ :: w₂ :: w₃ :: w₄ :: more) (hspeaks : speaks line = true) :
    readLine line = ((readMount? w₁ w₂ w₃ w₄).map .mount).getD (.unreadable .badEscape) := by
  obtain ⟨first, rest, hfirst, hhash⟩ := speaks_eq_true_iff.mp hspeaks
  obtain ⟨rfl, -⟩ := List.cons.inj (hline.symm.trans hfirst)
  simp only [readLine, hline, if_neg hhash]
  cases readMount? w₁ w₂ w₃ w₄ <;> rfl

theorem exists_fields {line : Bytes} (hcount : 4 ≤ (fields line).length) :
    ∃ w₁ w₂ w₃ w₄ more, fields line = w₁ :: w₂ :: w₃ :: w₄ :: more := by
  match hline : fields line with
  | w₁ :: w₂ :: w₃ :: w₄ :: more => exact ⟨w₁, w₂, w₃, w₄, more, rfl⟩
  | [] | [_] | [_, _] | [_, _, _] =>
    rw [hline] at hcount
    exact absurd hcount (by simp)

/-- What is wrong with a line is told by its number of fields and by their backslashes. -/
theorem readLine_eq_unreadable_iff {line : Bytes} {cause : SkipCause} :
    readLine line = .unreadable cause ↔ Unreadable line cause := by
  constructor
  · intro h
    have hspeaks : speaks line = true := speaks_of_readLine (by rw [h]; exact nofun)
    by_cases hcount : (fields line).length < 4
    · obtain rfl := LineReading.unreadable.inj ((readLine_of_length_lt hspeaks hcount).symm.trans h)
      exact .tooFewFields hspeaks hcount
    · rw [Nat.not_lt] at hcount
      obtain ⟨w₁, w₂, w₃, w₄, more, hline⟩ := exists_fields hcount
      rw [readLine_of_fields hline hspeaks] at h
      cases hread : readMount? w₁ w₂ w₃ w₄ with
      | some m =>
        rw [hread] at h
        exact nomatch h
      | none =>
        rw [hread] at h
        obtain rfl := LineReading.unreadable.inj h
        refine .badEscape hspeaks hcount ?_
        rw [hline]
        exact readMount?_eq_none_iff.mp hread
  · intro h
    cases h with
    | tooFewFields hspeaks hcount => exact readLine_of_length_lt hspeaks hcount
    | badEscape hspeaks hcount hfield =>
      obtain ⟨w₁, w₂, w₃, w₄, more, hline⟩ := exists_fields hcount
      rw [hline] at hfield
      rw [readLine_of_fields hline hspeaks, readMount?_eq_none_iff.mpr hfield]
      rfl

theorem LineReading.skipped?_add (reading : LineReading) (line : Bytes) (number n : Nat) :
    reading.skipped? (number + n) line = (reading.skipped? number line).map (·.shift n) := by
  cases reading <;> rfl

theorem LineReading.skipped?_eq_some_iff {reading : LineReading} {line : Bytes} {number : Nat}
    {s : SkippedLine} : reading.skipped? number line = some s ↔
      s.line = line ∧ s.number = number ∧ reading = .unreadable s.cause := by
  cases reading with
  | silent => exact ⟨nofun, fun h => nomatch h.2.2⟩
  | mount m => exact ⟨nofun, fun h => nomatch h.2.2⟩
  | unreadable cause =>
    obtain ⟨number', cause', line'⟩ := s
    simp only [skipped?, Option.some.injEq, SkippedLine.mk.injEq, unreadable.injEq]
    exact ⟨fun h => ⟨h.2.2.symm, h.1.symm, h.2.1⟩, fun h => ⟨h.2.1.symm, h.2.2, h.1.symm⟩⟩

theorem skippedFrom_cons (number : Nat) (line : Bytes) (lines : List Bytes) :
    skippedFrom number (line :: lines) =
      ((readLine line).skipped? number line).toList ++ skippedFrom (number + 1) lines := by
  cases h : (readLine line).skipped? number line <;> simp [skippedFrom, h]

theorem skippedFrom_append (number : Nat) (as bs : List Bytes) :
    skippedFrom number (as ++ bs) =
      skippedFrom number as ++ skippedFrom (number + as.length) bs := by
  rw [skippedFrom, List.zipIdx_append, List.filterMap_append]
  rfl

theorem skippedFrom_add (number n : Nat) (lines : List Bytes) :
    skippedFrom (number + n) lines = (skippedFrom number lines).map (·.shift n) := by
  induction lines generalizing number with
  | nil => rfl
  | cons line lines ih =>
    rw [skippedFrom_cons, skippedFrom_cons, LineReading.skipped?_add, Nat.add_right_comm, ih,
      List.map_append]
    cases (readLine line).skipped? number line <;> rfl

theorem mem_skippedFrom_iff {number : Nat} {lines : List Bytes} {s : SkippedLine} :
    s ∈ skippedFrom number lines ↔
      number ≤ s.number ∧ lines[s.number - number]? = some s.line ∧
        readLine s.line = .unreadable s.cause := by
  simp only [skippedFrom, List.mem_filterMap, Prod.exists, LineReading.skipped?_eq_some_iff,
    List.mk_mem_zipIdx_iff_le_and_getElem?_sub]
  constructor
  · rintro ⟨line, number', ⟨hle, hi⟩, rfl, rfl, hr⟩
    exact ⟨hle, hi, hr⟩
  · rintro ⟨hle, hi, hr⟩
    exact ⟨s.line, s.number, ⟨hle, hi⟩, rfl, rfl, hr⟩

theorem pairwise_skippedFrom (number : Nat) (lines : List Bytes) :
    (skippedFrom number lines).Pairwise fun s s' => s.number < s'.number := by
  induction lines generalizing number with
  | nil => exact .nil
  | cons line lines ih =>
    rw [skippedFrom_cons]
    cases h : (readLine line).skipped? number line with
    | none => exact ih (number + 1)
    | some s =>
      refine .cons (fun s' hs' => ?_) (ih (number + 1))
      rw [(LineReading.skipped?_eq_some_iff.mp h).2.1]
      exact (mem_skippedFrom_iff.mp hs').1

theorem mounts_parse_append (a b : Bytes) :
    (parse (a ++ lineFeed :: b)).mounts = (parse a).mounts ++ (parse b).mounts := by
  simp only [mounts_parse, List.splitOn_append_cons_self, mountsOf, List.filterMap_append]

theorem skipped_parse_append (a b : Bytes) :
    (parse (a ++ lineFeed :: b)).skipped =
      (parse a).skipped ++ (parse b).skipped.map (·.shift (a.splitOn lineFeed).length) := by
  simp only [skipped_parse, List.splitOn_append_cons_self, skippedFrom_append, skippedFrom_add]

theorem length_mountsOf_add_length_skippedFrom (number : Nat) (lines : List Bytes) :
    (mountsOf lines).length + (skippedFrom number lines).length = lines.countP speaks := by
  induction lines generalizing number with
  | nil => rfl
  | cons line lines ih =>
    have ih := ih (number + 1)
    rw [skippedFrom_cons, List.countP_cons, ← ih]
    cases hr : readLine line with
    | silent =>
      have hm : mountsOf (line :: lines) = mountsOf lines :=
        List.filterMap_cons_none (by rw [hr]; rfl)
      rw [readLine_eq_silent_iff.mp hr, hm]
      rfl
    | mount m =>
      have hm : mountsOf (line :: lines) = m :: mountsOf lines :=
        List.filterMap_cons_some (by rw [hr]; rfl)
      rw [speaks_of_readLine (by rw [hr]; exact nofun), hm]
      exact Nat.add_right_comm ..
    | unreadable cause =>
      have hm : mountsOf (line :: lines) = mountsOf lines :=
        List.filterMap_cons_none (by rw [hr]; rfl)
      rw [speaks_of_readLine (by rw [hr]; exact nofun), hm]
      rfl

theorem mounts_parse_of_lineOf {r : Record} {line : Bytes} (hr : r.Valid) (h : LineOf r line) :
    (parse line).mounts = [r.mount] := by
  have hlines : line.splitOn lineFeed = [line] :=
    List.splitOn_eq_singleton (h.not_lineFeed hr)
  rw [mounts_parse, hlines, mountsOf, List.filterMap_cons, h.readLine_eq hr]
  rfl

theorem exists_mounts_parse_eq {rs : List Record} (hr : ∀ r ∈ rs, r.Valid) :
    ∃ content, (parse content).mounts = rs.map Record.mount := by
  induction rs with
  | nil => exact ⟨[], rfl⟩
  | cons r rs ih =>
    rw [List.forall_mem_cons] at hr
    obtain ⟨content, hcontent⟩ := ih hr.2
    obtain ⟨line, hline⟩ := LineOf.exists_line r
    refine ⟨line ++ lineFeed :: content, ?_⟩
    rw [mounts_parse_append, mounts_parse_of_lineOf hr.1 hline, hcontent]
    rfl

/-! A line that is put in. -/

def insertLine (line : Bytes) (k : Nat) (content : Bytes) : Bytes :=
  let lines := content.splitOn lineFeed
  [lineFeed].intercalate (lines.take k ++ line :: lines.drop k)

theorem mounts_parse_intercalate (lines : List Bytes) :
    (parse ([lineFeed].intercalate lines)).mounts =
      lines.flatMap fun line => (parse line).mounts := by
  induction lines with
  | nil => rfl
  | cons line lines ih =>
    cases lines with
    | nil => simp
    | cons next rest =>
      rw [List.intercalate_cons_cons, List.append_assoc, List.singleton_append,
        mounts_parse_append, ih]
      rfl

theorem mounts_parse_insertLine (line : Bytes) (k : Nat) (content : Bytes) :
    ∃ before after, (parse content).mounts = before ++ after ∧
      (parse (insertLine line k content)).mounts = before ++ ((parse line).mounts ++ after) := by
  let lines := content.splitOn lineFeed
  let mounts (ls : List Bytes) : List Mount := ls.flatMap fun l => (parse l).mounts
  refine ⟨mounts (lines.take k), mounts (lines.drop k), ?_, ?_⟩
  · rw [← List.flatMap_append, List.take_append_drop, ← mounts_parse_intercalate,
      List.intercalate_splitOn]
  · rw [insertLine, mounts_parse_intercalate, List.flatMap_append, List.flatMap_cons]

theorem find?_insertLine {line : Bytes} {point : Option Path}
    (hline : ∀ m ∈ (parse line).mounts, ¬Matches point m) (k : Nat) (content : Bytes) :
    (parse (insertLine line k content)).find? point = (parse content).find? point := by
  obtain ⟨before, after, hc, hi⟩ := mounts_parse_insertLine line k content
  have hnone : (parse line).mounts.find? (selects point) = none :=
    List.find?_eq_none.mpr fun m hm => mt selects_iff.mp (hline m hm)
  rw [find?, find?, hc, hi, List.find?_append, List.find?_append, List.find?_append, hnone,
    Option.none_or]

end MemoryProbe.MountTable
