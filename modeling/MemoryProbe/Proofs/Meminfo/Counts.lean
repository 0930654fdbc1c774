import MemoryProbe.Proofs.Amount.Printing
import MemoryProbe.Proofs.Meminfo.Entries

/-! A value of the statistics can be asked for as a count or as an amount. Where the value is a run
of digits, both readers take it for the same number. A plus before the digits is read by the first
one alone and a unit behind them by the second one alone, and a name without an entry is no error
for either. -/

namespace MemoryProbe

namespace Numeral
variable {t digits : Text} {n : Nat}

structure Writes (digits : Text) (n : Nat) : Prop where
  ne_nil : digits ≠ []
  isDigit : ∀ c ∈ digits, c.isDigit = true
  number : Nat.ofDigits 10 (digits.reverse.map fun c => c.toNat - '0'.toNat) = n

inductive Counts : Text → Nat → Prop
  | plain {digits : Text} {n : Nat} (h : Writes digits n) : Counts digits n
  | signed {digits : Text} {n : Nat} (h : Writes digits n) : Counts ('+' :: digits) n

theorem not_writes_plus (digits : Text) (n : Nat) : ¬Writes ('+' :: digits) n := fun h =>
  absurd (h.isDigit '+' (List.mem_cons_self ..)) (by decide)

theorem counts_plus_iff : Counts ('+' :: digits) n ↔ Writes digits n := by
  constructor
  · rintro (h | h)
    · exact absurd h (not_writes_plus digits n)
    · exact h
  · exact .signed

theorem counts_iff_of_head_ne (h : t.head? ≠ some '+') : Counts t n ↔ Writes t n := by
  constructor
  · rintro (hw | hw)
    · exact hw
    · exact absurd rfl h
  · exact .plain

theorem guarded_value_eq_some_iff {n : UInt64} :
    (if digits ≠ [] ∧ digits.all Char.isDigit ∧ value digits < UInt64.size then
      some (UInt64.ofNat (value digits)) else none) = some n ↔ Writes digits n.toNat := by
  rw [Option.ite_none_right_eq_some, Option.some.injEq, List.all_eq_true, value_eq_ofDigits]
  constructor
  · rintro ⟨⟨hne, hdigit, hsize⟩, rfl⟩
    exact ⟨hne, hdigit, (UInt64.toNat_ofNat_of_lt' hsize).symm⟩
  · rintro ⟨hne, hdigit, hnumber⟩
    rw [hnumber]
    exact ⟨⟨hne, hdigit, n.toNat_lt_size⟩, UInt64.ofNat_toNat⟩

theorem count?_eq_some_iff {n : UInt64} : count? t = some n ↔ Counts t n.toNat := by
  simp only [count?]
  rw [guarded_value_eq_some_iff]
  split
  · exact counts_plus_iff.symm
  · next hplus =>
    have hhead : t.head? ≠ some '+' := fun h => by
      obtain ⟨rest, ht⟩ := List.head?_eq_some_iff.mp h
      exact hplus rest ht
    exact (counts_iff_of_head_ne hhead).symm

end Numeral

namespace Amount
open Numeral
variable {t : Text} {a : Amount} {n : UInt64}

theorem trimmed_of_isDigit (h : ∀ c ∈ t, c.isDigit = true) : Text.Trimmed t where
  head c hc := Text.isBlank_eq_false_of_isDigit (h c (List.mem_of_head? hc))
  last c hc := Text.isBlank_eq_false_of_isDigit (h c (List.mem_of_getLast? hc))

def Parts.ofDigits (h : ∀ c ∈ t, c.isDigit = true) : Parts t where
  text := t
  digits := t
  rest := []
  unit := []
  strips := (trimmed_of_isDigit h).strips_self
  append := List.append_nil t
  isDigit := h
  ends := nofun
  unit_strips := Text.trim_eq_iff.mp rfl

theorem Parts.eq_ofDigits (p : Parts t) (h : ∀ c ∈ t, c.isDigit = true) : p = .ofDigits h :=
  p.eq_of.trans (Parts.ofDigits h).eq_of.symm

theorem parse_of_writes (h : Writes t n.toNat) : parse t = .ok ⟨n, .bytes⟩ := by
  have hnumber : (Parts.ofDigits h.isDigit).number = n.toNat := h.number
  have hfits : (Parts.ofDigits h.isDigit).number * SizeUnit.bytes.multiplier < 2 ^ 64 := by
    rw [hnumber, SizeUnit.multiplier, Nat.mul_one]
    exact n.toNat_lt
  exact parse_eq_of_judged (.amount (.ofDigits h.isDigit) ⟨n, .bytes⟩ h.ne_nil hnumber.symm
    (List.mem_cons_self ..) hfits)

theorem writes_of_parse (hdigit : ∀ c ∈ t, c.isDigit = true) (h : parse t = .ok a) :
    Writes t a.number.toNat := by
  have hjudged : Judged t (.ok a) := h ▸ judged_parse t
  cases hjudged with
  | amount p a hsome hnumber hunit hfits =>
    rw [p.eq_ofDigits hdigit] at hsome hnumber
    exact ⟨hsome, hdigit, hnumber.symm⟩

theorem writes_iff_parse :
    Writes t n.toNat ↔ (∀ c ∈ t, c.isDigit = true) ∧ parse t = .ok ⟨n, .bytes⟩ :=
  ⟨fun h => ⟨h.isDigit, parse_of_writes h⟩, fun h => writes_of_parse h.1 h.2⟩

theorem parse_plus (h : Text.Trimmed t) (hplus : t.head? = some '+') :
    parse t = .error (.noNumber t) := by
  obtain ⟨rest, rfl⟩ := List.head?_eq_some_iff.mp hplus
  have hnone : (Parts.of ('+' :: rest)).digits = [] := by
    show (Text.trim ('+' :: rest)).takeWhile Char.isDigit = []
    rw [Text.trim_eq_self_iff.mpr h]
    rfl
  have htext : (Parts.of ('+' :: rest)).text = '+' :: rest := Text.trim_eq_self_iff.mpr h
  have hjudged := parse_eq_of_judged (.noNumber _ hnone)
  rwa [htext] at hjudged

theorem not_counts_of_unit (h : Text.Trimmed t) (p : Parts t) (hunit : p.unit ≠ [])
    (ha : parse t = .ok a) (n : Nat) : ¬Counts t n := by
  rintro (hw | hw)
  · rw [p.eq_ofDigits hw.isDigit] at hunit
    exact hunit rfl
  · rw [parse_plus h rfl] at ha
    exact nomatch ha

end Amount

namespace Meminfo
variable {t name value : Text} {m : Meminfo}

theorem trimmed_of_parse (hm : parse t = .ok m) (h : m.FirstEntry name value) :
    Text.Trimmed value := by
  obtain ⟨before, after, hentries, -⟩ := h
  have hmem : (name, value) ∈ m.entries := by
    rw [hentries]
    exact List.mem_append_right _ (List.mem_cons_self ..)
  rw [← (parse_eq_ok_iff.mp hm).2] at hmem
  obtain ⟨line, -, hline⟩ := List.mem_filterMap.mp hmem
  obtain ⟨_, _, -, -, -, hstrips⟩ := given?_eq_some_iff.mp hline
  exact hstrips.trimmed

theorem count?_of_firstEntry (h : m.FirstEntry name value) (ht : Text.Trimmed value) :
    m.count? name = match Numeral.count? value with
      | some n => .ok (some n)
      | none => .error (.invalidCount name value) := by
  have hraw := raw?_eq_some_iff.mpr h
  have htrim := Text.trim_eq_self_iff.mpr ht
  cases hn : Numeral.count? value <;> simp only [count?, hraw, htrim, hn]

theorem amount?_of_firstEntry (h : m.FirstEntry name value) :
    m.amount? name = match Amount.parse value with
      | .ok a => .ok (some a)
      | .error cause => .error (.invalidAmount name cause) := by
  have hraw := raw?_eq_some_iff.mpr h
  cases ha : Amount.parse value <;> simp only [amount?, hraw, ha]

theorem count?_eq_none_iff : m.count? name = .ok none ↔ ∀ e ∈ m.entries, e.1 ≠ name := by
  rw [← raw?_eq_none_iff, count?]
  cases m.raw? name with
  | none => exact iff_of_true rfl rfl
  | some value =>
    dsimp only
    cases Numeral.count? (Text.trim value) <;> exact ⟨nofun, nofun⟩

theorem amount?_eq_none_iff : m.amount? name = .ok none ↔ ∀ e ∈ m.entries, e.1 ≠ name := by
  rw [← raw?_eq_none_iff, amount?]
  cases m.raw? name with
  | none => exact iff_of_true rfl rfl
  | some value =>
    dsimp only
    cases Amount.parse value <;> exact ⟨nofun, nofun⟩

theorem count?_eq_some_iff (h : m.FirstEntry name value) (ht : Text.Trimmed value) {n : UInt64} :
    m.count? name = .ok (some n) ↔ Numeral.Counts value n.toNat := by
  rw [count?_of_firstEntry h ht, ← Numeral.count?_eq_some_iff]
  cases Numeral.count? value with
  | none => exact ⟨nofun, nofun⟩
  | some k => simp

theorem count?_eq_error_iff (h : m.FirstEntry name value) (ht : Text.Trimmed value)
    {cause : ParseError} : m.count? name = .error cause ↔
      cause = .invalidCount name value ∧ ∀ n : UInt64, ¬Numeral.Counts value n.toNat := by
  simp only [count?_of_firstEntry h ht, ← Numeral.count?_eq_some_iff]
  cases Numeral.count? value with
  | none => simp [eq_comm]
  | some k => simp

theorem amount?_eq_some_iff (h : m.FirstEntry name value) {a : Amount} :
    m.amount? name = .ok (some a) ↔ Amount.parse value = .ok a := by
  rw [amount?_of_firstEntry h]
  cases Amount.parse value with
  | error cause => exact ⟨nofun, nofun⟩
  | ok b => simp

/-- The two readers of the value of a name, whatever text the statistics were read from. -/
theorem count?_agrees_amount? {t : Text} {m : Meminfo} (hm : parse t = .ok m) (name : Text) :
    (m.count? name = .ok none ↔ ∀ e ∈ m.entries, e.1 ≠ name) ∧
      (m.amount? name = .ok none ↔ ∀ e ∈ m.entries, e.1 ≠ name) ∧
      ∀ value, m.FirstEntry name value →
        (∀ n, m.count? name = .ok (some n) ↔ Numeral.Counts value n.toNat) ∧
        (∀ cause, m.count? name = .error cause ↔
          cause = .invalidCount name value ∧ ∀ n : UInt64, ¬Numeral.Counts value n.toNat) ∧
        (value.head? ≠ some '+' → ∀ n, m.count? name = .ok (some n) ↔
          (∀ c ∈ value, c.isDigit = true) ∧ m.amount? name = .ok (some ⟨n, .bytes⟩)) ∧
        (value.head? = some '+' →
          m.amount? name = .error (.invalidAmount name (.noNumber value))) ∧
        ∀ (a : Amount) (p : Amount.Parts value), m.amount? name = .ok (some a) →
          p.unit ≠ [] → m.count? name = .error (.invalidCount name value) := by
  refine ⟨count?_eq_none_iff, amount?_eq_none_iff, fun value h => ?_⟩
  have ht := trimmed_of_parse hm h
  refine ⟨fun n => count?_eq_some_iff h ht, fun cause => count?_eq_error_iff h ht, ?_, ?_, ?_⟩
  · intro hplus n
    rw [count?_eq_some_iff h ht, amount?_eq_some_iff h, Numeral.counts_iff_of_head_ne hplus,
      Amount.writes_iff_parse]
  · intro hplus
    rw [amount?_of_firstEntry h, Amount.parse_plus ht hplus]
  · intro a p ha hunit
    rw [amount?_eq_some_iff h] at ha
    rw [count?_eq_error_iff h ht]
    exact ⟨rfl, fun n => Amount.not_counts_of_unit ht p hunit ha n.toNat⟩

theorem count?_agrees_amount?_plus_and_unit :
    let t := "HugePages_Total:\t+0512\nHugepagesize: 2048 kB\n".toList
    let total := "+0512".toList
    let size := "2048 kB".toList
    ∃ m, parse t = .ok m ∧ m.count? hugePagesTotalName = .ok (some 512) ∧
      m.amount? hugePagesTotalName =
        .error (.invalidAmount hugePagesTotalName (.noNumber total)) ∧
      m.amount? hugePageSizeName = .ok (some ⟨2048, .kilobytes⟩) ∧
      m.count? hugePageSizeName = .error (.invalidCount hugePageSizeName size) := by
  intro t total size
  let m : Meminfo := ⟨[(hugePagesTotalName, total), (hugePageSizeName, size)]⟩
  have hm : parse t = .ok m := by decide +kernel
  have htotal : m.FirstEntry hugePagesTotalName total := ⟨[], _, rfl, List.forall_mem_nil _⟩
  have hsize : m.FirstEntry hugePageSizeName size := raw?_eq_some_iff.mp (by decide +kernel)
  have hwrites : Numeral.Writes "0512".toList 512 :=
    ⟨by decide, List.all_eq_true.mp (by decide), by decide⟩
  have hamount : m.amount? hugePageSizeName = .ok (some ⟨2048, .kilobytes⟩) := by decide +kernel
  obtain ⟨hcount, -, -, hplus, -⟩ :=
    (count?_agrees_amount? hm hugePagesTotalName).2.2 total htotal
  obtain ⟨-, -, -, -, hunit⟩ := (count?_agrees_amount? hm hugePageSizeName).2.2 size hsize
  have hsome : (Amount.Parts.of size).unit ≠ [] := by decide +kernel
  exact ⟨m, hm, (hcount 512).mpr (.signed hwrites), hplus rfl, hamount,
    hunit _ (.of size) hamount hsome⟩

end Meminfo
end MemoryProbe
