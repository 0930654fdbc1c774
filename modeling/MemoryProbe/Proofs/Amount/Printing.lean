import MemoryProbe.Proofs.Amount.Grammar

/-! An amount is printed as its number, a space and the symbol of its unit. Read again, this text
gives the same number of the same unit, and not only an amount of the same size, unless the size
exceeds 64 bits. So an amount that was read never changes when it is printed and read again. -/

namespace MemoryProbe

namespace Numeral

theorem decimal_ne_nil (n : Nat) : decimal n ≠ [] := Nat.toDigits_ne_nil

theorem isDigit_of_mem_decimal {n : Nat} {c : Char} (h : c ∈ decimal n) : c.isDigit = true :=
  Nat.isDigit_of_mem_toDigits (by decide) (by decide) h

theorem value_decimal (n : Nat) : value (decimal n) = n := Nat.ofDigitChars_ten_toDigits

end Numeral

theorem Text.isBlank_eq_false_of_isDigit {c : Char} (h : c.isDigit = true) :
    Text.isBlank c = false := by
  simp only [Char.isDigit, Bool.and_eq_true, decide_eq_true_eq, ge_iff_le,
    UInt32.le_iff_toNat_le] at h
  have hrange : 0x30 ≤ c.toNat ∧ c.toNat ≤ 0x39 := h
  simp only [Text.isBlank, Bool.or_eq_false_iff, Bool.and_eq_false_iff, decide_eq_false_iff_not,
    beq_eq_false_iff_ne]
  omega

namespace SizeUnit

theorem symbol_mem_spellings (u : SizeUnit) : u.symbol ∈ u.spellings := by
  cases u <;> decide

theorem symbol_ne_nil (u : SizeUnit) : u.symbol ≠ [] := by
  cases u <;> exact List.cons_ne_nil _ _

theorem trimmed_symbol (u : SizeUnit) : Text.Trimmed u.symbol := by
  rw [← Text.trim_eq_self_iff]
  cases u <;> decide +kernel

end SizeUnit

namespace Amount

theorem trimmed_text (a : Amount) : Text.Trimmed a.text where
  head c hc := by
    rw [text, List.head?_append_of_ne_nil _ (Numeral.decimal_ne_nil _)] at hc
    exact Text.isBlank_eq_false_of_isDigit
      (Numeral.isDigit_of_mem_decimal (List.mem_of_head? hc))
  last c hc := by
    rw [text, List.append_cons, List.getLast?_append_of_ne_nil _ a.unit.symbol_ne_nil] at hc
    exact a.unit.trimmed_symbol.last c hc

def printedParts (a : Amount) : Parts a.text where
  text := a.text
  digits := Numeral.decimal a.number.toNat
  rest := ' ' :: a.unit.symbol
  unit := a.unit.symbol
  strips := a.trimmed_text.strips_self
  append := rfl
  isDigit := fun _ hc => Numeral.isDigit_of_mem_decimal hc
  ends := fun c hc => by
    rw [← Option.some.inj hc]
    rfl
  unit_strips :=
    ⟨a.unit.trimmed_symbol, [' '], [], List.forall_mem_singleton.mpr rfl, nofun,
      by rw [List.append_nil, List.singleton_append]⟩

theorem number_printedParts (a : Amount) : a.printedParts.number = a.number.toNat := by
  rw [Parts.number, ← Numeral.value_eq_ofDigits]
  exact Numeral.value_decimal _

theorem bytes?_eq_none_iff {a : Amount} : a.bytes? = none ↔ 2 ^ 64 ≤ a.exactBytes := by
  rw [bytes?, ← limit_lt_iff, ← Nat.not_le]
  split
  · next h => exact ⟨nofun, fun hn => absurd h hn⟩
  · next h => exact ⟨fun _ => h, fun _ => rfl⟩

theorem judged_text_of_fits {a : Amount} (h : a.exactBytes < 2 ^ 64) : Judged a.text (.ok a) := by
  rw [exactBytes_eq_mul, ← number_printedParts] at h
  exact .amount a.printedParts a (Numeral.decimal_ne_nil _) a.number_printedParts.symm
    a.unit.symbol_mem_spellings h

theorem judged_text_of_large {a : Amount} (h : 2 ^ 64 ≤ a.exactBytes) :
    Judged a.text (.error (.overflow a.text)) := by
  have hnumber : a.printedParts.number < 2 ^ 64 := by
    rw [number_printedParts]
    exact a.number.toNat_lt
  rw [exactBytes_eq_mul, ← number_printedParts] at h
  exact .overflow a.printedParts a.unit (Numeral.decimal_ne_nil _) hnumber
    a.unit.symbol_mem_spellings h

/-- Printing and reading gives back the amount itself if 64 bits hold its size. If they do not, the
text that was printed is refused for its size. -/
theorem parse_text (a : Amount) :
    parse a.text = (match a.bytes? with
      | some _ => .ok a
      | none => .error (.overflow a.text)) ∧
    ∀ s, parse s = .ok a → parse a.text = .ok a := by
  have hread : a.exactBytes < 2 ^ 64 → parse a.text = .ok a := fun h =>
    parse_eq_of_judged (judged_text_of_fits h)
  constructor
  · cases hb : a.bytes? with
    | some n => exact hread ((bytes?_eq_some_iff.mp hb) ▸ n.toNat_lt)
    | none => exact parse_eq_of_judged (judged_text_of_large (bytes?_eq_none_iff.mp hb))
  · intro s hs
    exact hread (exactBytes_le_limit_iff.mp (parse_eq_ok hs))

theorem parse_text_leading_zeros :
    let s := "\t0064KiB ".toList
    let a : Amount := ⟨64, .kilobytes⟩
    parse s = .ok a ∧ a.text = "64 kB".toList ∧ parse a.text = .ok a := by
  intro s a
  have hs : parse s = .ok a := by decide +kernel
  exact ⟨hs, by decide +kernel, (parse_text a).2 s hs⟩

end Amount
end MemoryProbe
