import Mathlib.Data.Nat.Digits.Defs
import MemoryProbe.Amount.Parser
import MemoryProbe.Proofs.HugePage.Validation
import MemoryProbe.Proofs.Text.Blank

/-! What a text has to be in order to be read as an amount, and which error tells why it is none. A
text divides in one way into digits and a unit with white space around them. The number is the value
of the digits, and both it and its product with the unit have to fit in 64 bits. -/

namespace MemoryProbe

namespace Numeral

theorem ofDigitChars_eq_add (digits : Text) (init : Nat) : Nat.ofDigitChars 10 digits init =
    Nat.ofDigits 10 (digits.reverse.map fun c => c.toNat - '0'.toNat) +
      10 ^ digits.length * init := by
  induction digits generalizing init with
  | nil => simp [Nat.ofDigitChars]
  | cons c digits ih =>
    rw [Nat.ofDigitChars_cons, ih, List.reverse_cons, List.map_append, Nat.ofDigits_append,
      List.length_map, List.length_reverse, List.map_singleton, Nat.ofDigits_singleton,
      List.length_cons]
    ring

theorem value_eq_ofDigits (digits : Text) :
    value digits = Nat.ofDigits 10 (digits.reverse.map fun c => c.toNat - '0'.toNat) := by
  rw [value, ofDigitChars_eq_add, Nat.mul_zero, Nat.add_zero]

end Numeral

namespace SizeUnit

def multiplier : SizeUnit → Nat
  | bytes => 1
  | kilobytes => 2 ^ 10
  | megabytes => 2 ^ 20
  | gigabytes => 2 ^ 30

def spellings : SizeUnit → List Text
  | bytes => ["", "B"].map String.toList
  | kilobytes => ["k", "K", "kB", "KB", "KiB"].map String.toList
  | megabytes => ["M", "MB", "MiB"].map String.toList
  | gigabytes => ["G", "GB", "GiB"].map String.toList

theorem two_pow_exponent (u : SizeUnit) : 2 ^ u.exponent = u.multiplier := by
  cases u <;> rfl

theorem ofText?_of_mem_spellings {u : SizeUnit} : ∀ t ∈ u.spellings, ofText? t = some u := by
  cases u <;> decide

theorem mem_spellings_of_ofText? {t : Text} {u : SizeUnit} (h : ofText? t = some u) :
    t ∈ u.spellings := by
  unfold ofText? at h
  split at h <;> cases h <;> decide

theorem ofText?_eq_some_iff {t : Text} {u : SizeUnit} : ofText? t = some u ↔ t ∈ u.spellings :=
  ⟨mem_spellings_of_ofText?, ofText?_of_mem_spellings t⟩

end SizeUnit

namespace Amount
variable {s : Text} {a : Amount}

theorem exactBytes_eq_mul (a : Amount) : a.exactBytes = a.number.toNat * a.unit.multiplier := by
  rw [exactBytes, Nat.shiftLeft_eq, SizeUnit.two_pow_exponent]

/-- A text between white space, divided into all the digits at its front and a unit between white
space. -/
@[ext]
structure Parts (s : Text) where
  text : Text
  digits : Text
  rest : Text
  unit : Text
  strips : Text.Strips s text
  append : digits ++ rest = text
  isDigit : ∀ c ∈ digits, c.isDigit = true
  ends : ∀ c, rest.head? = some c → c.isDigit = false
  unit_strips : Text.Strips rest unit

namespace Parts

def number (p : Parts s) : Nat :=
  Nat.ofDigits 10 (p.digits.reverse.map fun c => c.toNat - '0'.toNat)

def of (s : Text) : Parts s where
  text := Text.trim s
  digits := (Text.trim s).takeWhile Char.isDigit
  rest := (Text.trim s).dropWhile Char.isDigit
  unit := Text.trim ((Text.trim s).dropWhile Char.isDigit)
  strips := Text.trim_eq_iff.mp rfl
  append := List.takeWhile_append_dropWhile
  isDigit := fun c hc => List.mem_takeWhile_imp hc
  ends := fun c hc => by
    have hhead := List.head?_dropWhile_not Char.isDigit (Text.trim s)
    rw [hc] at hhead
    exact hhead
  unit_strips := Text.trim_eq_iff.mp rfl

theorem digits_eq_takeWhile (p : Parts s) : p.digits = p.text.takeWhile Char.isDigit := by
  rw [← p.append, List.takeWhile_append_of_pos p.isDigit]
  cases hrest : p.rest with
  | nil => rw [List.takeWhile_nil, List.append_nil]
  | cons c rest =>
    have hc : c.isDigit = false := p.ends c (hrest ▸ rfl)
    rw [List.takeWhile_cons_of_neg (Bool.not_eq_true _ ▸ hc), List.append_nil]

theorem eq_of (p : Parts s) : p = of s := by
  have htext : p.text = Text.trim s := (Text.trim_eq_iff.mpr p.strips).symm
  have hdigits : p.digits = (Text.trim s).takeWhile Char.isDigit :=
    htext ▸ p.digits_eq_takeWhile
  have happend : p.digits ++ p.rest = p.digits ++ (Text.trim s).dropWhile Char.isDigit := by
    rw [p.append, htext, hdigits, List.takeWhile_append_dropWhile]
  have hrest : p.rest = (Text.trim s).dropWhile Char.isDigit := List.append_cancel_left happend
  have hunit : p.unit = Text.trim ((Text.trim s).dropWhile Char.isDigit) :=
    hrest ▸ (Text.trim_eq_iff.mpr p.unit_strips).symm
  exact Parts.ext htext hdigits hrest hunit

end Parts

/-- What is said of a text: the amount that it is, or the first thing that is wrong with it. -/
inductive Judged (s : Text) : Except ParseError Amount → Prop
  | noNumber (p : Parts s) (hnone : p.digits = []) : Judged s (.error (.noNumber p.text))
  | numberTooLarge (p : Parts s) (hsome : p.digits ≠ []) (hlarge : 2 ^ 64 ≤ p.number) :
    Judged s (.error (.numberTooLarge p.digits))
  | unknownUnit (p : Parts s) (hsome : p.digits ≠ []) (hnumber : p.number < 2 ^ 64)
    (hunit : ∀ u : SizeUnit, p.unit ∉ u.spellings) :
    Judged s (.error (.unknownUnit p.unit p.text))
  | overflow (p : Parts s) (u : SizeUnit) (hsome : p.digits ≠ []) (hnumber : p.number < 2 ^ 64)
    (hunit : p.unit ∈ u.spellings) (hlarge : 2 ^ 64 ≤ p.number * u.multiplier) :
    Judged s (.error (.overflow p.text))
  | amount (p : Parts s) (a : Amount) (hsome : p.digits ≠ []) (hnumber : a.number.toNat = p.number)
    (hunit : p.unit ∈ a.unit.spellings) (hfits : p.number * a.unit.multiplier < 2 ^ 64) :
    Judged s (.ok a)

theorem limit_lt_iff {n : Nat} : limit < n ↔ 2 ^ 64 ≤ n := Nat.lt_iff_add_one_le

theorem exactBytes_ofNat {n : Nat} (h : n < 2 ^ 64) (u : SizeUnit) :
    exactBytes ⟨UInt64.ofNat n, u⟩ = n * u.multiplier := by
  rw [exactBytes_eq_mul]
  exact congrArg (· * u.multiplier) (UInt64.toNat_ofNat_of_lt' h)

theorem parse_eq_of_parts (p : Parts s) : parse s =
    if p.digits = [] then .error (.noNumber p.text)
    else if limit < p.number then .error (.numberTooLarge p.digits)
    else match SizeUnit.ofText? p.unit with
      | none => .error (.unknownUnit p.unit p.text)
      | some u =>
        if exactBytes ⟨UInt64.ofNat p.number, u⟩ ≤ limit then .ok ⟨UInt64.ofNat p.number, u⟩
        else .error (.overflow p.text) := by
  rw [Parts.number, ← Numeral.value_eq_ofDigits, p.eq_of]
  rfl

theorem judged_parse (s : Text) : Judged s (parse s) := by
  let p : Parts s := .of s
  rw [parse_eq_of_parts p]
  split
  · next hnone => exact .noNumber p hnone
  · next hsome =>
    split
    · next hlarge => exact .numberTooLarge p hsome (limit_lt_iff.mp hlarge)
    · next hnumber =>
      rw [limit_lt_iff, Nat.not_le] at hnumber
      cases hunit : SizeUnit.ofText? p.unit with
      | none =>
        refine .unknownUnit p hsome hnumber fun u hu => ?_
        rw [SizeUnit.ofText?_of_mem_spellings _ hu] at hunit
        exact nomatch hunit
      | some u =>
        have hunit := SizeUnit.ofText?_eq_some_iff.mp hunit
        dsimp only
        rw [exactBytes_ofNat hnumber]
        split
        · next hfits =>
          refine .amount p _ hsome (UInt64.toNat_ofNat_of_lt' hnumber) hunit ?_
          exact Nat.lt_of_not_le fun hlarge => Nat.not_lt.mpr hfits (limit_lt_iff.mpr hlarge)
        · next hlarge =>
          exact .overflow p u hsome hnumber hunit (limit_lt_iff.mp (Nat.not_le.mp hlarge))

theorem parse_eq_of_judged {r : Except ParseError Amount} (h : Judged s r) : parse s = r := by
  cases h with
  | noNumber p hnone => rw [parse_eq_of_parts p, if_pos hnone]
  | numberTooLarge p hsome hlarge =>
    rw [parse_eq_of_parts p, if_neg hsome, if_pos (limit_lt_iff.mpr hlarge)]
  | unknownUnit p hsome hnumber hunit =>
    have hnone : SizeUnit.ofText? p.unit = none :=
      Option.eq_none_iff_forall_ne_some.mpr fun u hu =>
        hunit u (SizeUnit.ofText?_eq_some_iff.mp hu)
    rw [parse_eq_of_parts p, if_neg hsome, if_neg (mt limit_lt_iff.mp (Nat.not_le.mpr hnumber)),
      hnone]
  | overflow p u hsome hnumber hunit hlarge =>
    rw [parse_eq_of_parts p, if_neg hsome, if_neg (mt limit_lt_iff.mp (Nat.not_le.mpr hnumber)),
      SizeUnit.ofText?_eq_some_iff.mpr hunit]
    dsimp only
    rw [exactBytes_ofNat hnumber, if_neg (Nat.not_le.mpr (limit_lt_iff.mpr hlarge))]
  | amount p a hsome hnumber hunit hfits =>
    have hlt : p.number < 2 ^ 64 := hnumber ▸ a.number.toNat_lt
    have ha : (⟨UInt64.ofNat p.number, a.unit⟩ : Amount) = a := by
      rw [← hnumber, UInt64.ofNat_toNat]
    rw [parse_eq_of_parts p, if_neg hsome, if_neg (mt limit_lt_iff.mp (Nat.not_le.mpr hlt)),
      SizeUnit.ofText?_eq_some_iff.mpr hunit]
    dsimp only
    rw [exactBytes_ofNat hlt, ha, if_pos]
    exact Nat.not_lt.mp (mt limit_lt_iff.mp (Nat.not_le.mpr hfits))

theorem bytes?_of_parse (h : parse s = .ok a) : a.bytes? = some a.bytes :=
  bytes?_eq_some_iff.mpr (toNat_bytes_of_parse h)

/-- A text is read as what is said of it, and an amount that was read has its exact size. -/
theorem parse_eq_iff_judged (s : Text) :
    (∀ r, parse s = r ↔ Judged s r) ∧
      (∀ a, parse s = .ok a →
        a.bytes.toNat = a.number.toNat * a.unit.multiplier ∧ a.bytes? = some a.bytes) ∧
      ofText s = parse s := by
  refine ⟨fun r => ⟨?_, parse_eq_of_judged⟩, fun a ha => ⟨?_, bytes?_of_parse ha⟩, rfl⟩
  · rintro rfl
    exact judged_parse s
  · rw [toNat_bytes_of_parse ha, exactBytes_eq_mul]

end Amount
end MemoryProbe
