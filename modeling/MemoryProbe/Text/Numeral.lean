import MemoryProbe.Text.Basic

/-! Numerals: decimal for amounts and counts, hexadecimal of a fixed width for single bytes and
UTF-16 units. -/

namespace MemoryProbe.Numeral

def decimal (n : Nat) : Text := Nat.toDigits 10 n

def signed (n : Int) : Text :=
  if n < 0 then '-' :: decimal n.natAbs else decimal n.natAbs

def value (digits : Text) : Nat := Nat.ofDigitChars 10 digits 0

def hexadecimal (width n : Nat) : Text := (Nat.toDigits 16 n).leftpad width '0'

def count? (t : Text) : Option UInt64 :=
  let digits := match t with
    | '+' :: rest => rest
    | _ => t
  if digits ≠ [] ∧ digits.all Char.isDigit ∧ value digits < UInt64.size then
    some (UInt64.ofNat (value digits))
  else none

end MemoryProbe.Numeral
