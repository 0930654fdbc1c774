import MemoryProbe.Text.Basic

/-! A field of a mount table writes white space and backslashes as a backslash and the three octal
digits of the byte. -/

namespace MemoryProbe.MountTable

def backslash : UInt8 := 0x5c

def octalDigit? (b : UInt8) : Option Nat :=
  if 0x30 ≤ b.toNat ∧ b.toNat ≤ 0x37 then some (b.toNat - 0x30) else none

def octalByte? (a b c : UInt8) : Option UInt8 := do
  let value := (← octalDigit? a) * 64 + (← octalDigit? b) * 8 + (← octalDigit? c)
  if value < 256 then some (UInt8.ofNat value) else none

/-- The bytes that a field stands for. A backslash without the digits of a byte spoils it. -/
def unescape? : Bytes → Option Bytes
  | [] => some []
  | b :: rest =>
    if b = backslash then
      match rest with
      | d₁ :: d₂ :: d₃ :: rest => do return (← octalByte? d₁ d₂ d₃) :: (← unescape? rest)
      | _ => none
    else (unescape? rest).map (b :: ·)

end MemoryProbe.MountTable
