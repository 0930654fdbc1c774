import MemoryProbe.Text.Basic

/-! UTF-8 as a machine that reads one byte at a time. Its state is the character whose bytes have
been read in part, and it delivers characters and the maximal runs of bytes that begin no
character. Strict decoding wants characters only; lossy decoding puts U+FFFD for each run. -/

namespace MemoryProbe.Utf8

def encode (t : Text) : Bytes := t.flatMap String.utf8EncodeChar

/-- A character, or a maximal run of bytes that is no character and cannot become one. -/
inductive Piece
  | char (c : Char)
  | bad (run : Bytes)
deriving DecidableEq, Repr

/-- A character in the making: its bytes so far, their value, how many bytes are missing, and the
range of the next one. Only the range of the second byte depends on the first. -/
structure Pending where
  read : Bytes
  value : Nat
  missing : Nat
  low : Nat
  high : Nat
deriving DecidableEq, Repr

/-- The first byte of a piece decides its length. The narrower ranges of the second byte leave out
overlong forms, surrogates and values above U+10FFFF. -/
def start (b : UInt8) : List Piece × Option Pending :=
  let n := b.toNat
  if n < 0x80 then ([.char (Char.ofNat n)], none)
  else if n < 0xc2 then ([.bad [b]], none)
  else if n < 0xe0 then ([], some ⟨[b], n % 32, 1, 0x80, 0xbf⟩)
  else if n < 0xf0 then
    ([], some ⟨[b], n % 16, 2, if n = 0xe0 then 0xa0 else 0x80, if n = 0xed then 0x9f else 0xbf⟩)
  else if n < 0xf5 then
    ([], some ⟨[b], n % 8, 3, if n = 0xf0 then 0x90 else 0x80, if n = 0xf4 then 0x8f else 0xbf⟩)
  else ([.bad [b]], none)

def step : Option Pending → UInt8 → List Piece × Option Pending
  | none, b => start b
  | some p, b =>
    if p.low ≤ b.toNat ∧ b.toNat ≤ p.high then
      let value := p.value * 64 + b.toNat % 64
      if p.missing ≤ 1 then ([.char (Char.ofNat value)], none)
      else ([], some ⟨p.read ++ [b], value, p.missing - 1, 0x80, 0xbf⟩)
    else
      let (pieces, next) := start b
      (.bad p.read :: pieces, next)

def finish : Option Pending → List Piece
  | none => []
  | some p => [.bad p.read]

def run : Option Pending → Bytes → List Piece
  | s, [] => finish s
  | s, b :: rest => (step s b).1 ++ run (step s b).2 rest

def pieces (bs : Bytes) : List Piece := run none bs

def Piece.char? : Piece → Option Char
  | .char c => some c
  | .bad _ => none

def decode? (bs : Bytes) : Option Text := (pieces bs).mapM Piece.char?

def replacement : Char := Char.ofNat 0xfffd

def lossy (bs : Bytes) : Text := (pieces bs).map fun p => p.char?.getD replacement

end MemoryProbe.Utf8
