import MemoryProbe.Text.Combining
import MemoryProbe.Text.Numeral
import MemoryProbe.Text.Unprintable
import MemoryProbe.Text.Utf8

/-! Quoted text of messages: between double quotes, with every character that a reader could not
see or tell apart written as an escape. Paths are quoted the same way, and a byte of theirs that
belongs to no character is written in hexadecimal. -/

namespace MemoryProbe.Quoted

def escapeChar (c : Char) : Text :=
  if c = '\x00' then ['\\', '0']
  else if c = '\t' then ['\\', 't']
  else if c = '\n' then ['\\', 'n']
  else if c = '\r' then ['\\', 'r']
  else if c = '"' ∨ c = '\\' then ['\\', c]
  else if Text.isUnprintable c || Text.isCombining c then
    ['\\', 'u', '{'] ++ Numeral.hexadecimal 1 c.toNat ++ ['}']
  else [c]

def escapeByte (b : UInt8) : Text :=
  ['\\', 'x'] ++ (Numeral.hexadecimal 2 b.toNat).map Char.toUpper

def escapePiece : Utf8.Piece → Text
  | .char c => escapeChar c
  | .bad run => run.flatMap escapeByte

def text (t : Text) : Text := ['"'] ++ t.flatMap escapeChar ++ ['"']

def bytes (bs : Bytes) : Text := ['"'] ++ (Utf8.pieces bs).flatMap escapePiece ++ ['"']

end MemoryProbe.Quoted
