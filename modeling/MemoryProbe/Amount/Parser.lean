import MemoryProbe.Amount.Basic
import MemoryProbe.Text.Blank
import MemoryProbe.Text.Quoted

/-! Reading an amount: decimal digits, then a unit, with white space around either. What is read is
never larger than 64 bits hold. -/

namespace MemoryProbe.Amount

inductive ParseError
  | noNumber (text : Text)
  | numberTooLarge (digits : Text)
  | unknownUnit (unit text : Text)
  | overflow (text : Text)
deriving DecidableEq, Repr

def ParseError.message : ParseError → Text
  | noNumber text => "invalid memory amount ".toList ++ Quoted.text text
  | numberTooLarge digits =>
    "invalid number ".toList ++ Quoted.text digits ++
      ": number too large to fit in target type".toList
  | unknownUnit unit text =>
    "unknown memory unit ".toList ++ Quoted.text unit ++ " in ".toList ++ Quoted.text text
  | overflow text =>
    "memory amount ".toList ++ Quoted.text text ++ " does not fit in 64 bits".toList

/-- The number is judged before the unit, and the unit before the size. -/
def parse (s : Text) : Except ParseError Amount :=
  let text := Text.trim s
  let digits := text.takeWhile Char.isDigit
  let unitText := Text.trim (text.dropWhile Char.isDigit)
  if digits = [] then .error (.noNumber text)
  else if limit < Numeral.value digits then .error (.numberTooLarge digits)
  else
    match SizeUnit.ofText? unitText with
    | none => .error (.unknownUnit unitText text)
    | some unit =>
      let amount : Amount := ⟨UInt64.ofNat (Numeral.value digits), unit⟩
      if amount.exactBytes ≤ limit then .ok amount else .error (.overflow text)

def ofText (s : Text) : Except ParseError Amount := parse s

end MemoryProbe.Amount
