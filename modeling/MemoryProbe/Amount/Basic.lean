import MemoryProbe.Text.Numeral

/-! A memory amount is a 64-bit number of bytes or of a binary multiple of bytes. It keeps the unit
in which it was given, and is compared by its size in bytes. The size saturates at the largest
64-bit number, so amounts beyond it compare equal. -/

namespace MemoryProbe

inductive SizeUnit
  | bytes
  | kilobytes
  | megabytes
  | gigabytes
deriving DecidableEq, Repr

namespace SizeUnit

def exponent : SizeUnit → Nat
  | bytes => 0
  | kilobytes => 10
  | megabytes => 20
  | gigabytes => 30

def symbol : SizeUnit → Text
  | bytes => ['B']
  | kilobytes => ['k', 'B']
  | megabytes => ['M', 'B']
  | gigabytes => ['G', 'B']

/-- The spellings of a unit. Only the unit of a thousand may be written in lower case, and a
number without unit counts bytes. -/
def ofText? : Text → Option SizeUnit
  | [] | ['B'] => some bytes
  | ['k'] | ['K'] | ['k', 'B'] | ['K', 'B'] | ['K', 'i', 'B'] => some kilobytes
  | ['M'] | ['M', 'B'] | ['M', 'i', 'B'] => some megabytes
  | ['G'] | ['G', 'B'] | ['G', 'i', 'B'] => some gigabytes
  | _ => none

end SizeUnit

structure Amount where
  number : UInt64
  unit : SizeUnit
deriving DecidableEq, Repr

namespace Amount

def exactBytes (a : Amount) : Nat := a.number.toNat <<< a.unit.exponent

def limit : Nat := UInt64.size - 1

def bytes? (a : Amount) : Option UInt64 :=
  if a.exactBytes ≤ limit then some (UInt64.ofNat a.exactBytes) else none

def bytes (a : Amount) : UInt64 := UInt64.ofNat (min a.exactBytes limit)

theorem exactBytes_le_limit_iff {a : Amount} : a.exactBytes ≤ limit ↔ a.exactBytes < UInt64.size :=
  Nat.le_sub_one_iff_lt (by decide)

theorem toNat_bytes (a : Amount) : a.bytes.toNat = min a.exactBytes limit := by
  have h : min a.exactBytes limit < UInt64.size :=
    Nat.lt_of_le_of_lt (Nat.min_le_right _ _) (by decide)
  exact UInt64.toNat_ofNat_of_lt h

theorem bytes?_eq_some_iff {a : Amount} {n : UInt64} :
    a.bytes? = some n ↔ n.toNat = a.exactBytes := by
  unfold bytes?
  split
  · next h =>
    rw [exactBytes_le_limit_iff] at h
    rw [Option.some.injEq, ← UInt64.toNat_inj, UInt64.toNat_ofNat_of_lt' h, eq_comm]
  · next h =>
    rw [exactBytes_le_limit_iff] at h
    exact ⟨nofun, fun hn => absurd (hn ▸ n.toNat_lt_size) h⟩

def kilobytes (a : Amount) : UInt64 := a.bytes / 1024

def sameSize (a b : Amount) : Bool := a.bytes == b.bytes

instance : Ord Amount where
  compare a b := compare a.bytes b.bytes

def partialCompare (a b : Amount) : Option Ordering := some (compare a b)

instance : LT Amount := ltOfOrd
instance : LE Amount := leOfOrd

/-- By size, amounts of the same size in the order in which they were given. -/
def sort (amounts : List Amount) : List Amount :=
  amounts.mergeSort fun a b => (compare a b).isLE

def smallest? (amounts : List Amount) : Option Amount := (sort amounts).head?

def largest? (amounts : List Amount) : Option Amount := (sort amounts).getLast?

def text (a : Amount) : Text := Numeral.decimal a.number.toNat ++ ' ' :: a.unit.symbol

end Amount
end MemoryProbe
