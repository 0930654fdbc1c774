import MemoryProbe.Text.Numeral

/-! The page size of a host is a power of two that a signed 64-bit answer can name. -/

namespace MemoryProbe

def IsPowerOfTwo (n : UInt64) : Prop := n ≠ 0 ∧ n &&& (n - 1) = 0

instance : DecidablePred IsPowerOfTwo := fun n =>
  inferInstanceAs (Decidable (n ≠ 0 ∧ n &&& (n - 1) = 0))

structure PageSize where
  bytes : UInt64
  isPowerOfTwo : IsPowerOfTwo bytes
deriving DecidableEq

namespace PageSize

def ofInt64? (n : Int64) : Option PageSize :=
  if h : 0 < n ∧ IsPowerOfTwo n.toUInt64 then some ⟨n.toUInt64, h.2⟩ else none

def text (p : PageSize) : Text := Numeral.decimal p.bytes.toNat

end PageSize
end MemoryProbe
