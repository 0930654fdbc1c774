import Mathlib.Algebra.Group.Nat.Defs
import MemoryProbe.Native.Exports

/-! The signed answer about huge pages depends on the answer of the query alone. A size below half
of the 64-bit range is its own signed answer, and every other answer becomes a sentinel. -/

namespace MemoryProbe.Native

def signedAnswer : Except QueryError HugePageSize → Int64
  | .ok (.available bytes) => (toInt64? bytes).getD hugePageQueryFailed
  | .ok (.unsupported _) => hugePagesUnsupported
  | .error _ => hugePageQueryFailed

theorem value_hugePageSize (host : Host) :
    (hugePageSize host).value = signedAnswer host.hugePageSize.value := by
  rw [hugePageSize, Logged.value_bind]
  cases host.hugePageSize.value with
  | error cause => rfl
  | ok s =>
    cases s with
    | unsupported reason => rfl
    | available bytes =>
      dsimp only [signedAnswer]
      cases toInt64? bytes <;> rfl

theorem value_exportedHugePageSize (files : Files) (env : Environment) (system : SystemAnswer) :
    (exportedHugePageSize sound files env system).value = signedAnswer
      (HugePage.query system files (Config.ofEnvironment env).value).value := by
  rw [exportedHugePageSize, guarded_sound, Logged.value_bind, value_hugePageSize]
  rfl

theorem toInt64?_of_lt {n : UInt64} (h : n.toNat < 2 ^ 63) :
    toInt64? n = some (Int64.ofNat n.toNat) := if_pos h

theorem toInt64?_of_le {n : UInt64} (h : 2 ^ 63 ≤ n.toNat) : toInt64? n = none :=
  if_neg (Nat.not_lt.mpr h)

theorem toInt_signedAnswer {bytes : UInt64} (h : bytes.toNat < 2 ^ 63) :
    (signedAnswer (.ok (.available bytes))).toInt = bytes.toNat := by
  rw [signedAnswer, toInt64?_of_lt h, Option.getD_some, Int64.toInt_ofNat_of_lt h]

theorem signedAnswer_of_wide {bytes : UInt64} (h : 2 ^ 63 ≤ bytes.toNat) :
    signedAnswer (.ok (.available bytes)) = hugePageQueryFailed := by
  rw [signedAnswer, toInt64?_of_le h, Option.getD_none]

end MemoryProbe.Native
