import MemoryProbe.Host.PageSize
import MemoryProbe.Meminfo
import MemoryProbe.MountTable.Basic

/-! Why a query about the host's memory failed outright. -/

namespace MemoryProbe

inductive SystemRefusal
  | notPermitted
  | invalidArgument
  /-- Any other error number, by its name and description. -/
  | other (text : Text)
deriving DecidableEq, Repr

def SystemRefusal.message : SystemRefusal → Text
  | notPermitted => "EPERM: Operation not permitted".toList
  | invalidArgument => "EINVAL: Invalid argument".toList
  | other text => text

inductive QueryError
  | pageSizeRefused (cause : SystemRefusal)
  | pageSizeUndefined
  | invalidPageSize (bytes : Int64)
  | meminfo (cause : Meminfo.LoadError)
  | mountTable (cause : MountTable.LoadError)
  | invalidHugePageSize (size pageSize : UInt64)
deriving DecidableEq, Repr

def QueryError.message : QueryError → Text
  | pageSizeRefused cause => "sysconf(_SC_PAGESIZE) failed: ".toList ++ cause.message
  | pageSizeUndefined => "sysconf(_SC_PAGESIZE) is not defined on this system".toList
  | invalidPageSize bytes =>
    "page size ".toList ++ Numeral.signed bytes.toInt ++ " is not a positive power of two".toList
  | meminfo cause => cause.message
  | mountTable cause => cause.message
  | invalidHugePageSize size pageSize =>
    "huge page size ".toList ++ Numeral.decimal size.toNat ++
      " is not a power of two larger than the page size ".toList ++
      Numeral.decimal pageSize.toNat

def PageSize.ofInt64 (bytes : Int64) : Except QueryError PageSize :=
  match ofInt64? bytes with
  | some p => .ok p
  | none => .error (.invalidPageSize bytes)

end MemoryProbe
