import MemoryProbe.Host.Basic

/-! The answers of a host as plain signed integers. What is no size is a sentinel: zero for a query
that failed or a size that does not fit, minus one for a host without huge pages. -/

namespace MemoryProbe.Native

def queryFailed : Int32 := 0
def hugePageQueryFailed : Int64 := 0
def hugePagesUnsupported : Int64 := -1

def toInt32? (n : UInt64) : Option Int32 :=
  if n.toNat < 0x80000000 then some (Int32.ofNat n.toNat) else none

def toInt64? (n : UInt64) : Option Int64 :=
  if n.toNat < 0x8000000000000000 then some (Int64.ofNat n.toNat) else none

def pageSize (host : Host) : Logged Int32 := do
  match ← host.pageSize with
  | .error _ => return queryFailed
  | .ok page =>
    match toInt32? page.bytes with
    | some n => return n
    | none =>
      Logged.log (.pageSizeTooWide page.bytes)
      return queryFailed

def addressSize (host : Host) : Logged Int32 := do
  match toInt32? host.addressSize with
  | some n => return n
  | none =>
    Logged.log (.addressSizeTooWide host.addressSize)
    return queryFailed

def hugePageSize (host : Host) : Logged Int64 := do
  match ← host.hugePageSize with
  | .error _ => return hugePageQueryFailed
  | .ok (.unsupported _) => return hugePagesUnsupported
  | .ok (.available bytes) =>
    match toInt64? bytes with
    | some n => return n
    | none =>
      Logged.log (.hugePageSizeTooWide bytes)
      return hugePageQueryFailed

end MemoryProbe.Native
