import MemoryProbe.Native.Exports

/-! The report: a line for each quantity, and the failures behind the lines that read as failed. It
is made from a host or from the signed results of a library, which lose the reason why there are no
huge pages. -/

namespace MemoryProbe

inductive Quantity
  | pageSize
  | addressSize
  | hugePageSize
deriving DecidableEq, Repr

def Quantity.name : Quantity → Text
  | pageSize => "page size".toList
  | addressSize => "address size".toList
  | hugePageSize => "huge page size".toList

namespace Report

inductive Failure
  /-- A library answered with the sentinel of a failed query. -/
  | queryFailed (what : Quantity)
  /-- A library answered with a number that is neither a size nor a sentinel. -/
  | unexpected (what : Quantity) (value : Int)
  | query (cause : QueryError)
deriving DecidableEq, Repr

def Failure.message : Failure → Text
  | queryFailed what => what.name ++ " query failed".toList
  | unexpected what value =>
    "unexpected ".toList ++ what.name ++ ' ' :: Numeral.signed value
  | query cause => cause.message

inductive HugePages
  | available (bytes : UInt64)
  | unsupported (reason : Option UnsupportedReason)
  | failed (cause : Failure)
deriving DecidableEq, Repr

end Report

structure Report where
  pageSize : Except Report.Failure UInt64
  addressSize : Except Report.Failure UInt64
  hugePageSize : Report.HugePages

namespace Report

def ofSigned (what : Quantity) (value : Int) : Except Failure UInt64 :=
  if value = Native.queryFailed.toInt then .error (.queryFailed what)
  else if value < 0 then .error (.unexpected what value)
  else .ok (UInt64.ofNat value.toNat)

def hugePagesOfSigned (value : Int64) : HugePages :=
  if value = Native.hugePagesUnsupported then .unsupported none
  else if value = Native.hugePageQueryFailed then .failed (.queryFailed .hugePageSize)
  else if value < 0 then .failed (.unexpected .hugePageSize value.toInt)
  else .available value.toUInt64

def ofResults (r : Native.Results) : Report where
  pageSize := ofSigned .pageSize r.pageSize.toInt
  addressSize := ofSigned .addressSize r.addressSize.toInt
  hugePageSize := hugePagesOfSigned r.hugePageSize

def hugePagesOfAnswer : Except QueryError HugePageSize → HugePages
  | .ok (.available bytes) => .available bytes
  | .ok (.unsupported reason) => .unsupported (some reason)
  | .error cause => .failed (.query cause)

def ofHost (host : Host) : Logged Report := do
  let hugePageSize := hugePagesOfAnswer (← host.hugePageSize)
  let pageSize := ((← host.pageSize).map PageSize.bytes).mapError Failure.query
  return { pageSize, addressSize := .ok host.addressSize, hugePageSize }

def ofEnvironment (files : Files) (env : Environment) (system : SystemAnswer := .reference) :
    Logged Report := do
  ofHost (.ofConfig files (← Config.ofEnvironment env) system)

def sizeText : Except Failure UInt64 → Text
  | .ok n => Numeral.decimal n.toNat
  | .error _ => "failed".toList

def HugePages.text : HugePages → Text
  | available bytes => Numeral.decimal bytes.toNat
  | unsupported (some reason) => "unsupported (".toList ++ reason.message ++ [')']
  | unsupported none => "unsupported".toList
  | failed _ => "failed".toList

def line (what : Quantity) (value : Text) : Text := what.name ++ ": ".toList ++ value ++ ['\n']

def text (r : Report) : Text :=
  line .pageSize (sizeText r.pageSize) ++ line .addressSize (sizeText r.addressSize) ++
    line .hugePageSize r.hugePageSize.text

def sizeFailure : Except Failure UInt64 → List Failure
  | .ok _ => []
  | .error f => [f]

def HugePages.failure : HugePages → List Failure
  | failed f => [f]
  | _ => []

def failures (r : Report) : List Failure :=
  sizeFailure r.pageSize ++ sizeFailure r.addressSize ++ r.hugePageSize.failure

end Report
end MemoryProbe
