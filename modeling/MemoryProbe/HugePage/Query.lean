import MemoryProbe.Host.System
import MemoryProbe.HugePage.Config

/-! The huge page query. If a mount is required, it finds the hugetlbfs mount, and a page size to
which the mount is pinned decides. Otherwise the statistics give the default size. The size must be
a power of two larger than the page size of the host. -/

namespace MemoryProbe.HugePage

inductive NoAmount
  | unsupported (reason : UnsupportedReason)
  | failed (cause : QueryError)
deriving DecidableEq, Repr

def NoAmount.answer : NoAmount → Except QueryError HugePageSize
  | unsupported reason => .ok (.unsupported reason)
  | failed cause => .error cause

def validate (page : PageSize) (amount : Amount) : Except QueryError HugePageSize :=
  if IsPowerOfTwo amount.bytes ∧ page.bytes < amount.bytes then .ok (.available amount.bytes)
  else .error (.invalidHugePageSize amount.bytes page.bytes)

def pinnedBy (m : Mount) : Logged (Option Amount) :=
  match m.pageSize? with
  | none => pure none
  | some (.ok amount) => pure (some amount)
  | some (.error cause) => do
    Logged.log (.ignoredPageSize m.dir cause)
    return none

/-- The amount to which the required mount is pinned, if the mount is there. -/
def mountPhase (files : Files) (c : Config) : Logged (Except NoAmount (Option Amount)) := do
  Logged.log (.readingMountTable c.mountTable)
  match MountTable.load files c.mountTable with
  | .error cause =>
    if cause.isNotFound then return .error (.unsupported .mountTableMissing)
    else return .error (.failed (.mountTable cause))
  | .ok table =>
    Logged.logAll (table.skipped.map .skippedLine)
    match table.find? c.mountPoint with
    | none => return .error (.unsupported .noHugetlbfsMount)
    | some m =>
      Logged.log (.foundHugetlbfs m.dir)
      return .ok (← pinnedBy m)

def meminfoPhase (files : Files) (c : Config) : Logged (Except NoAmount Amount) := do
  Logged.log (.readingMeminfo c.meminfo)
  match Meminfo.load files c.meminfo with
  | .error cause =>
    if cause.isNotFound then return .error (.unsupported .meminfoMissing)
    else return .error (.failed (.meminfo cause))
  | .ok info =>
    match info.hugePageSize? with
    | .error cause => return .error (.failed (.meminfo (.malformed cause)))
    | .ok none => return .error (.unsupported .noHugepagesizeEntry)
    | .ok (some amount) => return .ok amount

def amount (files : Files) (c : Config) : Logged (Except NoAmount Amount) := do
  match ← (if c.requireMount then mountPhase files c else pure (.ok none)) with
  | .error e => return .error e
  | .ok (some a) => return .ok a
  | .ok none => meminfoPhase files c

def size (system : SystemAnswer) (files : Files) (c : Config) :
    Logged (Except QueryError HugePageSize) := do
  match ← amount files c with
  | .error e => return e.answer
  | .ok a =>
    match ← PageSize.query system with
    | .error cause => return .error cause
    | .ok page => return validate page a

def query (system : SystemAnswer) (files : Files) (c : Config) :
    Logged (Except QueryError HugePageSize) := do
  let answer ← size system files c
  match answer with
  | .ok s => Logged.log (.hugePageSize s)
  | .error cause => Logged.log (.queryFailed cause)
  return answer

end MemoryProbe.HugePage
