import MemoryProbe.Environment
import MemoryProbe.Host.QueryError
import MemoryProbe.HugePage.Size

/-! What the queries log. -/

namespace MemoryProbe

inductive Level
  | trace
  | debug
  | warn
  | error
deriving DecidableEq, Repr

inductive Event
  | readingMountTable (path : Path)
  | skippedLine (line : MountTable.SkippedLine)
  | foundHugetlbfs (dir : Path)
  | ignoredPageSize (dir : Path) (cause : Amount.ParseError)
  | readingMeminfo (path : Path)
  | pageSize (page : PageSize)
  | pageSizeFailed (cause : QueryError)
  | hugePageSize (size : HugePageSize)
  | queryFailed (cause : QueryError)
  | ignoredRequireMount (value : Text)
  | pageSizeTooWide (bytes : UInt64)
  | addressSizeTooWide (bytes : UInt64)
  | hugePageSizeTooWide (bytes : UInt64)
  | nativesLoaded
  | fault
deriving DecidableEq

namespace Event

def level : Event → Level
  | readingMountTable _ | foundHugetlbfs _ | readingMeminfo _ | pageSize _ => .trace
  | hugePageSize _ | nativesLoaded => .debug
  | skippedLine _ | ignoredPageSize _ _ | pageSizeFailed _ | queryFailed _
  | ignoredRequireMount _ | pageSizeTooWide _ | addressSizeTooWide _ | hugePageSizeTooWide _ => .warn
  | fault => .error

def tooWideMessage (what : String) (bytes : UInt64) (type : String) : Text :=
  what.toList ++ ' ' :: Numeral.decimal bytes.toNat ++ " does not fit in a ".toList ++ type.toList

def message : Event → Text
  | readingMountTable path => "reading mount table from ".toList ++ path.quoted
  | skippedLine line => line.message
  | foundHugetlbfs dir => "found hugetlbfs at ".toList ++ dir.quoted
  | ignoredPageSize dir cause =>
    "ignoring pagesize option of ".toList ++ dir.quoted ++ ": ".toList ++ cause.message
  | readingMeminfo path => "reading meminfo from ".toList ++ path.quoted
  | pageSize page => "page size is ".toList ++ page.text
  | pageSizeFailed cause => "unable to query page size: ".toList ++ cause.message
  | hugePageSize size => "huge page size: ".toList ++ size.text
  | queryFailed cause => "unable to query huge page size: ".toList ++ cause.message
  | ignoredRequireMount value =>
    "ignoring ".toList ++ Variable.requireMount ++ '=' :: Quoted.text value ++
      ", expected a boolean".toList
  | pageSizeTooWide bytes => tooWideMessage "page size" bytes "jint"
  | addressSizeTooWide bytes => tooWideMessage "address size" bytes "jint"
  | hugePageSizeTooWide bytes => tooWideMessage "huge page size" bytes "jlong"
  | nativesLoaded => "ixy memory natives loaded".toList
  | fault => "panic in native memory query".toList

def isNotice (e : Event) : Bool := e.level == .warn || e.level == .error

end Event
end MemoryProbe
