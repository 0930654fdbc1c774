import MemoryProbe.Text.Numeral

/-! The answer about huge pages: their size, or why the host has none. A host without huge pages is
not a failure, and its answer is not a size of zero. -/

namespace MemoryProbe

inductive UnsupportedReason
  | platform
  | mountTableMissing
  | noHugetlbfsMount
  | meminfoMissing
  | noHugepagesizeEntry
deriving DecidableEq, Repr

def UnsupportedReason.message : UnsupportedReason → Text
  | platform => "huge pages are not supported on this platform".toList
  | mountTableMissing => "no mount table".toList
  | noHugetlbfsMount => "hugetlbfs is not mounted".toList
  | meminfoMissing => "no meminfo".toList
  | noHugepagesizeEntry => "meminfo has no Hugepagesize entry".toList

inductive HugePageSize
  | available (bytes : UInt64)
  | unsupported (reason : UnsupportedReason)
deriving DecidableEq, Repr

namespace HugePageSize

def bytes? : HugePageSize → Option UInt64
  | available bytes => some bytes
  | unsupported _ => none

def isAvailable (s : HugePageSize) : Bool := s.bytes?.isSome

def text : HugePageSize → Text
  | available bytes => Numeral.decimal bytes.toNat
  | unsupported reason => "unsupported (".toList ++ reason.message ++ [')']

end HugePageSize
end MemoryProbe
