import MemoryProbe.Files.Basic
import MemoryProbe.MountTable.Mount

/-! A mount table holds the mounts of its readable lines and remembers the lines that it skipped, so
that one odd line never hides the others. -/

namespace MemoryProbe

structure MountTable.SkippedLine where
  number : Nat
  cause : MountTable.SkipCause
  line : Bytes
deriving DecidableEq, Repr

structure MountTable where
  mounts : List Mount
  skipped : List MountTable.SkippedLine
deriving DecidableEq, Repr

namespace MountTable

def defaultPath : Path := .ofText "/etc/mtab".toList

def SkippedLine.message (s : SkippedLine) : Text :=
  "skipping mount table line ".toList ++ Numeral.decimal s.number ++ " with ".toList ++
    s.cause.description ++ ": ".toList ++ Quoted.text (Utf8.lossy s.line)

def LineReading.mount? : LineReading → Option Mount
  | mount m => some m
  | _ => none

def LineReading.skipped? (number : Nat) (line : Bytes) : LineReading → Option SkippedLine
  | unreadable cause => some ⟨number, cause, line⟩
  | _ => none

def lineFeed : UInt8 := 0x0a

/-- Lines are numbered from one, silent lines included. -/
def parse (content : Bytes) : MountTable :=
  let lines := content.splitOn lineFeed
  { mounts := lines.filterMap fun line => (readLine line).mount?
    skipped := (lines.zipIdx 1).filterMap fun (line, number) =>
      (readLine line).skipped? number line }

def selects (point : Option Path) (m : Mount) : Bool :=
  m.isHugetlbfs && point.all m.dir.sameAs

def find? (table : MountTable) (point : Option Path) : Option Mount :=
  table.mounts.find? (selects point)

def findIndex? (table : MountTable) (point : Option Path) : Option Nat :=
  table.mounts.findIdx? (selects point)

inductive LoadError
  | unreadable (path : Path) (cause : FileError)
deriving DecidableEq, Repr

namespace LoadError

def message : LoadError → Text
  | unreadable path cause => unreadableMessage path cause

def isNotFound : LoadError → Bool
  | unreadable _ cause => cause == .notFound

end LoadError

def load (files : Files) (path : Path) : Except LoadError MountTable :=
  match files path with
  | .error cause => .error (.unreadable path cause)
  | .ok content => .ok (parse content)

end MountTable
end MemoryProbe
