import MemoryProbe.Amount.Parser
import MemoryProbe.Files.Path
import MemoryProbe.MountTable.Escape

/-! One line of a mount table. A line may hold a mount, nothing, or something that cannot be read as
a mount. -/

namespace MemoryProbe

structure Mount where
  fsName : Text
  dir : Path
  fsType : Text
  options : List Text
deriving DecidableEq, Repr

namespace Mount

def hugetlbfs : Text := "hugetlbfs".toList
def pageSizeKey : Text := "pagesize".toList

def valueOf? (key option : Text) : Option Text :=
  match cut '=' option with
  | some (k, value) => if k = key then some value else none
  | none => none

def option? (m : Mount) (key : Text) : Option Text := m.options.findSome? (valueOf? key)

def isHugetlbfs (m : Mount) : Bool := m.fsType == hugetlbfs && m.fsName == hugetlbfs

def pageSize? (m : Mount) : Option (Except Amount.ParseError Amount) :=
  (m.option? pageSizeKey).map Amount.parse

end Mount

namespace MountTable

inductive SkipCause
  | tooFewFields
  | badEscape
deriving DecidableEq, Repr

def SkipCause.description : SkipCause → Text
  | tooFewFields => "fewer than four fields".toList
  | badEscape => "a bad octal escape".toList

inductive LineReading
  | silent
  | mount (m : Mount)
  | unreadable (cause : SkipCause)
deriving DecidableEq, Repr

/-- Space, tab, line feed, form feed and carriage return. -/
def isFieldSeparator (b : UInt8) : Bool :=
  b == 0x20 || b == 0x09 || b == 0x0a || b == 0x0c || b == 0x0d

def fields (line : Bytes) : List Bytes :=
  (line.splitOnP isFieldSeparator).filter (· != [])

def hash : UInt8 := 0x23

def readMount? (fsName dir fsType options : Bytes) : Option Mount := do
  let fsName ← unescape? fsName
  let dir ← unescape? dir
  let fsType ← unescape? fsType
  return {
    fsName := Utf8.lossy fsName
    dir := ⟨dir⟩
    fsType := Utf8.lossy fsType
    options := (Utf8.lossy options).splitOn ',' }

/-- Blank lines and comments are silent. A mount needs four fields, of which the first three are
escaped. -/
def readLine (line : Bytes) : LineReading :=
  match fields line with
  | [] => .silent
  | fsName :: rest =>
    if fsName.head? = some hash then .silent
    else
      match rest with
      | dir :: fsType :: options :: _ =>
        match readMount? fsName dir fsType options with
        | some m => .mount m
        | none => .unreadable .badEscape
      | _ => .unreadable .tooFewFields

end MountTable
end MemoryProbe
