import MemoryProbe.Amount.Parser
import MemoryProbe.Files.Basic

/-! The kernel's memory statistics: lines of a name, a colon and a value. The first line of a name
counts. Values are read on request, as an amount or as a plain count. -/

namespace MemoryProbe

structure Meminfo where
  entries : List (Text × Text)
deriving DecidableEq, Repr

namespace Meminfo

def defaultPath : Path := .ofText "/proc/meminfo".toList

def hugePageSizeName : Text := "Hugepagesize".toList
def hugePagesTotalName : Text := "HugePages_Total".toList
def hugePagesFreeName : Text := "HugePages_Free".toList
def totalName : Text := "MemTotal".toList

inductive ParseError
  | missingColon (line : Text)
  | invalidAmount (name : Text) (cause : Amount.ParseError)
  | invalidCount (name value : Text)
deriving DecidableEq, Repr

def ParseError.message : ParseError → Text
  | missingColon line => "meminfo line without a colon: ".toList ++ Quoted.text line
  | invalidAmount name cause =>
    "invalid value for ".toList ++ name ++ ": ".toList ++ cause.message
  | invalidCount name value =>
    "invalid count for ".toList ++ name ++ ": ".toList ++ Quoted.text value

def parseLine (line : Text) : Except ParseError (Text × Text) :=
  match cut ':' line with
  | none => .error (.missingColon line)
  | some (name, value) => .ok (Text.trim name, Text.trim value)

/-- Lines of white space alone are passed over; of the others, the first without a colon decides
the error. -/
def parse (t : Text) : Except ParseError Meminfo :=
  ((t.lines.filter fun line => !line.all Text.isBlank).mapM parseLine).map Meminfo.mk

def raw? (m : Meminfo) (name : Text) : Option Text := m.entries.lookup name

def amount? (m : Meminfo) (name : Text) : Except ParseError (Option Amount) :=
  match m.raw? name with
  | none => .ok none
  | some value =>
    match Amount.parse value with
    | .ok amount => .ok (some amount)
    | .error cause => .error (.invalidAmount name cause)

def count? (m : Meminfo) (name : Text) : Except ParseError (Option UInt64) :=
  match m.raw? name with
  | none => .ok none
  | some value =>
    match Numeral.count? (Text.trim value) with
    | some n => .ok (some n)
    | none => .error (.invalidCount name value)

def hugePageSize? (m : Meminfo) : Except ParseError (Option Amount) := m.amount? hugePageSizeName

def hugePagesTotal? (m : Meminfo) : Except ParseError (Option UInt64) := m.count? hugePagesTotalName

def hugePagesFree? (m : Meminfo) : Except ParseError (Option UInt64) := m.count? hugePagesFreeName

def total? (m : Meminfo) : Except ParseError (Option Amount) := m.amount? totalName

inductive LoadError
  | unreadable (path : Path) (cause : FileError)
  | malformed (cause : ParseError)
deriving DecidableEq, Repr

namespace LoadError

def message : LoadError → Text
  | unreadable path cause => unreadableMessage path cause
  | malformed cause => cause.message

def isNotFound : LoadError → Bool
  | unreadable _ cause => cause == .notFound
  | malformed _ => false

end LoadError

def load (files : Files) (path : Path) : Except LoadError Meminfo :=
  match files path with
  | .error cause => .error (.unreadable path cause)
  | .ok content =>
    match Utf8.decode? content with
    | none => .error (.unreadable path .notText)
    | some t => (parse t).mapError .malformed

end Meminfo
end MemoryProbe
