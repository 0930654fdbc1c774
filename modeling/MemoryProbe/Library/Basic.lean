import MemoryProbe.Native.Exports
import MemoryProbe.Native.Symbol

/-! A loaded library: which symbols it has and what they answer. The natives of either class or the
function table give the results, and what is missing first names the error. -/

namespace MemoryProbe

structure Natives where
  pageSize : Option Int32
  addressSize : Option Int32
  hugePageSize : Option Int64
deriving DecidableEq, Repr

structure QueryTable where
  version : UInt32
  size : UInt32
  results : Native.Results
deriving DecidableEq, Repr

inductive TableSymbol
  | missing
  | null
  | table (t : QueryTable)
deriving DecidableEq, Repr

structure Entry where
  word : Int32 := 0
  long : Int64 := 0
  /-- None is the null pointer. -/
  table : Option QueryTable := none

abbrev SymbolTable := Text → Option Entry

def SymbolTable.ofList (entries : List (Text × Entry)) : SymbolTable := fun name =>
  entries.lookup name

structure Library where
  onLoad : Option Int32
  natives : Native.SymbolSet → Natives
  table : TableSymbol

namespace Library

def ofSymbols (symbols : SymbolTable) : Library where
  onLoad := (symbols Native.onLoadSymbol).map Entry.word
  natives s := {
    pageSize := (symbols s.pageSizeSymbol).map Entry.word
    addressSize := (symbols s.addressSizeSymbol).map Entry.word
    hugePageSize := (symbols s.hugePageSizeSymbol).map Entry.long }
  table := match symbols Native.tableSymbol with
    | none => .missing
    | some entry =>
      match entry.table with
      | none => .null
      | some t => .table t

def tableVersion : UInt32 := 1
def tableSize : UInt32 := 32

inductive Error
  | loading (path : Path)
  | missingSymbol (name : Text)
  | nullTable
  | unsupportedVersion (version : UInt32)
  | tableTooSmall (size version : UInt32)
deriving DecidableEq, Repr

def Error.message : Error → Text
  | loading path => "loading ".toList ++ path.quoted
  | missingSymbol name => "resolving ".toList ++ name
  | nullTable => Native.tableSymbol ++ " returned null".toList
  | unsupportedVersion version =>
    "unsupported memory query table version ".toList ++ Numeral.decimal version.toNat ++
      ", expected ".toList ++ Numeral.decimal tableVersion.toNat
  | tableTooSmall size version =>
    "memory query table is ".toList ++ Numeral.decimal size.toNat ++
      " bytes, too small for version ".toList ++ Numeral.decimal version.toNat

def resolve {α : Type} (name : Text) : Option α → Except Error α
  | some a => .ok a
  | none => .error (.missingSymbol name)

def queryNatives (lib : Library) (s : Native.SymbolSet) : Except Error Native.Results := do
  let pageSize ← resolve s.pageSizeSymbol (lib.natives s).pageSize
  let addressSize ← resolve s.addressSizeSymbol (lib.natives s).addressSize
  let hugePageSize ← resolve s.hugePageSizeSymbol (lib.natives s).hugePageSize
  return { pageSize, addressSize, hugePageSize }

/-- A larger table of the same version only has further entries. -/
def queryTable (lib : Library) : Except Error Native.Results :=
  match lib.table with
  | .missing => .error (.missingSymbol Native.tableSymbol)
  | .null => .error .nullTable
  | .table t =>
    if t.version ≠ tableVersion then .error (.unsupportedVersion t.version)
    else if t.size < tableSize then .error (.tableTooSmall t.size t.version)
    else .ok t.results

end Library
end MemoryProbe
