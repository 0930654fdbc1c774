import MemoryProbe.Text.Numeral

/-! The symbol by which a Java virtual machine finds a native method: the class and the method name
with every character escaped that a symbol cannot hold. -/

namespace MemoryProbe.Native

def utf16Units (c : Char) : List Nat :=
  if c.toNat < 0x10000 then [c.toNat]
  else [0xd800 + (c.toNat - 0x10000) / 0x400, 0xdc00 + (c.toNat - 0x10000) % 0x400]

def escapeUnit (unit : Nat) : Text := ['_', '0'] ++ Numeral.hexadecimal 4 unit

def escapeSymbolChar (c : Char) : Text :=
  if c = '_' then ['_', '1']
  else if c = ';' then ['_', '2']
  else if c = '[' then ['_', '3']
  else if c.isAlphanum then [c]
  else (utf16Units c).flatMap escapeUnit

def escapeSegment (segment : Text) : Text := segment.flatMap escapeSymbolChar

theorem escapeSegment_append (s t : Text) :
    escapeSegment (s ++ t) = escapeSegment s ++ escapeSegment t := List.flatMap_append

def segments (className : Text) : List Text := className.splitOnP fun c => c == '.' || c == '/'

def nativeSymbol (className methodName : Text) : Text :=
  "Java_".toList ++ ['_'].intercalate ((segments className).map escapeSegment) ++
    '_' :: escapeSegment methodName

/-! The classes and methods for which the library has natives. -/

def memoryUtilsClass : Text := "de.tum.in.net.ixy.memory.MemoryUtils".toList
def jniMemoryManagerClass : Text := "de.tum.in.net.ixy.memory.JniMemoryManager".toList

inductive SymbolSet
  | memoryUtils
  | jniMemoryManager
deriving DecidableEq, Repr

namespace SymbolSet

def className : SymbolSet → Text
  | memoryUtils => memoryUtilsClass
  | jniMemoryManager => jniMemoryManagerClass

def pageSizeSymbol (s : SymbolSet) : Text :=
  nativeSymbol s.className <| match s with
    | memoryUtils => "c_pagesize".toList
    | jniMemoryManager => "c_page_size".toList

def addressSizeSymbol (s : SymbolSet) : Text :=
  nativeSymbol s.className <| match s with
    | memoryUtils => "c_addrsize".toList
    | jniMemoryManager => "c_address_size".toList

def hugePageSizeSymbol (s : SymbolSet) : Text :=
  nativeSymbol s.className <| match s with
    | memoryUtils => "c_hugepage".toList
    | jniMemoryManager => "c_hugepage_size".toList

end SymbolSet

def onLoadSymbol : Text := "JNI_OnLoad".toList

def tableSymbol : Text := "ixy_memory_query_table".toList

end MemoryProbe.Native
