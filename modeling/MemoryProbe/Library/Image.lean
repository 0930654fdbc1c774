import MemoryProbe.Files.Tree
import MemoryProbe.Library.Own
import MemoryProbe.Library.Token

/-! Libraries as files. A library is opened by a path with a slash in it, in which tokens are
replaced, and the default library is looked for in two places beside the program. -/

namespace MemoryProbe

inductive LibraryImage
  | own
  | fixed (symbols : SymbolTable)

inductive FileContent
  | data (bytes : Bytes)
  | library (image : LibraryImage)

namespace FileContent

def imageBytes : Bytes := [0x7f, 0x45, 0x4c, 0x46, 0xff]

def bytes : FileContent → Bytes
  | data bytes => bytes
  | library _ => imageBytes

end FileContent

def FileTree.files (tree : FileTree FileContent) : Files := fun p => do
  return (← tree.content p).bytes

namespace Library

def fileName : Text := "libixy_memory.so".toList

def ofImage (files : Files) (env : Environment) (image : LibraryImage)
    (system : SystemAnswer := .reference) : Library :=
  match image with
  | .own => own files env system
  | .fixed symbols => ofSymbols symbols

def bare : SymbolTable := fun _ => none

def withoutTerminator (p : Path) : Path :=
  if p.bytes.getLast? = some 0 then ⟨p.bytes.dropLast⟩ else p

/-- The libraries that every program of the system can open by their names alone: the loader, the
C library with its companions, and the support library of the compiler. -/
def systemNames : List Text :=
  ["ld-linux-x86-64.so.2", "linux-vdso.so.1", "libc.so.6", "libm.so.6", "libmvec.so.1",
    "libdl.so.2", "libpthread.so.0", "librt.so.1", "libutil.so.1", "libresolv.so.2", "libanl.so.1",
    "libgcc_s.so.1"].map String.toList

/-- The empty name stands for the running program, which is no library and exports nothing. A name
without a slash is looked for in the directories of the system alone, and none of the libraries
there exports any of the symbols. -/
def openImage (tree : FileTree FileContent) (p : Path) : Except Error LibraryImage :=
  let name := withoutTerminator p
  if name.bytes.contains Path.slash then
    match (Token.expand? name.bytes).map fun bytes => tree.content ⟨bytes⟩ with
    | some (.ok (.library image)) => .ok image
    | _ => .error (.loading p)
  else if name.bytes = [] ∨ name.bytes ∈ systemNames.map Utf8.encode then .ok (.fixed bare)
  else .error (.loading p)

def find? (tree : FileTree FileContent) (dir : Path) : Option Path :=
  let name := Utf8.encode fileName
  [dir.join name, (dir.join (Utf8.encode "deps".toList)).join name].find? tree.contains

end Library
end MemoryProbe
