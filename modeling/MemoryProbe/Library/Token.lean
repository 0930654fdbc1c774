import MemoryProbe.Text.Utf8

/-! Tokens in the path of a library. A dollar sign with one of three words behind it stands for a
directory of the system, which takes its place before the file is looked for. -/

namespace MemoryProbe.Library

inductive Token
  | origin
  | platform
  | lib
deriving DecidableEq, Repr

namespace Token

def all : List Token := [origin, platform, lib]

def word : Token → Text
  | origin => "ORIGIN".toList
  | platform => "PLATFORM".toList
  | lib => "LIB".toList

/-- What takes the place of the token. The directory of the program holds no libraries, and so
nothing is found by its token. -/
def replacement? : Token → Option Text
  | origin => none
  | platform => some "x86_64".toList
  | lib => some "lib/x86_64-linux-gnu".toList

def dollar : UInt8 := 0x24

def continuesWord (b : UInt8) : Bool :=
  let c := Char.ofNat b.toNat
  c.isAlphanum || c == '_'

/-- What follows the token where it stands directly behind a dollar sign. In braces it ends with
them, and else no letter, digit or underscore may follow it. -/
def after? (t : Token) (piece : Bytes) : Option Bytes :=
  let braced := Utf8.encode (['{'] ++ t.word ++ ['}'])
  let plain := Utf8.encode t.word
  if braced.isPrefixOf piece then some (piece.drop braced.length)
  else if plain.isPrefixOf piece then
    let rest := piece.drop plain.length
    if rest.head?.any continuesWord then none else some rest
  else none

def expandPiece (piece : Bytes) : Option Bytes :=
  match all.findSome? fun t => (t.after? piece).map (t, ·) with
  | none => some (dollar :: piece)
  | some (t, rest) => t.replacement?.map (Utf8.encode · ++ rest)

def expand? (path : Bytes) : Option Bytes :=
  match path.splitOn dollar with
  | [] => some []
  | first :: pieces => (pieces.mapM expandPiece).map fun expanded => first ++ expanded.flatten

end Token
end MemoryProbe.Library
