import MemoryProbe.Text.Quoted

/-! Paths are arbitrary bytes. Two paths are taken for the same when they agree in their components
and in whether they start at the root, however many slashes and dots they are written with. -/

namespace MemoryProbe

structure Path where
  bytes : Bytes
deriving DecidableEq, Repr

namespace Path

def slash : UInt8 := 0x2f
def dot : Bytes := [0x2e]
def dotDot : Bytes := [0x2e, 0x2e]

def ofText (t : Text) : Path := ⟨Utf8.encode t⟩

def quoted (p : Path) : Text := Quoted.bytes p.bytes

def isAbsolute (p : Path) : Bool := p.bytes.head? == some slash

def pieces (p : Path) : List Bytes := p.bytes.splitOn slash

def leaf (p : Path) : Bytes := p.pieces.getLast?.getD []

def isProper (piece : Bytes) : Bool := piece != [] && piece != dot

/-- The pieces without the improper ones. Only a dot that begins a relative path
is kept. -/
def components (p : Path) : List Bytes :=
  match p.pieces with
  | [] => []
  | first :: rest => (if first = [] then [] else [first]) ++ rest.filter isProper

def sameAs (p q : Path) : Bool :=
  p.isAbsolute == q.isAbsolute && p.components == q.components

theorem sameAs_iff {p q : Path} :
    p.sameAs q = true ↔ p.isAbsolute = q.isAbsolute ∧ p.components = q.components := by
  simp [sameAs]

def join (dir : Path) (name : Bytes) : Path :=
  if dir.bytes = [] then ⟨name⟩
  else if dir.bytes.getLast? = some slash then ⟨dir.bytes ++ name⟩
  else ⟨dir.bytes ++ slash :: name⟩

end Path
end MemoryProbe
