import MemoryProbe.Files.Basic

/-! A directory with what is below it, as a process sees it whose working directory it is. Names
outside of it are not known: what lies above is taken for directories without any other entry. -/

namespace MemoryProbe

inductive Node (α : Type)
  | directory
  | file (content : α)
deriving DecidableEq, Repr

/-- The nodes by the names that lead to them. The working directory itself, without a name, needs
none. -/
structure FileTree (α : Type) where
  entries : List (List Bytes × Node α)
deriving Repr

namespace FileTree
variable {α : Type}

def empty : FileTree α := ⟨[]⟩

def node? (tree : FileTree α) (names : List Bytes) : Option (Node α) := tree.entries.lookup names

def set (tree : FileTree α) (names : List Bytes) (node : Node α) : FileTree α :=
  ⟨(names, node) :: tree.entries.filter (·.1 != names)⟩

def restrict (tree : FileTree α) (keeps : List Bytes → Bool) : FileTree α :=
  ⟨tree.entries.filter fun e => keeps e.1⟩

theorem lookup_filter (keeps : List Bytes → Bool) (names : List Bytes)
    (entries : List (List Bytes × Node α)) :
    (entries.filter fun e => keeps e.1).lookup names =
      if keeps names then entries.lookup names else none := by
  induction entries with
  | nil => simp
  | cons e entries ih =>
    obtain ⟨key, node⟩ := e
    by_cases h : names = key
    · subst h
      by_cases hk : keeps names
      · simp [hk]
      · simpa [hk] using ih
    · have hb : (names == key) = false := by simpa using h
      by_cases hk : keeps key <;> simp [hk, List.lookup_cons, hb, ih]

@[simp] theorem node?_empty (names : List Bytes) : (empty : FileTree α).node? names = none := rfl

theorem node?_restrict (tree : FileTree α) (keeps : List Bytes → Bool) (names : List Bytes) :
    (tree.restrict keeps).node? names = if keeps names then tree.node? names else none :=
  lookup_filter keeps names tree.entries

theorem node?_set (tree : FileTree α) (key names : List Bytes) (node : Node α) :
    (tree.set key node).node? names = if names = key then some node else tree.node? names := by
  by_cases h : names = key
  · simp [set, node?, h]
  · have hb : (names == key) = false := by simpa using h
    simp [set, node?, List.lookup_cons, hb, h, lookup_filter (· != key)]

inductive Place
  | inside (names : List Bytes)
  | outside
deriving DecidableEq, Repr

def isDirectory (tree : FileTree α) : Place → Bool
  | .outside => true
  | .inside [] => true
  | .inside names =>
    match tree.node? names with
    | some .directory => true
    | _ => false

def parent : Place → Place
  | .outside => .outside
  | .inside [] => .outside
  | .inside names => .inside names.dropLast

def maxNameLength : Nat := 255

def maxPathLength : Nat := 4096

def start (p : Path) : Except FileError Place :=
  if p.bytes.contains 0 then .error .nulInPath
  else if p.bytes = [] then .error .notFound
  else if maxPathLength ≤ p.bytes.length then .error .nameTooLong
  else .ok (if p.isAbsolute then .outside else .inside [])

def step (tree : FileTree α) (place : Place) (piece : Bytes) : Except FileError Place :=
  if !isDirectory tree place then .error .notDirectory
  else if !Path.isProper piece then .ok place
  else if piece = Path.dotDot then .ok (parent place)
  else if maxNameLength < piece.length then .error .nameTooLong
  else
    match place with
    | .outside => .error .notFound
    | .inside names =>
      if (tree.node? (names ++ [piece])).isSome then .ok (.inside (names ++ [piece]))
      else .error .notFound

def resolve (tree : FileTree α) (p : Path) : Except FileError Place := do
  p.pieces.foldlM tree.step (← start p)

def find (tree : FileTree α) (p : Path) : Except FileError (Node α) := do
  match ← tree.resolve p with
  | .outside => return .directory
  | .inside names => return (tree.node? names).getD .directory

def contains (tree : FileTree α) (p : Path) : Bool :=
  match tree.resolve p with
  | .ok _ => true
  | .error _ => false

def content (tree : FileTree α) (p : Path) : Except FileError α := do
  match ← tree.find p with
  | .file content => return content
  | .directory => throw .isDirectory

def reach (tree : FileTree α) (place : Place) (piece : Bytes) : Except FileError Place :=
  match place, tree.step place piece with
  | .inside names, .error .notFound => .ok (.inside (names ++ [piece]))
  | _, result => result

def fill (tree : FileTree α) : Place → FileTree α
  | .outside => tree
  | .inside names => if (tree.node? names).isSome then tree else tree.set names .directory

def stepMaking (walk : FileTree α × Place) (piece : Bytes) :
    Except FileError (FileTree α × Place) := do
  let place ← walk.1.reach walk.2 piece
  return (walk.1.fill place, place)

/-- Makes the directories that the walk along a path passes, and also those that it leaves again by
two dots. -/
def makeDirectories (tree : FileTree α) (p : Path) : Except FileError (FileTree α) := do
  return (← p.pieces.foldlM stepMaking (tree, ← start p)).1

def write (tree : FileTree α) (p : Path) (content : α) : Except FileError (FileTree α) := do
  let (tree, place) ← p.pieces.dropLast.foldlM stepMaking (tree, ← start p)
  let place ← tree.reach place p.leaf
  match place with
  | .outside => throw .isDirectory
  | .inside names =>
    if tree.isDirectory place then throw .isDirectory
    return tree.set names (.file content)

/-- Takes away what is at a path with all that is below it. A directory that the path names by dots
is emptied and stays. -/
def remove (tree : FileTree α) (p : Path) : Except FileError (FileTree α) := do
  match ← tree.resolve p with
  | .outside => return tree
  | .inside names =>
    let stays := p.leaf == Path.dot || p.leaf == Path.dotDot
    return tree.restrict fun key => !names.isPrefixOf key || stays && key == names

end FileTree
end MemoryProbe
