import MemoryProbe.Log.Logged

/-! Where the huge page query looks: the mount table, the statistics, the mount point it wants, and
whether it wants one mounted at all. The environment overrides each of them. -/

namespace MemoryProbe

structure Config where
  mountTable : Path
  meminfo : Path
  /-- None takes a hugetlbfs mount anywhere. -/
  mountPoint : Option Path
  /-- Huge pages only count where hugetlbfs is mounted. -/
  requireMount : Bool
deriving DecidableEq, Repr

namespace Config

def defaultMountPoint : Path := .ofText "/mnt/huge".toList

def default : Config where
  mountTable := MountTable.defaultPath
  meminfo := Meminfo.defaultPath
  mountPoint := some defaultMountPoint
  requireMount := true

def sameAs (c d : Config) : Bool :=
  c.mountTable.sameAs d.mountTable && c.meminfo.sameAs d.meminfo &&
    (match c.mountPoint, d.mountPoint with
      | none, none => true
      | some p, some q => p.sameAs q
      | _, _ => false) &&
    c.requireMount == d.requireMount

def parseMountPoint (t : Text) : Option Path :=
  let trimmed := Text.trim t
  if trimmed = [] ∨ trimmed = ['*'] then none else some (.ofText trimmed)

def parseBool? (t : Text) : Option Bool :=
  let word := (Text.trim t).map Char.toLower
  if word ∈ ["1", "true", "yes", "on"].map String.toList then some true
  else if word ∈ ["0", "false", "no", "off"].map String.toList then some false
  else none

/-- The default with what the variables override. Whether a mount is required keeps its default
when the variable is no boolean. -/
def ofLookup (lookup : Text → Option Text) : Logged Config := do
  let c : Config := {
    mountTable := ((lookup Variable.mountTable).map Path.ofText).getD default.mountTable
    meminfo := ((lookup Variable.meminfo).map Path.ofText).getD default.meminfo
    mountPoint := ((lookup Variable.mountPoint).map parseMountPoint).getD default.mountPoint
    requireMount := default.requireMount }
  match lookup Variable.requireMount with
  | none => return c
  | some value =>
    match parseBool? value with
    | some required => return { c with requireMount := required }
    | none => do
      Logged.log (.ignoredRequireMount value)
      return c

def ofEnvironment (env : Environment) : Logged Config := ofLookup env.text?

end Config
end MemoryProbe
