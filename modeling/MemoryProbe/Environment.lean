import MemoryProbe.Text.Utf8

/-! The environment of a process: variables with arbitrary bytes as values. A value counts as text
only if it is UTF-8; any other value is as good as none. -/

namespace MemoryProbe

abbrev Environment := Text → Option Bytes

namespace Environment

def empty : Environment := fun _ => none

def set (env : Environment) (name : Text) (value : Bytes) : Environment :=
  fun n => if n = name then some value else env n

def unset (env : Environment) (name : Text) : Environment :=
  fun n => if n = name then none else env n

section
variable (env : Environment) (value : Bytes) {name other : Text}

@[simp] theorem set_self : env.set name value name = some value := if_pos rfl

theorem set_of_ne (h : other ≠ name) : env.set name value other = env other := if_neg h

@[simp] theorem unset_self : env.unset name name = none := if_pos rfl

theorem unset_of_ne (h : other ≠ name) : env.unset name other = env other := if_neg h

end

def text? (env : Environment) (name : Text) : Option Text := (env name).bind Utf8.decode?

end Environment

/-! The variables that the program reads. -/

namespace Variable

def mountTable : Text := "IXY_MOUNT_TABLE".toList
def meminfo : Text := "IXY_MEMINFO".toList
def mountPoint : Text := "IXY_HUGE_MOUNT".toList
def requireMount : Text := "IXY_HUGE_REQUIRE_MOUNT".toList
def library : Text := "IXY_MEMORY_LIBRARY".toList

end Variable
end MemoryProbe
