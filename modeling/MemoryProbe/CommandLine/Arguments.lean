import MemoryProbe.HugePage.Config

/-! The command line. Options may come in any order, each of them once. Reading stops at the first
problem from left to right; a value that follows its option is judged when the next option, or the
end, is reached. -/

namespace MemoryProbe.CommandLine

inductive Binding
  | jni
  | jniLegacy
  | table
  | direct
deriving DecidableEq, Repr

def Binding.name : Binding → Text
  | jni => "jni".toList
  | jniLegacy => "jni-legacy".toList
  | table => "table".toList
  | direct => "direct".toList

def Binding.ofText? (t : Text) : Option Binding :=
  [jni, jniLegacy, table, direct].find? (·.name == t)

inductive ValueOption
  | library
  | binding
  | mountTable
  | meminfo
  | mountPoint
deriving DecidableEq, Repr

def ValueOption.name : ValueOption → Text
  | library => "library".toList
  | binding => "binding".toList
  | mountTable => "mount-table".toList
  | meminfo => "meminfo".toList
  | mountPoint => "mount-point".toList

def ValueOption.ofName? (t : Text) : Option ValueOption :=
  [library, binding, mountTable, meminfo, mountPoint].find? (·.name == t)

def noMountCheckName : Text := "no-mount-check".toList
def helpName : Text := "help".toList

inductive Refusal
  | invalidValue
  | unknownArgument
  | argumentConflict
  | tooManyValues
  | helpRequested
deriving DecidableEq, Repr

def Refusal.message : Refusal → Text
  | invalidValue => "a value is missing or not allowed".toList
  | unknownArgument => "unexpected argument".toList
  | argumentConflict => "an option is given more than once".toList
  | tooManyValues => "a value is given to an option that takes none".toList
  | helpRequested => "help is asked for".toList

def usage : Text :=
  ("Asks for the page size, the address size and the huge page size of this host.\n\n" ++
    "Usage: memquery [OPTIONS]\n\n" ++
    "Options:\n" ++
    "  --library <PATH>      Library to ask, instead of the one of this program\n" ++
    "  --binding <BINDING>   jni, jni-legacy, table or direct [default: jni]\n" ++
    "  --mount-table <PATH>  Mount table to search for hugetlbfs\n" ++
    "  --meminfo <PATH>      Memory statistics with the default huge page size\n" ++
    "  --mount-point <PATH>  Required hugetlbfs mount point, * for any\n" ++
    "  --no-mount-check      Do not require hugetlbfs to be mounted\n" ++
    "  -h, --help            Print help\n").toList

structure Arguments where
  library : Option Path := none
  binding : Option Binding := none
  mountTable : Option Path := none
  meminfo : Option Path := none
  mountPoint : Option Text := none
  noMountCheck : Bool := false
deriving DecidableEq, Repr

namespace Arguments

def isGiven (a : Arguments) : ValueOption → Bool
  | .library => a.library.isSome
  | .binding => a.binding.isSome
  | .mountTable => a.mountTable.isSome
  | .meminfo => a.meminfo.isSome
  | .mountPoint => a.mountPoint.isSome

def pathOfValue (value : Text) : Except Refusal Path :=
  if value = [] then .error .invalidValue else .ok (.ofText value)

/-- An option is given once. A path must not be empty, a mount point may. -/
def assign (a : Arguments) (option : ValueOption) (value : Text) : Except Refusal Arguments :=
  if a.isGiven option then .error .argumentConflict
  else
    match option with
    | .library => do return { a with library := some (← pathOfValue value) }
    | .binding =>
      match Binding.ofText? value with
      | some binding => .ok { a with binding := some binding }
      | none => .error .invalidValue
    | .mountTable => do return { a with mountTable := some (← pathOfValue value) }
    | .meminfo => do return { a with meminfo := some (← pathOfValue value) }
    | .mountPoint => .ok { a with mountPoint := some value }

def chosenBinding (a : Arguments) : Binding := a.binding.getD .jni

def exportTo (a : Arguments) (env : Environment) : Environment :=
  let env := match a.mountTable with
    | some p => env.set Variable.mountTable p.bytes
    | none => env
  let env := match a.meminfo with
    | some p => env.set Variable.meminfo p.bytes
    | none => env
  let env := match a.mountPoint with
    | some t => env.set Variable.mountPoint (Utf8.encode t)
    | none => env
  if a.noMountCheck then env.set Variable.requireMount (Utf8.encode "false".toList) else env

end Arguments

/-- What has been read: an option that waits for its value or to be judged with it, and the
arguments so far. -/
structure Reading where
  pending : Option (ValueOption × Option Text) := none
  arguments : Arguments := {}
deriving DecidableEq, Repr

namespace Reading

def settle (r : Reading) : Except Refusal Arguments :=
  match r.pending with
  | none => .ok r.arguments
  | some (_, none) => .error .invalidValue
  | some (option, some value) => r.arguments.assign option value

def readHelp (r : Reading) : Except Refusal Reading := do
  let _ ← r.settle
  throw .helpRequested

def readNoMountCheck (r : Reading) : Except Refusal Reading := do
  let a ← r.settle
  if a.noMountCheck then throw .argumentConflict
  return { arguments := { a with noMountCheck := true } }

def readValueOption (r : Reading) (option : ValueOption) :
    Option Text → Except Refusal Reading
  | some value => do return { arguments := ← (← r.settle).assign option value }
  | none => do return { pending := some (option, none), arguments := ← r.settle }

/-- A value for an option that takes none is a problem before anything that still waits. -/
def readNamed (r : Reading) (name : Text) (value : Option Text) : Except Refusal Reading :=
  match ValueOption.ofName? name with
  | some option => r.readValueOption option value
  | none =>
    if name = noMountCheckName then
      if value.isSome then .error .tooManyValues else r.readNoMountCheck
    else if name = helpName then
      if value.isSome then .error .tooManyValues else r.readHelp
    else .error .unknownArgument

def readLong (r : Reading) (text : Text) : Except Refusal Reading :=
  match cut '=' text with
  | some (name, value) => r.readNamed name (some value)
  | none => r.readNamed text none

def readValue (r : Reading) (text : Text) : Except Refusal Reading :=
  match r.pending with
  | some (option, none) => .ok { r with pending := some (option, some text) }
  | _ => .error .unknownArgument

def read (r : Reading) : Text → Except Refusal Reading
  | '-' :: '-' :: long => r.readLong long
  | '-' :: 'h' :: _ => r.readHelp
  | '-' :: _ :: _ => .error .unknownArgument
  | text => r.readValue text

def readAll : Reading → List Text → Except Refusal Arguments
  | r, [] => r.settle
  | r, arg :: rest =>
    if arg = ['-', '-'] then
      if rest = [] then r.settle else .error .unknownArgument
    else do readAll (← r.read arg) rest

end Reading

def Arguments.withLibraryOf (env : Environment) (a : Arguments) : Except Refusal Arguments :=
  match a.library, env Variable.library with
  | none, some [] => .error .invalidValue
  | none, some bytes => .ok { a with library := some ⟨bytes⟩ }
  | _, _ => .ok a

def Arguments.parse (env : Environment) (args : List Text) : Except Refusal Arguments := do
  (← Reading.readAll {} args).withLibraryOf env

end MemoryProbe.CommandLine
