import MemoryProbe.CommandLine.Run

/-! The program. It reads the environment and the two files that the configuration names, and leaves
the rest to the pure run. -/

namespace MemoryProbe

/-- A directory can be opened and fails only when it is read, then without a name. -/
def fileErrorOf : IO.Error → FileError
  | .noFileOrDirectory .. => .notFound
  | .permissionDenied .. => .permissionDenied
  | .inappropriateType none .. => .isDirectory
  | .inappropriateType (some _) .. => .notDirectory
  | .invalidArgument .. => .nameTooLong
  | _ => .inputOutput

def readPath (p : Path) : IO (Except FileError Bytes) := do
  match Utf8.decode? p.bytes with
  | none => return .error .notFound
  | some [] => return .error .notFound
  | some name =>
    if name.contains '\x00' then return .error .nulInPath
    try
      return .ok (← IO.FS.readBinFile (String.ofList name)).toList
    catch e =>
      return .error (fileErrorOf e)

def readEnvironment : IO Environment := do
  let names := [Variable.mountTable, Variable.meminfo, Variable.mountPoint, Variable.requireMount,
    Variable.library]
  names.foldlM (fun env name => do
    match ← IO.getEnv (String.ofList name) with
    | some value => return env.set name (Utf8.encode value.toList)
    | none => return env) Environment.empty

def readFiles (env : Environment) (args : List Text) : IO Files := do
  match CommandLine.Arguments.parse env args with
  | .error _ => return fun _ => .error .notFound
  | .ok a =>
    let c := (Config.ofEnvironment (a.exportTo env)).value
    let mountTable ← readPath c.mountTable
    let meminfo ← readPath c.meminfo
    return fun p =>
      if p = c.mountTable then mountTable
      else if p = c.meminfo then meminfo
      else .error .notFound

end MemoryProbe

open MemoryProbe in
/-- Shared libraries are not loaded: a library other than the one of this program cannot be opened. -/
def main (args : List String) : IO UInt32 := do
  let args := args.map String.toList
  let env ← readEnvironment
  let files ← readFiles env args
  let outcome := CommandLine.run { files, env, openImage := fun p => .error (.loading p) } args
  IO.print (String.ofList outcome.output)
  unless outcome.error.isEmpty do IO.eprintln (String.ofList outcome.error)
  return outcome.status
