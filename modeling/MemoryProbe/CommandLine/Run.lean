import MemoryProbe.CommandLine.Arguments
import MemoryProbe.Library.Image
import MemoryProbe.Report

/-! A run of the program: the configuration of the command line goes into the environment, the
library or the host is asked, and the report is printed. The run fails if anything in the report
failed. -/

namespace MemoryProbe.CommandLine

structure Outcome where
  status : UInt32
  output : Text := []
  error : Text := []
deriving DecidableEq, Repr

structure Setting where
  files : Files
  env : Environment
  system : SystemAnswer := .reference
  openImage : Path → Except Library.Error LibraryImage

def Setting.ofTree (tree : FileTree FileContent) (env : Environment) : Setting where
  files := tree.files
  env := env
  openImage := Library.openImage tree

def queryLibrary (lib : Library) : Binding → Except Library.Error Native.Results
  | .jniLegacy => lib.queryNatives .jniMemoryManager
  | .table => lib.queryTable
  | _ => lib.queryNatives .memoryUtils

/-- Unless a library is asked for, it is the one of this program. -/
def openLibrary (s : Setting) (a : Arguments) : Except Library.Error LibraryImage :=
  match a.library with
  | none => .ok .own
  | some p => s.openImage p

def report (s : Setting) (a : Arguments) : Except Library.Error Report :=
  let env := a.exportTo s.env
  match a.chosenBinding with
  | .direct => .ok (Report.ofEnvironment s.files env s.system).value
  | binding => do
    let image ← openLibrary s a
    return .ofResults (← queryLibrary (Library.ofImage s.files env image s.system) binding)

def errorLine (t : Text) : Text := "Error: ".toList ++ t

def Outcome.ofReport (r : Report) : Outcome :=
  if r.failures = [] then { status := 0, output := r.text }
  else {
    status := 1
    output := r.text
    error := errorLine (", ".toList.intercalate (r.failures.map Report.Failure.message)) }

def Outcome.ofRefusal : Refusal → Outcome
  | .helpRequested => { status := 0, output := usage }
  | r => { status := 2, error := "error: ".toList ++ r.message ++ ['\n'] ++ usage }

def execute (s : Setting) (a : Arguments) : Outcome :=
  match report s a with
  | .error e => { status := 1, error := errorLine e.message }
  | .ok r => .ofReport r

def run (s : Setting) (args : List Text) : Outcome :=
  match Arguments.parse s.env args with
  | .error r => .ofRefusal r
  | .ok a => execute s a

end MemoryProbe.CommandLine
