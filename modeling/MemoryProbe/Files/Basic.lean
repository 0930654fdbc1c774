import MemoryProbe.Files.Path

/-! What the queries see of a file system: for every path the content of a file, or why it cannot
be read. -/

namespace MemoryProbe

inductive FileError
  | notFound
  | inputOutput
  | permissionDenied
  | notDirectory
  | isDirectory
  | nameTooLong
  | nulInPath
  /-- The content was asked for as text and is none. -/
  | notText
deriving DecidableEq, Repr

namespace FileError

def systemMessage (description : String) (number : Nat) : Text :=
  description.toList ++ " (os error ".toList ++ Numeral.decimal number ++ [')']

def message : FileError → Text
  | notFound => systemMessage "No such file or directory" 2
  | inputOutput => systemMessage "Input/output error" 5
  | permissionDenied => systemMessage "Permission denied" 13
  | notDirectory => systemMessage "Not a directory" 20
  | isDirectory => systemMessage "Is a directory" 21
  | nameTooLong => systemMessage "File name too long" 36
  | nulInPath => "file name contained an unexpected NUL byte".toList
  | notText => "stream did not contain valid UTF-8".toList

end FileError

abbrev Files := Path → Except FileError Bytes

def unreadableMessage (path : Path) (cause : FileError) : Text :=
  "unable to read ".toList ++ path.quoted ++ ": ".toList ++ cause.message

end MemoryProbe
