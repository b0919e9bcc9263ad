import StartupBench.RawText
import StartupBench.Text.Quoted

/-!
# Errors of the operating system

`Errno` names the errors that the system reports by number, `IoError` is an input or output error,
and `PrimitiveError` an error of one named desktop primitive.
-/

namespace StartupBench

/-- An error that the system reports by number. -/
inductive Errno where
  | notPermitted
  | noEntry
  | noProcess
  | noExec
  | noChild
  | accessDenied
  | busy
  | exists
  | notADirectory
  | isADirectory
  | invalid
  | nameTooLong
  | notEmpty
  | tooManyLinks
  deriving DecidableEq, Repr

namespace Errno

/-- The number of the error. -/
def code : Errno → Nat
  | notPermitted => 1
  | noEntry => 2
  | noProcess => 3
  | noExec => 8
  | noChild => 10
  | accessDenied => 13
  | busy => 16
  | «exists» => 17
  | notADirectory => 20
  | isADirectory => 21
  | invalid => 22
  | nameTooLong => 36
  | notEmpty => 39
  | tooManyLinks => 40

/-- The error in words. -/
def description : Errno → String
  | notPermitted => "Operation not permitted"
  | noEntry => "No such file or directory"
  | noProcess => "No such process"
  | noExec => "Exec format error"
  | noChild => "No child processes"
  | accessDenied => "Permission denied"
  | busy => "Device or resource busy"
  | «exists» => "File exists"
  | notADirectory => "Not a directory"
  | isADirectory => "Is a directory"
  | invalid => "Invalid argument"
  | nameTooLong => "File name too long"
  | notEmpty => "Directory not empty"
  | tooManyLinks => "Too many levels of symbolic links"

/-- The error in words, with its number. -/
def message (e : Errno) : String :=
  e.description ++ " (os error " ++ toString e.code ++ ")"

end Errno

/-- An input or output error. -/
inductive IoError where
  | os (errno : Errno)
  | other (message : String)
  /-- A system error on a file of ours that the message names. -/
  | at (errno : Errno) (path : Path)
  deriving DecidableEq, Repr

namespace IoError

/-- The error in words. -/
def message : IoError → String
  | os e => e.message
  | other m => m
  | «at» e path => e.message ++ " at path " ++ Text.quoted path.display

/-- The error, naming the file it concerns. -/
def about (path : Path) : IoError → IoError
  | os e => «at» e path
  | e => e

end IoError

/-- An error of a desktop primitive. -/
structure PrimitiveError where
  /-- The system operation that failed. -/
  operation : String
  cause : IoError
  deriving DecidableEq, Repr

/-- The error in words. -/
def PrimitiveError.message (e : PrimitiveError) : String :=
  e.operation ++ " failed: " ++ e.cause.message

end StartupBench
