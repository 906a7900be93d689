/-
# Faults of the system

What the operating system, or the layer that reads files as text, reports when it
refuses a request. Every kind has one wording.
-/

namespace ReleaseBuilder

/-- The refusals of the operating system that carry a number. -/
inductive SystemError where
  | notPermitted
  | noEntry
  | noProcess
  | tooManyArguments
  | badFormat
  | badDescriptor
  | denied
  | busy
  | exists
  | notDirectory
  | isDirectory
  | invalid
  | fileBusy
  | noSpace
  | brokenPipe
  | nameTooLong
  | notEmpty
  | linkLoop
  deriving DecidableEq, Repr

namespace SystemError

/-- The number by which the operating system knows the refusal. -/
def number : SystemError → Nat
  | notPermitted => 1
  | noEntry => 2
  | noProcess => 3
  | tooManyArguments => 7
  | badFormat => 8
  | badDescriptor => 9
  | denied => 13
  | busy => 16
  | «exists» => 17
  | notDirectory => 20
  | isDirectory => 21
  | invalid => 22
  | fileBusy => 26
  | noSpace => 28
  | brokenPipe => 32
  | nameTooLong => 36
  | notEmpty => 39
  | linkLoop => 40

/-- The words of the refusal. -/
def words : SystemError → String
  | notPermitted => "Operation not permitted"
  | noEntry => "No such file or directory"
  | noProcess => "No such process"
  | tooManyArguments => "Argument list too long"
  | badFormat => "Exec format error"
  | badDescriptor => "Bad file descriptor"
  | denied => "Permission denied"
  | busy => "Device or resource busy"
  | «exists» => "File exists"
  | notDirectory => "Not a directory"
  | isDirectory => "Is a directory"
  | invalid => "Invalid argument"
  | fileBusy => "Text file busy"
  | noSpace => "No space left on device"
  | brokenPipe => "Broken pipe"
  | nameTooLong => "File name too long"
  | notEmpty => "Directory not empty"
  | linkLoop => "Too many levels of symbolic links"

/-- The words with the number after them. -/
def message (e : SystemError) : String :=
  e.words ++ " (os error " ++ toString e.number ++ ")"

end SystemError

/-- Why a request to the system could not be met. -/
inductive Fault where
  /-- The operating system refused. -/
  | system (cause : SystemError)
  /-- A file that was to be read as text is not UTF-8. -/
  | notText
  /-- A file name holds a NUL character. -/
  | nulInName
  /-- A command holds a NUL character. -/
  | nulInCommand
  /-- A scripted host knows nothing of the program. -/
  | unknownEntity
  /-- The archive writer does not take a member's name. -/
  | memberName
  /-- There is always more to read: who reads to the end is never answered. -/
  | endless
  /-- A fault told in somebody else's words. -/
  | stated (text : String)
  deriving DecidableEq

/-- The wording of a fault. -/
def Fault.message : Fault → String
  | .system cause => cause.message
  | .notText => "stream did not contain valid UTF-8"
  | .nulInName => "file name contained an unexpected NUL byte"
  | .nulInCommand => "nul byte found in provided data"
  | .unknownEntity => "entity not found"
  | .memberName => "the name cannot be stored in an archive"
  | .endless => "there is no end to be read to"
  | .stated text => text

end ReleaseBuilder
