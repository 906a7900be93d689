/-
# Commands

One call of an external program: the program, its arguments, the directory it runs in
and the variables laid over the ones it inherits. The variables are a list that only
grows; the program sees the last value given to a name.
-/

import ReleaseBuilder.FileSystem.Path

namespace ReleaseBuilder

/-- One call of an external program. -/
structure Command where
  program : String
  args : List String := []
  /-- The working directory, if it is not the inherited one. -/
  dir : Option Path := none
  /-- Variables laid over the inherited ones, in the order they were given. -/
  env : List (String × String) := []
  deriving DecidableEq

namespace Command

/-- Add one argument at the end. -/
def arg (c : Command) (a : String) : Command :=
  { c with args := c.args ++ [a] }

/-- Add several arguments at the end. -/
def withArgs (c : Command) (as : List String) : Command :=
  { c with args := c.args ++ as }

/-- Run in a directory. -/
def within (c : Command) (dir : Path) : Command :=
  { c with dir := some dir }

/-- Add variables at the end. -/
def withEnv (c : Command) (vars : List (String × String)) : Command :=
  { c with env := c.env ++ vars }

/-- The command as it is shown: the program and its arguments with a space between them. -/
def text (c : Command) : String :=
  " ".intercalate (c.program :: c.args)

instance : ToString Command := ⟨text⟩

/-- The value that a list of assignments, made in order, gives a name. -/
def assigned? (env : List (String × String)) (name : String) : Option String :=
  env.reverse.lookup name

/-- The value that the command's own variables give a name. -/
def valueOf? (c : Command) (name : String) : Option String :=
  assigned? c.env name

end Command

/-- What a command printed on its standard output, and whether it succeeded. -/
structure CapturedOutput where
  stdout : String
  success : Bool
  deriving DecidableEq

end ReleaseBuilder
