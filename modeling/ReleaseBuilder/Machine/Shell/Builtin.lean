/-
# Builtin commands

The commands that a shell does itself, by their names.
-/

import ReleaseBuilder.Machine.Shell.Builtin.Children
import ReleaseBuilder.Machine.Shell.Builtin.Finding
import ReleaseBuilder.Machine.Shell.Builtin.Leaving
import ReleaseBuilder.Machine.Shell.Builtin.Places
import ReleaseBuilder.Machine.Shell.Builtin.Settings
import ReleaseBuilder.Machine.Shell.Testing

namespace ReleaseBuilder.Machine.Shell

/-- The names of the builtin commands. -/
def builtinNames : List String :=
  [".", ":", "[", "alias", "bg", "break", "cd", "chdir", "command", "continue", "echo", "eval",
    "exec", "exit", "export", "false", "fg", "getopts", "hash", "jobs", "kill", "local", "printf",
    "pwd", "read", "readonly", "return", "set", "shift", "test", "times", "trap", "true", "type",
    "ulimit", "umask", "unalias", "unset", "wait"]

/-- The builtin commands whose arguments may be assignments. -/
def assigningNames : List String := ["alias", "export", "local", "readonly"]

/-- Become a program, if there is one to become. -/
def exec (args : List String) : Action Nat := do
  if args.isEmpty then return 0
  else execute (← get).searchPath args

/-- Do a builtin command with its arguments. -/
def runBuiltin (p : Powers) (m : Position) (name : String) (args : List String) : Action Nat :=
  match name with
  | "." => source p m args
  | "[" => test true args
  | "alias" => aliasing args
  | "bg" | "fg" => resume args
  | "break" => leaveLoops .break args
  | "cd" | "chdir" => cd args
  | "command" => commandCommand builtinNames args
  | "continue" => leaveLoops .continue args
  | "echo" => echo args
  | "eval" => eval p m args
  | "exec" => exec args
  | "exit" => exit args
  | "export" => export' args
  | "false" => return 1
  | "getopts" => getopts args
  | "hash" => hash builtinNames args
  | "jobs" => jobs args
  | "kill" => kill args
  | "local" => local' args
  | "printf" => printf args
  | "pwd" => pwd args
  | "read" => read args
  | "readonly" => readonly args
  | "return" => return' args
  | "set" => setCommand args
  | "shift" => shift args
  | "test" => test false args
  | "times" => times args
  | "trap" => trap args
  | "type" => typeCommand builtinNames args
  | "ulimit" => ulimit args
  | "umask" => umask args
  | "unalias" => unalias args
  | "unset" => unset args
  | "wait" => wait args
  | _ => return 0

end ReleaseBuilder.Machine.Shell
