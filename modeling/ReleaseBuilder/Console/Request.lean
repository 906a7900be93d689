/-
# Requests on the command line

What the arguments of the command line ask for. They are read from left to right, and the
first one that cannot be meant, or that asks for help or the version, decides. No option
may be given twice, and nothing but options is taken.
-/

import ReleaseBuilder.FileSystem.Path

namespace ReleaseBuilder.Console

/-- The options of the command line. -/
inductive Choice where
  | root
  | config
  | skipSubmodules
  | nativePlatform
  | verbose
  | help
  | version
  deriving DecidableEq

namespace Choice

/-- The long names of the options. -/
def longNames : List (String × Choice) :=
  [("root", root), ("config", config), ("skip-submodules", skipSubmodules),
    ("native-platform", nativePlatform), ("verbose", verbose), ("help", help),
    ("version", version)]

/-- The options that have a short name. -/
def shortNames : List (Char × Choice) :=
  [('v', verbose), ('h', help), ('V', version)]

end Choice

/-- What a release on the command line goes by. -/
structure Options where
  /-- The root of the project, if it is not the working directory. -/
  root : Option Path := none
  /-- The settings file, if it is not the one in the root. -/
  config : Option Path := none
  skipSubmodules : Bool := false
  nativePlatform : Bool := false
  /-- Whether more is written to the log; the release itself does not depend on it. -/
  verbose : Bool := false
  deriving DecidableEq

/-- What is asked for. -/
inductive Request where
  | release (options : Options)
  | help
  | version
  deriving DecidableEq

namespace Request

/-- What has been read so far: options, or an answer that is already decided. -/
inductive Progress where
  | reading (options : Options)
  | decided (request : Request)

/-- Read an option that has no value. It must not have been given before. -/
def take? (o : Options) : Choice → Option Progress
  | .help => some (.decided .help)
  | .version => some (.decided .version)
  | .skipSubmodules =>
    if o.skipSubmodules then none else some (.reading { o with skipSubmodules := true })
  | .nativePlatform =>
    if o.nativePlatform then none else some (.reading { o with nativePlatform := true })
  | .verbose => if o.verbose then none else some (.reading { o with verbose := true })
  | .root | .config => none

/-- Whether an option is followed by a value. -/
def takesValue (c : Choice) : Bool :=
  c = .root || c = .config

/-- Read an option with its value, which must not be empty. -/
def takeValue? (o : Options) (c : Choice) (value : String) : Option Options :=
  if value.isEmpty then none
  else
    match c with
    | .root => if o.root.isSome then none else some { o with root := some (.ofText value) }
    | .config => if o.config.isSome then none else some { o with config := some (.ofText value) }
    | _ => none

/-- Read the letters of several short options in one argument. -/
def takeLetters? : Options → List Char → Option Progress
  | o, [] => some (.reading o)
  | o, c :: rest =>
    match (Choice.shortNames.lookup c).bind (take? o) with
    | some (.reading o) => takeLetters? o rest
    | other => other

/-- Whether an argument can be the value of the option before it. -/
def isValue (arg : String) : Bool :=
  arg = "-" || arg.toList.head? ≠ some '-'

/-- Read arguments with the options that were read before them. -/
def readWith? : Options → List String → Option Request
  | o, [] => some (.release o)
  | o, arg :: rest =>
    match arg.toList with
    | ['-', '-'] => if rest.isEmpty then some (.release o) else none
    | '-' :: '-' :: long =>
      let name := long.takeWhile (· ≠ '=')
      match Choice.longNames.lookup (String.ofList name), long.drop name.length with
      | none, _ => none
      | some c, '=' :: value =>
        match takeValue? o c (String.ofList value) with
        | some o => readWith? o rest
        | none => none
      | some c, _ =>
        if takesValue c then
          match rest with
          | value :: others =>
            if isValue value then
              match takeValue? o c value with
              | some o => readWith? o others
              | none => none
            else none
          | [] => none
        else
          match take? o c with
          | some (.reading o) => readWith? o rest
          | some (.decided request) => some request
          | none => none
    | '-' :: letter :: letters =>
      match takeLetters? o (letter :: letters) with
      | some (.reading o) => readWith? o rest
      | some (.decided request) => some request
      | none => none
    | _ => none

/-- What arguments ask for, if they can be meant. -/
def read? (args : List String) : Option Request :=
  readWith? {} args

example : read? ["--help", "--bogus"] = some .help := by decide +kernel

example : read? ["--bogus", "--help"] = none := by decide +kernel

example : read? ["--root=a", "-v"] =
    some (.release { root := some (.ofText "a"), verbose := true }) := by
  decide +kernel

example : read? ["--root", "--help"] = none := by decide +kernel

end Request

end ReleaseBuilder.Console
