/-
# Images

What an executable file becomes when it is started. It is a program of the machine, or a
script whose first line names the program that reads it, or it has no format that the
system knows. A name without a separator is looked for in the directories of a search
path.
-/

import ReleaseBuilder.Machine.Calls

namespace ReleaseBuilder.Machine

/-- What an executable file becomes. -/
inductive Image where
  /-- A program of the machine with everything that it is called with, its own name first. -/
  | program (name : String) (args : List String)
  /-- Nothing that the system knows how to start. -/
  | unmarked
  deriving DecidableEq

namespace Image

/-- Whether a character parts the words of the first line of a script. -/
def isGap (c : Char) : Bool := c = ' ' || c = '\t'

/-- How many octets of a script are looked at for its first line. -/
def frontSize : Nat := 256

/-- The program that reads a script, and one option for it. -/
def interpreter? (front : List Char) : Option (String × Option String) :=
  match front with
  | '#' :: '!' :: rest =>
    let line := rest.takeWhile (· ≠ '\n')
    let isWhole := line.length < rest.length || front.length < frontSize ||
      ((line.dropWhile isGap).any isGap)
    let words := ((line.dropWhile isGap).reverse.dropWhile isGap).reverse
    let name := words.takeWhile fun c => !isGap c && c ≠ '\x00'
    let option := (words.drop name.length).dropWhile isGap
    if name.isEmpty || !isWhole then none
    else
      some (String.ofList name,
        if option.isEmpty then none else some (String.ofList (option.takeWhile (· ≠ '\x00'))))
  | _ => none

/-- The front of a content, as a narrow text. -/
def frontOf (content : Content) : List Char :=
  (Text.narrowOf (content.data.extract 0 frontSize)).toList

/-- How many programs may be read by one another. -/
def depthLimit : Nat := 6

/-- The image of the file at a path that is called with arguments, its own name first. -/
def atPath (fs : FileSystem) : Nat → String → List String → Except SystemError Image
  | 0, _, _ => .error .linkLoop
  | depth + 1, path, args =>
    match fs.find (pathOf path) with
    | .error fault => .error fault.cause
    | .ok (_, .file f) =>
      if !f.access.allows .enter then .error .denied
      else
        match f.content with
        | .program name => .ok (.program name args)
        | content =>
          match interpreter? (frontOf content) with
          | some (interpreter, option) =>
            atPath fs depth interpreter (interpreter :: option.toList ++ path :: args.tail)
          | none => .ok .unmarked
    | .ok _ => .error .denied

/-- The image of a path that is called with arguments. -/
def load (fs : FileSystem) (path : String) (args : List String) : Except SystemError Image :=
  atPath fs depthLimit path args

/-- The directories of a search path. -/
def directories (searchPath : String) : List String :=
  (searchPath.toList.splitOn ':').map String.ofList

/-- The path of a name in a directory of a search path. -/
def inDirectory (dir name : String) : String :=
  if dir.isEmpty then name else dir ++ "/" ++ name

/-- The image in the first directory that has one, with its path. A file that may not be
started is passed over, but told of if there is no other. -/
def search (fs : FileSystem) (name : String) (args : List String) (worst : SystemError) :
    List String → Except SystemError (String × Image)
  | [] => .error worst
  | dir :: rest =>
    let path := inDirectory dir name
    match load fs path args with
    | .ok image => .ok (path, image)
    | .error .noEntry | .error .notDirectory => search fs name args worst rest
    | .error .denied => search fs name args .denied rest
    | .error fault => .error fault

/-- The image that a name stands for, with its path. -/
def named (fs : FileSystem) (searchPath name : String) (args : List String) :
    Except SystemError (String × Image) :=
  if name.isEmpty then .error .noEntry
  else if name.toList.contains '/' then
    match load fs name args with
    | .ok image => .ok (name, image)
    | .error fault => .error fault
  else if FileSystem.nameLimit < name.length then .error .nameTooLong
  else search fs name args .noEntry (directories searchPath)

/-- Whether a file that may be started is at a path. -/
def isStartable (fs : FileSystem) (path : String) : Bool :=
  match fs.find (pathOf path) with
  | .ok (_, node) => node.isFile && node.allows .enter
  | .error _ => false

end Image

/-- The value of a name among the entries of an environment. -/
def valueIn? (env : List String) (name : String) : Option String :=
  let front := name ++ "="
  if name.isEmpty then none
  else
    (env.find? (·.startsWith front)).map fun entry =>
      String.ofList (entry.toList.drop front.length)

end ReleaseBuilder.Machine
