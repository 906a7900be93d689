/-
# Builtin commands for the place of work

The working directory and the permissions that new files do not get. A shell keeps the
working directory by the way that led to it, so that going up leads back even if the way
led through a link.
-/

import ReleaseBuilder.Machine.Shell.Builtin.Options

namespace ReleaseBuilder.Machine.Shell

/-- The names of a path. -/
def namesOf (path : String) : List String :=
  ((path.toList.splitOn '/').filter (!·.isEmpty)).map String.ofList

/-- The path that another one leads to from a directory, told by names only. -/
def wayTo (directory path : String) : String :=
  let whole := if path.startsWith "/" then path else directory ++ "/" ++ path
  let root := if whole.startsWith "//" && !whole.startsWith "///" && path ≠ "/" then "//" else "/"
  let names := (namesOf whole).foldl
    (fun kept name =>
      match name with
      | "." => kept
      | ".." => kept.dropLast
      | name => kept ++ [name])
    []
  (if directory = "/" && !path.startsWith "/" then "/" else root) ++ "/".intercalate names

/-- The working directory, by its location. -/
def placeOf (s : State) : String :=
  "/" ++ "/".intercalate s.me.cwd

/-- Tell programs of a place. -/
def announce (name place : String) : Action Unit := do
  assign name place
  modify fun s => s.put name { s.entry name with exported := true }

/-- Work from another directory. `physical` tells that names are taken as the files have them. -/
def moveTo (physical : Bool) (path : String) : Action Bool := do
  let way := wayTo (← get).directory path
  match ← request (Program.ask (·.changeDirectory (if physical then path else way))) with
  | .error _ => return false
  | .ok () =>
    let before := (← get).directory
    let place ← if physical then request (Program.look placeOf) else pure way
    announce "OLDPWD" before
    modify fun s => { s with directory := place }
    announce "PWD" place
    return true

/-- Whether a path says by itself where it starts. -/
def isAnchored (path : String) : Bool :=
  path.startsWith "/" || [".", ".."].contains ((namesOf path).headD "") && !path.isEmpty

/-- Change the working directory. -/
def cd (args : List String) : Action Nat := do
  let (letters, rest) ← lettersOf "LP" args
  let physical := letters.getLast? = some 'P'
  let s ← get
  let (path, told) :=
    match rest with
    | [] => ((s.value? "HOME").getD "", false)
    | "-" :: _ => ((s.value? "OLDPWD").getD "", true)
    | path :: _ => (path, false)
  let fs ← request (Program.look State.view)
  let through : List (String × Bool) :=
    if isAnchored path then []
    else
      ((s.value? "CDPATH").map Image.directories).getD [] |>.map fun dir =>
        (Image.inDirectory dir (if path.isEmpty then "." else path), !dir.isEmpty)
  let (place, found) :=
    match through.find? fun way => fs.isDirectory (pathOf way.1) with
    | some way => way
    | none => (if path.isEmpty then "." else path, false)
  if ← moveTo physical place then
    if told || found then put ((← get).directory ++ "\n") else return 0
  else fail ("can't cd to " ++ path)

/-- Tell the working directory. -/
def pwd (args : List String) : Action Nat := do
  let (letters, _) ← lettersOf "LP" args
  let place ←
    if letters.getLast? = some 'P' then request (Program.look placeOf)
    else pure (← get).directory
  put (place ++ "\n")

/-- Permissions as letters, for the owner, the group and the others. -/
def permissionText (mode : Nat) : String :=
  let letters (who : String) (shift : Nat) : String :=
    let part := mode / shift % 8
    who ++ "=" ++ (if part &&& 4 ≠ 0 then "r" else "") ++ (if part &&& 2 ≠ 0 then "w" else "") ++
      (if part &&& 1 ≠ 0 then "x" else "")
  letters "u" 64 ++ "," ++ letters "g" 8 ++ "," ++ letters "o" 1

/-- Whom the letters of a symbolic mode mean: a bit for each. -/
def whoBits : List Char → Nat
  | [] => 0
  | c :: rest =>
    (match c with
      | 'a' => 0o111
      | 'u' => 0o100
      | 'g' => 0o010
      | _ => 0o001) ||| whoBits rest

/-- The permissions that letters mean. -/
def permissionBits (mode : Nat) : List Char → Nat
  | [] => 0
  | c :: rest =>
    (match c with
      | 'r' => 4
      | 'w' => 2
      | 'x' => 1
      | 'u' => mode / 64
      | 'g' => mode / 8
      | 'o' => mode
      | 'X' => if mode &&& 0o111 ≠ 0 then 1 else 0
      | _ => 0) ||| permissionBits mode rest

/-- Change permissions as symbols say, if they say anything. `before` is what the permissions
were at first. -/
def symbolic? (before : Nat) : Nat → Nat → Nat → List Char → Option Nat
  | 0, _, _, _ => none
  | _ + 1, mode, _, [] => some mode
  | fuel + 1, mode, who, cs =>
    let named := cs.takeWhile "augo".toList.contains
    let who := who ||| whoBits named
    let who := if who = 0 then 0o111 else who
    match cs.drop named.length with
    | sign :: rest =>
      if !"=+-".toList.contains sign then none
      else
        let letters := rest.takeWhile "rwxugoXs".toList.contains
        let bits := permissionBits before letters % 8 * who
        let mode :=
          match sign with
          | '-' => mode - (mode &&& bits)
          | '+' => mode ||| bits
          | _ => bits ||| (mode - (mode &&& (who * 7)))
        match rest.drop letters.length with
        | ',' :: later => symbolic? before fuel mode 0 later
        | [] => some mode
        | c :: later =>
          if "=+-".toList.contains c then symbolic? before fuel mode who (c :: later) else none
    | [] => none

/-- Tell or change the permissions that new files do not get. -/
def umask (args : List String) : Action Nat := do
  let (letters, rest) ← lettersOf "S" args
  let mask ← request (Program.look fun s => s.me.umask)
  let change (mask : Nat) : Action Nat := do
    request (Program.change fun s => s.changeMe fun m => { m with umask := mask % 0o1000 })
    return 0
  match rest with
  | [] =>
    let digits := String.ofList (Nat.toDigits 8 mask)
    put ((if letters.isEmpty then String.ofList (List.replicate (4 - digits.length) '0') ++ digits
      else permissionText (0o777 - mask)) ++ "\n")
  | a :: _ =>
    if a.toList.head?.any Char.isDigit then
      if a.toList.all isOctal then change (numberOf 8 a.toList)
      else fail ("Illegal number: " ++ a)
    else
      match symbolic? (0o777 - mask) (a.length + 1) (0o777 - mask) 0 a.toList with
      | some mode => change (0o777 - mode)
      | none => fail ("Illegal mode: " ++ a)

end ReleaseBuilder.Machine.Shell
