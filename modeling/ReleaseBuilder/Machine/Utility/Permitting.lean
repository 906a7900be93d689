/-
# Permissions and their change

Permissions are written as octal digits, or as clauses that say whose permissions are added,
taken away or set. The clauses are done one after another.
-/

import ReleaseBuilder.Machine.Utility.Asking
import ReleaseBuilder.Machine.Utility.Describing

namespace ReleaseBuilder.Machine.Utility

/-- Permissions that letters name, for whom letters mean. -/
def modeBits (before : Nat) (isDirectory : Bool) (who : Nat) (letters : List Char) : Nat :=
  letters.foldl
    (fun bits c =>
      bits ||| (match c with
        | 'r' => 0o444 &&& who
        | 'w' => 0o222 &&& who
        | 'x' => 0o111 &&& who
        | 'X' => if isDirectory || before &&& 0o111 ≠ 0 then 0o111 &&& who else 0
        | 's' =>
          (if who &&& 0o700 ≠ 0 then 0o4000 else 0) ||| (if who &&& 0o070 ≠ 0 then 0o2000 else 0)
        | 't' => 0o1000
        | 'u' => (before / 64 % 8 * 0o111) &&& who
        | 'g' => (before / 8 % 8 * 0o111) &&& who
        | 'o' => (before % 8 * 0o111) &&& who
        | _ => 0))
    0

/-- The permissions of those that letters name. -/
def whoMask (letters : List Char) : Nat :=
  letters.foldl
    (fun bits c =>
      bits ||| (match c with
        | 'u' => 0o700
        | 'g' => 0o070
        | 'o' => 0o007
        | _ => 0o777))
    0

/-- Do one clause of a symbolic mode, given a mask that holds where nobody is named. -/
def clause? (umask : Nat) (isDirectory : Bool) (named : List Char) :
    Nat → Nat → List Char → Option Nat
  | 0, _, _ => none
  | _ + 1, mode, [] => some mode
  | fuel + 1, mode, sign :: rest =>
    if !"+-=".toList.contains sign then none
    else
      let letters := rest.takeWhile "rwxXstugo".toList.contains
      let digits := if letters.isEmpty then rest.takeWhile Char.isDigit else []
      let who := if named.isEmpty then 0o777 - (0o777 &&& umask) else whoMask named
      let bits :=
        if digits.isEmpty then modeBits mode isDirectory who letters
        else Shell.numberOf 8 digits % 4096
      let cleared :=
        if digits.isEmpty then
          (if named.isEmpty then 0o777 else whoMask named) |||
            (if named.isEmpty || named.contains 'u' || named.contains 'a' then 0o4000 else 0) |||
            (if named.isEmpty || named.contains 'g' || named.contains 'a' then 0o2000 else 0) |||
            (if named.isEmpty || named.contains 'a' then 0o1000 else 0)
        else 0o7777
      let cleared := if isDirectory && digits.isEmpty then cleared &&& 0o1777 else cleared
      let mode :=
        match sign with
        | '+' => mode ||| bits
        | '-' => mode - (mode &&& bits)
        | _ => (mode - (mode &&& cleared)) ||| bits
      clause? umask isDirectory named fuel mode (rest.drop (letters.length + digits.length))

/-- Permissions changed as symbols say. -/
def symbolicMode? (umask : Nat) (isDirectory : Bool) (mode : Nat) (clauses : List (List Char)) :
    Option Nat :=
  match clauses with
  | [] => some mode
  | clause :: rest =>
    let named := clause.takeWhile "ugoa".toList.contains
    let actions := clause.drop named.length
    if actions.isEmpty then none
    else
      match clause? umask isDirectory named (actions.length + 1) mode actions with
      | some mode => symbolicMode? umask isDirectory mode rest
      | none => none

/-- The mode that a text says, seen from the one there is. -/
def modeFrom? (umask : Nat) (isDirectory : Bool) (mode : Nat) (text : String) : Option Nat :=
  let cs := text.toList
  if !cs.isEmpty && cs.all fun c => '0' ≤ c && c ≤ '7' then
    let n := Shell.numberOf 8 cs
    if 0o7777 < n then none
    else if isDirectory && cs.length < 5 then some (n ||| (mode &&& 0o6000)) else some n
  else symbolicMode? umask isDirectory mode (cs.splitOn ',')

/-- How permissions are changed. -/
structure Permitting where
  /-- What the permissions are to be. -/
  text : String
  recursive : Bool := false
  quiet : Bool := false
  /-- What is told of each file: every one, or those that were changed. -/
  wordy : Bool := false
  changesOnly : Bool := false
  /-- The text stood where options stand, so that it may do less than it seems to. -/
  asOption : Bool := false

/-- Permissions as number and letters. -/
def shownMode (mode : Nat) : String :=
  octalMode mode ++ " (" ++ permissionText mode ++ ")"

/-- Tell what became of the permissions of a file. -/
def tellMode (k : Permitting) (path : String) (old new : Nat) : Tool Unit := do
  if old ≠ new then
    if k.wordy || k.changesOnly then
      emit ("mode of " ++ inQuotes path ++ " changed from " ++ shownMode old ++ " to " ++
        shownMode new ++ "\n")
  else if k.wordy then
    emit ("mode of " ++ inQuotes path ++ " retained as " ++ shownMode old ++ "\n")

/-- Change the permissions of what is at a path, and of all below it if that is asked for. -/
def changeModes (k : Permitting) : Nat → String → Tool Unit
  | 0, _ => return
  | depth + 1, path => do
    let refused (words : String) : Tool Unit := do
      if !k.quiet then tell words
      mark
    let umask ← request (Program.look fun s => s.me.umask)
    let fs ← files
    match fs.find (pathOf path) with
    | .error fault =>
      let dangles := (fs.stat false (pathOf path)).toOption.isSome && fault.cause = .noEntry
      if dangles then refused ("cannot operate on dangling symlink " ++ inQuotes path)
      else refused ("cannot access " ++ inQuotes path ++ ": " ++ fault.cause.words)
      if k.wordy then emit (inQuotes path ++ " could not be accessed\n")
    | .ok (loc, node) =>
      let old := node.access.mode
      let wanted (mask : Nat) := modeFrom? mask node.isDirectory old k.text
      match wanted umask with
      | none => misuse ("invalid mode: " ++ inQuotes k.text)
      | some mode =>
        match ← change (·.setMode (pathOf path) mode) with
        | .error fault =>
          refused ("changing permissions of " ++ inQuotes path ++ ": " ++ fault.words)
          if k.wordy then
            emit ("failed to change mode of " ++ inQuotes path ++ " from " ++ shownMode old ++
              " to " ++ shownMode mode ++ "\n")
        | .ok () =>
          tellMode k path old mode
          let naive := (wanted 0).getD mode
          if k.asOption && mode - (mode &&& naive) ≠ 0 then
            refused (quotedName path ++ ": new permissions are " ++ permissionText mode ++
              ", not " ++ permissionText naive)
        if k.recursive && node.isDirectory then
          let fs ← files
          if !fs.mayAt loc .read then
            refused ("cannot read directory " ++ inQuotes path ++ ": Permission denied")
          else
            for name in (fs.namesIn loc).mergeSort fun a b => decide (a ≤ b) do
              let inner := path ++ "/" ++ name
              if let .ok (_, .link _) := fs.stat false (pathOf inner) then
                if k.wordy then
                  emit ("neither symbolic link " ++ inQuotes inner ++
                    " nor referent has been changed\n")
              else changeModes k depth inner

/-- Whether an argument is a mode that looks like an option. -/
def looksLikeMode (a : String) : Bool :=
  match a.toList with
  | '-' :: c :: _ => "rwxXstugo0123456789,+=-".toList.contains c && a ≠ "--"
  | _ => false

/-- Change permissions. -/
def chmod : Tool Unit := do
  let switches : List Switch :=
    [⟨"c", "changes", .never⟩, ⟨"f", "silent", .never⟩, ⟨"f", "quiet", .never⟩,
      ⟨"v", "verbose", .never⟩, ⟨"R", "recursive", .never⟩, ⟨"", "reference", .always⟩,
      ⟨"", "preserve-root", .never⟩, ⟨"", "no-preserve-root", .never⟩]
  let call ← read
  let options := call.args.takeWhile (· ≠ "--")
  let symbolic := options.find? fun a => looksLikeMode a && !a.startsWith "--"
  let others := match symbolic with
    | some mode => call.args.erase mode
    | none => call.args
  let a ← withReader (fun call => { call with args := others }) (arguments switches)
  let fs ← files
  let fromOther ← match a.value? "reference" with
    | none => pure none
    | some path =>
      match fs.find (pathOf path) with
      | .ok (_, node) => pure (some (octalMode node.access.mode))
      | .error fault =>
        refuse ("failed to get attributes of " ++ inQuotes path ++ ": " ++ fault.cause.words)
  let (mode?, paths) :=
    match symbolic.or fromOther, a.operands with
    | some mode, paths => (some mode, paths)
    | none, mode :: paths => (some mode, paths)
    | none, [] => (none, [])
  match mode? with
  | none => missingOperand
  | some text =>
    if paths.isEmpty then misuse ("missing operand after " ++ inQuotes text)
    if (modeFrom? 0 false 0 text).isNone then misuse ("invalid mode: " ++ inQuotes text)
    let k : Permitting :=
      { text, recursive := a.has "R", quiet := a.has "f", asOption := symbolic.isSome
        wordy := a.last? ["v", "c"] = some "v", changesOnly := a.has "c" }
    for path in paths do changeModes k nesting path

end ReleaseBuilder.Machine.Utility
