/-
# Utilities that make files and directories

Making directories, empty files, and files of a name or a size of their own.
-/

import ReleaseBuilder.Machine.Utility.Names
import ReleaseBuilder.Machine.Utility.Permitting

namespace ReleaseBuilder.Machine.Utility

/-- Make directories. -/
def mkdir : Tool Unit := do
  let switches : List Switch :=
    [⟨"m", "mode", .always⟩, ⟨"p", "parents", .never⟩, ⟨"v", "verbose", .never⟩,
      ⟨"Z", "", .never⟩]
  let a ← arguments switches
  if a.operands.isEmpty then missingOperand
  let umask ← request (Program.look fun s => s.me.umask)
  let mode ← match a.value? "m" with
    | none => pure none
    | some text =>
      match modeFrom? umask true 0o777 text with
      | some mode => pure (some mode)
      | none => refuse ("invalid mode " ++ inQuotes text)
  for path in a.operands do
    let refused (path : String) (fault : SystemError) : Tool Unit := do
      tell ("cannot create directory " ++ inQuotes path ++ ": " ++ fault.words)
      mark
    let make (path : String) : Tool Bool := do
      match ← change (·.makeDirectory (pathOf path)) with
      | .ok () =>
        if a.has "v" then emit ((← read).name ++ ": created directory " ++ inQuotes path ++ "\n")
        return true
      | .error fault =>
        let fs ← files
        if a.has "p" && fault = .exists && fs.isDirectory (pathOf path) then return false
        else
          refused path fault
          return false
    let rec above : List Path → Tool Bool
      | [] => return true
      | p :: rest => do
        let fs ← files
        if fs.isDirectory p then above rest
        else
          match ← change fun fs => do
            let made ← fs.makeDirectory p
            made.setMode p (Access.masked 0o777 umask ||| 0o300) with
          | .ok () =>
            if a.has "v" then
              emit ((← read).name ++ ": created directory " ++ inQuotes p.text ++ "\n")
            above rest
          | .error fault =>
            refused p.text (if fs.pathExists p then .notDirectory else fault)
            return false
    let missing := if a.has "p" then (FileSystem.stages (pathOf path)).dropLast else []
    if ← above missing then
      if ← make path then
        if let some mode := mode then
          let _ ← change (·.setMode (pathOf path) mode)

/-- Why the times of what is at a path cannot be set to the present, if they cannot. -/
def timesFault? (fs : FileSystem) (follow : Bool) (path : String) : Option SystemError :=
  match fs.stat follow (pathOf path) with
  | .error fault => some fault.cause
  | .ok (_, node) =>
    match node with
    | .link _ => none
    | _ => if node.access.owner = .user || node.allows .write then none else some .denied

/-- Make files that are not there. -/
def touch : Tool Unit := do
  let switches : List Switch :=
    [⟨"a", "", .never⟩, ⟨"c", "no-create", .never⟩, ⟨"m", "", .never⟩, ⟨"d", "date", .always⟩,
      ⟨"r", "reference", .always⟩, ⟨"t", "", .always⟩, ⟨"h", "no-dereference", .never⟩,
      ⟨"f", "", .never⟩, ⟨"", "time", .always⟩]
  let a ← arguments switches
  if let some path := a.value? "r" then
    if let .error fault := (← files).find (pathOf path) then
      refuse ("failed to get attributes of " ++ inQuotes path ++ ": " ++ fault.cause.words)
  if a.operands.isEmpty then misuse "missing file operand"
  let mayMake := !(a.has "c" || a.has "h")
  for path in a.operands do
    let opening : Option SystemError ←
      if !mayMake then pure none
      else
        match ← openPath { writable := true, create := true } path with
        | .ok fd =>
          request (Program.close fd)
          pure none
        | .error fault => pure (some fault)
    match timesFault? (← files) (!a.has "h") path, opening with
    | none, _ => pure ()
    | some fault, some reason =>
      if reason = .isDirectory then
        tell ("setting times of " ++ inQuotes path ++ ": " ++ fault.words)
      else tell ("cannot touch " ++ inQuotes path ++ ": " ++ reason.words)
      mark
    | some fault, none =>
      if !(a.has "c" && fault = .noEntry) then
        tell ("setting times of " ++ inQuotes path ++ ": " ++ fault.words)
        mark

/-- Make a file or a directory of a name that nobody has. -/
def mktemp : Tool Unit := do
  let switches : List Switch :=
    [⟨"d", "directory", .never⟩, ⟨"u", "dry-run", .never⟩, ⟨"q", "quiet", .never⟩,
      ⟨"p", "tmpdir", .maybe⟩, ⟨"t", "", .never⟩, ⟨"", "suffix", .always⟩]
  let a ← arguments switches
  let call ← read
  let scratch := (valueIn? call.env "TMPDIR").getD "/tmp"
  let template := a.operands.headD "tmp.XXXXXXXXXX"
  let inScratch := a.operands.isEmpty || a.has "t" || a.has "p"
  let dir := ((a.value? "p").filter (!·.isEmpty)).getD scratch
  let marks := (template.toList.reverse.dropWhile (· ≠ 'X')).takeWhile (· = 'X')
  if marks.length < 3 then refuse ("too few X's in template " ++ inQuotes template)
  let behind := template.toList.reverse.takeWhile (· ≠ 'X')
  let front := template.toList.take (template.length - behind.length - marks.length)
  let number ← request (Program.ask fun s => (s.next, { s with next := s.next + 1 }))
  let digits := (toString number).toList
  let filled := (List.replicate (marks.length - digits.length) 'a' ++ digits).take marks.length
  let name := String.ofList (front ++ filled ++ behind.reverse) ++ (a.value? "suffix").getD ""
  let path := if inScratch then dir ++ "/" ++ name else name
  let done ←
    if a.has "u" then pure (.ok ())
    else if a.has "d" then change (·.makeDirectory (pathOf path) 0o700)
    else do
      let opening : Opening :=
        { writable := true, create := true, exclusive := true, mode := 0o600 }
      match ← openPath opening path with
      | .ok fd =>
        request (Program.close fd)
        pure (.ok ())
      | .error fault => pure (.error fault)
  match done with
  | .ok () => emit (path ++ "\n")
  | .error fault =>
    let whole := if inScratch then dir ++ "/" ++ template else template
    refuse ("failed to create " ++ (if a.has "d" then "directory" else "file") ++
      " via template " ++ inQuotes whole ++ ": " ++ fault.words)

/-- Bring files to a size. -/
def truncate : Tool Unit := do
  let switches : List Switch :=
    [⟨"s", "size", .always⟩, ⟨"c", "no-create", .never⟩, ⟨"r", "reference", .always⟩,
      ⟨"o", "io-blocks", .never⟩]
  let a ← arguments switches
  let some text := a.value? "s" | misuse "you must specify either '--size' or '--reference'"
  if a.operands.isEmpty then misuse "missing file operand"
  let (sign, digits) :=
    match text.toList with
    | c :: rest => if "+-<>/%".toList.contains c then (c, rest) else (' ', c :: rest)
    | [] => (' ', [])
  let some n := natural? (String.ofList digits) | misuse ("Invalid number: " ++ inQuotes text)
  for path in a.operands do
    let fs ← files
    if a.has "c" && !fs.pathExists (pathOf path) then pure ()
    else
      match ← openPath { writable := true, create := true } path with
      | .error fault =>
        tell ("cannot open " ++ inQuotes path ++ " for writing: " ++ fault.words)
        mark
      | .ok fd =>
        request (Program.change fun s =>
          match s.descriptor? fd with
          | some (_, { target := .file number, .. }) =>
            let old := s.octetsOf number
            let size :=
              match sign with
              | '+' => old.size + n
              | '-' => old.size - n
              | '<' => min old.size n
              | '>' => max old.size n
              | _ => n
            let new := old.extract 0 size ++ ⟨Array.replicate (size - old.size) 0⟩
            { s with files := s.files.fill number (.octets new) }
          | _ => s)
        request (Program.close fd)

end ReleaseBuilder.Machine.Utility
