/-
# Collecting files

The utility that turns files into an archive and an archive into files. A directory is
collected with all that is below it, symbolic links as links, and a file that was collected
before as another name for it. Names are stored without what would lead out of the
directory they are unpacked in.
-/

import ReleaseBuilder.Compression.Gzip
import ReleaseBuilder.Machine.Escapes
import ReleaseBuilder.Machine.Shell.Pattern
import ReleaseBuilder.Machine.Utility.Octets
import ReleaseBuilder.Tarball.Container

namespace ReleaseBuilder.Machine.Utility

open Tarball (Entry EntryKind)

/-- The words of options that have no value, with their letters. -/
def plainWords : List (String × String) :=
  [("A", "catenate"), ("A", "concatenate"), ("c", "create"), ("d", "diff"), ("d", "compare"),
    ("r", "append"), ("t", "list"), ("u", "update"), ("x", "extract"), ("x", "get"),
    ("G", "incremental"), ("n", "seek"), ("S", "sparse"), ("k", "keep-old-files"),
    ("U", "unlink-first"), ("W", "verify"), ("O", "to-stdout"), ("m", "touch"),
    ("p", "preserve-permissions"), ("p", "same-permissions"), ("s", "preserve-order"),
    ("s", "same-order"), ("M", "multi-volume"), ("B", "read-full-records"),
    ("i", "ignore-zeros"), ("a", "auto-compress"), ("j", "bzip2"), ("J", "xz"), ("z", "gzip"),
    ("z", "gunzip"), ("z", "ungzip"), ("Z", "compress"), ("Z", "uncompress"),
    ("h", "dereference"), ("P", "absolute-names"), ("l", "check-links"), ("R", "block-number"),
    ("v", "verbose"), ("w", "interactive"), ("w", "confirmation"), ("?", "help"), ("o", "")]

/-- The words of options that have no value and no letter. -/
def loneWords : List String :=
  ["acls", "anchored", "check-device", "clamp-mtime", "delay-directory-restore", "delete",
    "exclude-backups", "exclude-caches", "exclude-caches-all", "exclude-caches-under",
    "exclude-vcs", "exclude-vcs-ignores", "force-local", "full-time", "hard-dereference",
    "ignore-case", "ignore-command-error", "ignore-failed-read", "keep-directory-symlink",
    "keep-newer-files", "lzip", "lzma", "lzop", "no-acls", "no-anchored", "no-auto-compress",
    "no-check-device", "no-delay-directory-restore", "no-ignore-case",
    "no-ignore-command-error", "no-null", "no-overwrite-dir", "no-recursion", "no-same-owner",
    "no-same-permissions", "no-seek", "no-selinux", "no-unquote", "no-verbatim-files-from",
    "no-wildcards", "no-wildcards-match-slash", "no-xattrs", "null", "numeric-owner",
    "old-archive", "one-file-system", "overwrite", "overwrite-dir", "portability", "posix",
    "recursion", "recursive-unlink", "remove-files", "restrict", "same-owner", "selinux",
    "show-defaults", "show-omitted-dirs", "show-snapshot-field-ranges", "show-stored-names",
    "show-transformed-names", "skip-old-files", "test-label", "unquote", "usage", "utc",
    "verbatim-files-from", "version", "wildcards", "wildcards-match-slash", "xattrs", "zstd"]

/-- The words of options that have a value, with their letters. -/
def valuedWords : List (String × String) :=
  [("g", "listed-incremental"), ("C", "directory"), ("T", "files-from"), ("X", "exclude-from"),
    ("f", "file"), ("F", "info-script"), ("F", "new-volume-script"), ("L", "tape-length"),
    ("b", "blocking-factor"), ("H", "format"), ("V", "label"), ("I", "use-compress-program"),
    ("K", "starting-file"), ("N", "newer"), ("N", "after-date"), ("", "add-file"),
    ("", "checkpoint-action"), ("", "exclude"), ("", "exclude-ignore"),
    ("", "exclude-ignore-recursive"), ("", "exclude-tag"), ("", "exclude-tag-all"),
    ("", "exclude-tag-under"), ("", "group"), ("", "group-map"), ("", "hole-detection"),
    ("", "index-file"), ("", "level"), ("", "mode"), ("", "mtime"), ("", "newer-mtime"),
    ("", "no-quote-chars"), ("", "owner"), ("", "owner-map"), ("", "pax-option"),
    ("", "quote-chars"), ("", "quoting-style"), ("", "record-size"), ("", "rmt-command"),
    ("", "rsh-command"), ("", "sort"), ("", "sparse-version"), ("", "strip-components"),
    ("", "suffix"), ("", "to-command"), ("", "transform"), ("", "xform"), ("", "volno-file"),
    ("", "warning"), ("", "xattrs-exclude"), ("", "xattrs-include")]

/-- The words of options that may have a value. -/
def maybeWords : List String :=
  ["atime-preserve", "backup", "checkpoint", "occurrence", "one-top-level", "totals"]

/-- The options of the collector. -/
def collectorSwitches : List Switch :=
  plainWords.map (fun (letter, word) => ⟨letter, word, .never⟩) ++
    loneWords.map (fun word => ⟨"", word, .never⟩) ++
    valuedWords.map (fun (letter, word) => ⟨letter, word, .always⟩) ++
    maybeWords.map fun word => ⟨"", word, .maybe⟩

/-- The status of a call that makes no sense. -/
def senselessStatus : Nat := 64

/-- The status of a call that is refused, or that left something out. -/
def refusedStatus : Nat := 2

/-- The options that say what is to be done. -/
def modeKeys : List String := ["A", "c", "d", "r", "t", "u", "x", "delete", "test-label"]

/-- The options that do not go with collecting. -/
def unfittingKeys : List String :=
  ["s", "W", "Z", "K", "L", "occurrence", "one-top-level", "zstd", "lzip", "lzop", "lzma"]

/-- The programs that compress in the way that archives are. -/
def compressorNames : List String := ["gzip", "pigz", "/bin/gzip", "/usr/bin/gzip"]

/-- A name as it is taken from an argument: escapes behind backslashes resolved. -/
def unescapedName : Nat → List Char → List Char
  | 0, _ | _, [] => []
  | fuel + 1, '\\' :: rest =>
    match octalAt? 3 rest, rest with
    | some (c, later), _ => c :: unescapedName fuel later
    | none, 'e' :: _ => '\\' :: unescapedName fuel rest
    | none, '?' :: later => Char.ofNat 127 :: unescapedName fuel later
    | none, c :: later =>
      match controlOf? c with
      | some control => control :: unescapedName fuel later
      | none => '\\' :: unescapedName fuel rest
    | none, [] => ['\\']
  | fuel + 1, c :: rest => c :: unescapedName fuel rest

/-- The path that an operand means. -/
def memberPath (escapes : Bool) (a : String) : String :=
  let name := if escapes then String.ofList (unescapedName a.length a.toList) else a
  let trimmed := Tarball.withoutSlash name
  if trimmed.isEmpty && !name.isEmpty then "/" else trimmed

/-- The name that is stored for a path: what follows the last `..`, without a separator at its
front. -/
def safeName (path : String) : String :=
  let pieces := path.toList.splitOn '/'
  let behind := (pieces.reverse.takeWhile (· ≠ ['.', '.'])).reverse
  match behind.dropWhile List.isEmpty with
  | [] => "."
  | pieces => "/".intercalate (pieces.map String.ofList)

/-- How a collection is made. -/
structure Collecting where
  follow : Bool
  recursive : Bool
  absolute : Bool
  /-- How many names a file has at least if it is looked for among those collected before. -/
  least : Nat
  excluded : List (List Shell.Atom)
  mode : Option Nat

/-- What was collected so far: the entries, the names of files and links that stand among them,
and the names that were told. -/
structure Collected where
  entries : Array Entry := #[]
  files : List (Nat × String) := []
  links : List (Location × String) := []
  names : Array String := #[]

/-- How many names a file has. -/
def nameCount (fs : FileSystem) (number : Nat) : Nat :=
  (fs.nodes.filter (·.2.isNumber number)).length

/-- Whether a path is excluded by a pattern, as a whole or behind a separator. -/
def isExcluded (patterns : List (List Shell.Atom)) (path : String) : Bool :=
  let rec behind : List Char → List (List Char)
    | [] => []
    | c :: rest => if c = '/' then rest :: behind rest else behind rest
  let all := path.toList :: behind path.toList
  patterns.any fun pattern => all.any fun cs => Shell.Pattern.isMatch pattern cs

/-- Collect what is at a path, given how deep it may lie. -/
def collect (k : Collecting) : Nat → String → Collected → Tool Collected
  | 0, _, so => return so
  | depth + 1, path, so => do
    let fs ← files
    if isExcluded k.excluded path then return so
    match fs.stat k.follow (pathOf path) with
    | .error fault =>
      tell (path ++ ": Cannot stat: " ++ fault.cause.words)
      mark refusedStatus
      return so
    | .ok (loc, node) =>
      let name := if k.absolute then path else safeName path
      let mode := k.mode.getD node.access.mode
      let add (kind : EntryKind) (so : Collected) : Collected :=
        { so with entries := so.entries.push ⟨name, mode, kind⟩, names := so.names.push name }
      let refused (fault : SystemError) : Tool Collected := do
        tell (path ++ ": Cannot open: " ++ fault.words)
        mark refusedStatus
        return so
      match node with
      | .directory access =>
        if !access.allows .read then refused .denied
        else
          let so := { so with
            entries := so.entries.push ⟨name, mode, .directory⟩
            names := so.names.push (if name.endsWith "/" then name else name ++ "/") }
          if !k.recursive then return so
          else
            let inner := (fs.namesIn loc).mergeSort fun a b => decide (a ≤ b)
            let front := if path.endsWith "/" then path else path ++ "/"
            inner.foldlM (fun so name => collect k depth (front ++ name) so) so
      | .file f =>
        match so.files.lookup f.number with
        | some other =>
          if k.least < nameCount fs f.number then return add (.sameAs other) so
          else return add (.file f.content.data) so
        | none =>
          if !f.access.allows .read then refused .denied
          else
            return { add (.file f.content.data) so with files := (f.number, name) :: so.files }
      | .link target =>
        match so.links.lookup loc with
        | some other =>
          if k.least = 0 then return add (.sameAs other) so
          else return add (.link target) so
        | none =>
          return { add (.link target) so with links := (loc, name) :: so.links }
      | .device _ =>
        tell (path ++ ": Unknown file type; file ignored")
        return so

/-- How deep directories may stand in one another. -/
def depthLimit : Nat := 4096

/-- The names in a file that lists names. -/
def listedNames (path : String) (byZeros : Bool) : Tool (List String) := do
  match ← readOperand path with
  | .error fault =>
    tell (path ++ ": Cannot open: " ++ fault.words)
    quit refusedStatus
  | .ok octets =>
    let pieces := (Text.narrowOf octets).toList.splitOn (if byZeros then '\x00' else '\n')
    return (pieces.filter (!·.isEmpty)).map String.ofList

/-- Go to another directory. -/
def goTo (dir : String) : Tool Unit := do
  match ← request (Program.ask (·.changeDirectory dir)) with
  | .ok () => return
  | .error fault =>
    tell (dir ++ ": Cannot open: " ++ fault.words)
    tell "Error is not recoverable: exiting now"
    quit refusedStatus

/-- Collect what the arguments name, in order. -/
def collectAll (k : Collecting) (escapes byZeros : Bool) : List Given → Collected → Tool Collected
  | [], so => return so
  | g :: rest, so => do
    let value := g.value.getD ""
    let so ←
      match g.key with
      | "" | "add-file" => collect k depthLimit (memberPath escapes value) so
      | "C" => do
        goTo value
        pure so
      | "T" => do
        let names ← listedNames value byZeros
        names.foldlM (fun so name => collect k depthLimit (memberPath escapes name) so) so
      | _ => pure so
    collectAll k escapes byZeros rest so

/-- Whether an archive is to be compressed, or is compressed. -/
def isCompressed (a : Arguments) (archive : String) : Bool :=
  a.has "z" || (a.value? "I").any compressorNames.contains ||
    (a.has "a" && [".tar.gz", ".tgz", ".taz", ".gz"].any fun ending => archive.endsWith ending)

/-- Write octets to the archive. -/
def writeArchive (archive : String) (octets : ByteArray) : Tool Unit := do
  if archive = "-" then emitOctets octets
  else
    match ← openPath .writing archive with
    | .error fault =>
      tell (archive ++ ": Cannot open: " ++ fault.words)
      tell "Error is not recoverable: exiting now"
      quit refusedStatus
    | .ok fd =>
      match ← request (Program.write fd octets) with
      | .ok () => request (Program.close fd)
      | .error fault =>
        tell (archive ++ ": Cannot write: " ++ fault.words)
        quit refusedStatus

/-- Make an archive. -/
def createArchive (a : Arguments) (archive : String) : Tool Unit := do
  if !a.sequence.any fun g => ["", "T", "add-file"].contains g.key then
    misuse "Cowardly refusing to create an empty archive" refusedStatus
  if unfittingKeys.any a.has then refuse "an option cannot be used with '-c'" refusedStatus
  let formats := ["gnu", "oldgnu", "pax", "posix", "ustar", "v7"]
  if (a.value? "H").any (!formats.contains ·) then
    refuse ((a.value? "H").getD "" ++ ": Invalid archive format") refusedStatus
  if (a.value? "b").any fun n => (natural? n).all (· = 0) then
    refuse ((a.value? "b").getD "" ++ ": Invalid blocking factor") refusedStatus
  if (a.value? "I").any (!compressorNames.contains ·) then
    mutter ("/bin/sh: 1: " ++ (a.value? "I").getD "" ++ ": not found\n")
    quit refusedStatus
  let fromFiles ← (a.values "X").flatMapM fun path => listedNames path false
  let patternOf (s : String) : List Shell.Atom :=
    Shell.Pattern.ofMarked (s.toList.map fun c => (c, false))
  let names := a.sequence.filter fun g => ["", "T", "add-file"].contains g.key
  let k : Collecting :=
    { follow := a.has "h"
      recursive := a.last? ["recursion", "no-recursion"] ≠ some "no-recursion"
      absolute := a.has "P"
      least := if names.length ≤ 1 && !a.has "h" && !a.has "T" then 1 else 0
      excluded := (a.values "exclude" ++ fromFiles).map patternOf
      mode := (a.value? "mode").bind fun s =>
        if s.toList.all isOctal then some (Shell.numberOf 8 s.toList) else none }
  if archive ≠ "-" then
    -- The archive is there, and empty, while files are collected.
    writeArchive archive ByteArray.empty
  let escapes := a.last? ["unquote", "no-unquote"] ≠ some "no-unquote"
  let so ← collectAll k escapes (a.has "null") (if a.has "w" then [] else a.sequence) {}
  if a.has "v" then
    for name in so.names do
      if archive = "-" then mutter (name ++ "\n") else emit (name ++ "\n")
  let octets := Tarball.octetsOf so.entries.toList
  writeArchive archive (if isCompressed a archive then Compression.pack octets else octets)
  if 0 < (← get).status then tell "Exiting with failure status due to previous errors"

/-- The entries of an archive that is read. -/
def readArchive (a : Arguments) (archive : String) : Tool (List Entry) := do
  match ← readOperand archive with
  | .error fault =>
    tell (archive ++ ": Cannot open: " ++ fault.words)
    tell "Error is not recoverable: exiting now"
    quit refusedStatus
  | .ok octets =>
    let packed := Compression.isMarked octets
    if packed && archive = "-" && !isCompressed a archive then
      tell "Archive is compressed. Use -z option"
      tell "Error is not recoverable: exiting now"
      quit refusedStatus
    else if !packed && a.has "z" then
      mutter "\ngzip: stdin: not in gzip format\n"
      tell "Child returned status 1"
      tell "Error is not recoverable: exiting now"
      quit refusedStatus
    else
      let plain := if packed then (Compression.unpack? octets).getD ByteArray.empty else octets
      let (entries, whole) := Tarball.entriesOf plain
      if !whole then
        tell "This does not look like a tar archive"
        mark refusedStatus
      return entries

/-- The name of an entry as it is told. -/
def toldName (e : Entry) : String :=
  match e.kind with
  | .directory => e.name ++ "/"
  | _ => e.name

/-- Whether an entry is among those that are asked for. -/
def isWanted (wanted : List String) (e : Entry) : Bool :=
  wanted.isEmpty || wanted.any fun name => e.name = name || e.name.startsWith (name ++ "/")

/-- A name without so many pieces at its front, if something is left. -/
def strippedName? (count : Nat) (name : String) : Option String :=
  let pieces := (name.toList.splitOn '/').filter fun piece => !piece.isEmpty && piece ≠ ['.']
  let left := pieces.drop count
  if left.isEmpty && 0 < count then none
  else if count = 0 then some name else some ("/".intercalate (left.map String.ofList))

/-- Make what an entry says at a path. -/
def unpackEntry (strip : Nat) (keepMode : Bool) (e : Entry) (path : String) : Tool Unit := do
  let umask ← request (Program.look fun s => s.me.umask)
  let mode := if keepMode then e.mode else Access.masked (e.mode % 512) umask
  let parents := FileSystem.stages (pathOf path) |>.dropLast
  let cleared (fs : FileSystem) : FileSystem := (fs.remove (pathOf path)).toOption.getD fs
  let ready (fs : FileSystem) : Except Fault FileSystem := fs.makeEach parents
  let done ← match e.kind with
    | .directory => change fun fs => do
        let fs ← ready fs
        if fs.isDirectory (pathOf path) then fs.setMode (pathOf path) mode
        else
          let fs ← (cleared fs).makeDirectory (pathOf path)
          fs.setMode (pathOf path) mode
    | .file data => change fun fs => do
        let fs ← ready fs
        let fs ← (cleared fs).write (pathOf path) (.octets data)
        fs.setMode (pathOf path) mode
    | .link target => change fun fs => do
        let fs ← ready fs
        (cleared fs).makeLink (pathOf path) target
    | .sameAs other => change fun fs => do
        let fs ← ready fs
        let known := (strippedName? strip (safeName other)).getD other
        (cleared fs).addName (pathOf known) (pathOf path)
  match done with
  | .ok () => return
  | .error fault =>
    tell (path ++ ": Cannot open: " ++ fault.words)
    mark refusedStatus

/-- Tell the entries of an archive, or turn them into files. -/
def unpackArchive (a : Arguments) (archive : String) (listing : Bool) : Tool Unit := do
  let entries ← readArchive a archive
  let wanted := a.operands.map Tarball.withoutSlash
  let strip := ((a.value? "strip-components").bind natural?).getD 0
  if !listing then
    for dir in a.values "C" do goTo dir
  for e in entries do
    if isWanted wanted e then
      if listing then emit (toldName e ++ "\n")
      else
        match strippedName? strip (if a.has "P" then e.name else safeName e.name) with
        | none => pure ()
        | some path =>
          if a.has "O" then
            if let .file data := e.kind then emitOctets data
          else
            if a.has "v" then emit (toldName e ++ "\n")
            unpackEntry strip (a.has "p") e path
  for name in wanted do
    if !entries.any (isWanted [name]) then
      tell (name ++ ": Not found in archive")
      mark refusedStatus
  if 0 < (← get).status then tell "Exiting with failure status due to previous errors"

/-- Arguments whose first one bundles letters without a hyphen, in the way that is written
now. -/
def unbundled (args : List String) : List String :=
  match args with
  | first :: rest =>
    if first.startsWith "-" || first.isEmpty then args
    else
      let valued (c : Char) : Bool :=
        collectorSwitches.any fun s => s.letter = String.singleton c && s.valued = .always
      let rec go : List Char → List String → List String
        | [], rest => rest
        | c :: letters, rest =>
          match valued c, rest with
          | true, value :: rest => ["-" ++ String.singleton c, value] ++ go letters rest
          | _, rest => ("-" ++ String.singleton c) :: go letters rest
      go first.toList rest
  | [] => []

/-- Make an archive, or read one. -/
def tar : Tool Unit := do
  let a ← match argumentsOf collectorSwitches (unbundled (← read).args) with
    | .ok a => pure a
    | .error problem => do
      tell problem
      mutter "Try 'tar --help' or 'tar --usage' for more information.\n"
      quit senselessStatus
  if ["?", "usage", "version", "show-defaults"].any a.has then quit 0
  let modes := (modeKeys.filter a.has)
  match modes with
  | [] =>
    misuse "You must specify one of the '-Acdtrux', '--delete' or '--test-label' options"
      refusedStatus
  | [mode] =>
    let archive := (a.value? "f").getD "-"
    match mode with
    | "c" => createArchive a archive
    | "t" => unpackArchive a archive true
    | "x" => unpackArchive a archive false
    | _ => refuse "Options are not supported here" refusedStatus
  | _ =>
    misuse
      "You may not specify more than one '-Acdtrux', '--delete' or  '--test-label' option"
      refusedStatus

/-- Read all of a file or the input, or complain. -/
def wholeOf (path : String) : Tool (Option ByteArray) := do
  match ← readOperand path with
  | .ok octets => return some octets
  | .error fault =>
    tellFault path fault
    mark
    return none

/-- Put the result of a file into another one, which gets its permissions, and take the file
away. -/
def exchangeFile (old new : String) (keep forced : Bool) (result : ByteArray) : Tool Unit := do
  let fs ← files
  match fs.find? (pathOf old) with
  | none => return
  | some (_, node) =>
    if fs.pathExists (pathOf new) && !forced then
      tell (new ++ " already exists;\tnot overwritten")
      mark 2
    else
      let done ← change fun fs => do
        let fs ← ((fs.remove (pathOf new)).toOption.getD fs).write (pathOf new) (.octets result)
        let fs ← fs.setMode (pathOf new) node.access.mode
        if keep then return fs else fs.remove (pathOf old)
      match done with
      | .ok () => return
      | .error fault =>
        tellFault new fault
        mark

/-- Compress or uncompress operands. -/
def gzipWith (unpacking toOutput : Bool) : Tool Unit := do
  let digits : List Switch := (List.range 9).map fun n => ⟨toString (n + 1), "", .never⟩
  let switches : List Switch :=
    [⟨"c", "stdout", .never⟩, ⟨"c", "to-stdout", .never⟩, ⟨"d", "decompress", .never⟩,
      ⟨"d", "uncompress", .never⟩, ⟨"f", "force", .never⟩, ⟨"k", "keep", .never⟩,
      ⟨"n", "no-name", .never⟩, ⟨"N", "name", .never⟩, ⟨"q", "quiet", .never⟩,
      ⟨"v", "verbose", .never⟩, ⟨"t", "test", .never⟩, ⟨"1", "fast", .never⟩,
      ⟨"9", "best", .never⟩, ⟨"S", "suffix", .always⟩, ⟨"r", "recursive", .never⟩,
      ⟨"h", "", .never⟩, ⟨"V", "", .never⟩, ⟨"", "rsyncable", .never⟩,
      ⟨"p", "processes", .always⟩] ++ digits
  let a ← arguments switches
  if a.has "h" || a.has "V" then quit 0
  let unpacking := unpacking || a.has "d" || a.has "t"
  let toOutput := toOutput || a.has "c" || a.has "t"
  let suffix := (a.value? "S").getD ".gz"
  let convert (shown : String) (octets : ByteArray) : Tool (Option ByteArray) := do
    if !unpacking then return some (Compression.pack octets)
    else if octets.isEmpty then
      mutter ("\n" ++ "gzip: " ++ shown ++ ": unexpected end of file\n")
      mark
      return none
    else
      match Compression.unpack? octets with
      | some plain => return some plain
      | none =>
        mutter ("\n" ++ "gzip: " ++ shown ++ ": not in gzip format\n")
        mark
        return none
  for path in operandsOr a.operands do
    if path = "-" then
      if let some octets ← wholeOf path then
        if let some result ← convert "stdin" octets then
          if !a.has "t" then emitOctets result
    else
      let fs ← files
      match fs.find? (pathOf path) with
      | some (_, .directory _) =>
        tell (path ++ " is a directory -- ignored")
        mark 2
      | _ =>
        let named := if unpacking && !fs.pathExists (pathOf path) && !path.endsWith suffix
          then path ++ suffix else path
        if !toOutput && unpacking && !(named.endsWith suffix || named.endsWith ".tgz") then
          tell (named ++ ": unknown suffix -- ignored")
          mark 2
        else if !toOutput && !unpacking && path.endsWith suffix then
          tell (path ++ " already has " ++ suffix ++ " suffix -- unchanged")
        else if let some octets ← wholeOf named then
          if let some result ← convert named octets then
            if a.has "t" then pure ()
            else if toOutput then emitOctets result
            else
              let other :=
                if !unpacking then path ++ suffix
                else if named.endsWith suffix then
                  String.ofList (named.toList.take (named.length - suffix.length))
                else String.ofList (named.toList.take (named.length - 4)) ++ ".tar"
              exchangeFile named other (a.has "k") (a.has "f") result

end ReleaseBuilder.Machine.Utility
