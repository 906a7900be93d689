/-
# Utilities that list files

The names in directories, what is known of files, and what stands below a directory.
-/

import ReleaseBuilder.Machine.Directive
import ReleaseBuilder.Machine.Shell.Pattern
import ReleaseBuilder.Machine.Utility.Launching
import ReleaseBuilder.Machine.Utility.Names
import ReleaseBuilder.Machine.Utility.Permitting

namespace ReleaseBuilder.Machine.Utility

/-! ## Listing directories -/

/-- How names are listed. -/
structure LsStyle where
  long : Bool
  all : Bool
  almostAll : Bool
  recursive : Bool
  asItself : Bool
  follow : Bool
  classified : Bool
  slashes : Bool
  reversed : Bool
  bySize : Bool
  unsorted : Bool
  numbers : Bool
  commas : Bool
  zeros : Bool
  human : Bool
  deriving Inhabited

/-- Something that is listed: its name, where it is, and what it is. -/
structure Listed where
  name : String
  loc : Location
  node : Node

/-- The sign behind a name that tells what it stands for. -/
def classSign (style : LsStyle) (node : Node) : String :=
  match node with
  | .directory _ => if style.classified || style.slashes then "/" else ""
  | .link _ => if style.classified && !style.long then "@" else ""
  | .file f => if style.classified && f.access.mode &&& 0o111 ≠ 0 then "*" else ""
  | .device _ => ""

/-- Things in the order in which they are listed. -/
def inListOrder (style : LsStyle) (all : List Listed) : List Listed :=
  let byName := all.mergeSort fun a b => decide (a.name ≤ b.name)
  let sorted :=
    if style.unsorted then all
    else if style.bySize then byName.mergeSort fun a b => decide (nodeSize b.node ≤ nodeSize a.node)
    else byName
  if style.reversed && !style.unsorted then sorted.reverse else sorted

/-- A size with a unit. -/
def humanSize (n : Nat) : String :=
  let rec go : Nat → Nat → List String → String
    | 0, n, _ => toString n
    | fuel + 1, n, units =>
      match units with
      | [] => toString n
      | unit :: rest =>
        if n < 1024 * 1024 || rest.isEmpty then
          let tenths := (n * 10 + 1023) / 1024
          if tenths < 100 then toString (tenths / 10) ++ "." ++ toString (tenths % 10) ++ unit
          else toString ((n + 1023) / 1024) ++ unit
        else go fuel ((n + 1023) / 1024) rest
  if n < 1024 then toString n else go 8 n ["K", "M", "G", "T"]

/-- A text with blanks behind it, up to a width. -/
def filledUp (width : Nat) (s : String) : String :=
  s ++ String.ofList (List.replicate (width - s.length) ' ')

/-- A text with blanks before it, up to a width. -/
def pushed (width : Nat) (s : String) : String :=
  String.ofList (List.replicate (width - s.length) ' ') ++ s

/-- List things. -/
def listThings (style : LsStyle) (all : List Listed) : Tool Unit := do
  let fs ← files
  let ending := if style.zeros then "\x00" else "\n"
  if style.long then
    let row (l : Listed) : List String :=
      let size := nodeSize l.node
      [toString (linkCount fs l.loc l.node), ownerName l.node,
        if style.human then humanSize size else toString size]
    let rows := all.map row
    let width (i : Nat) : Nat := (rows.map fun r => (r[i]?.getD "").length).foldl max 0
    for l in all do
      let cells := row l
      let cell (i : Nat) : String := cells[i]?.getD ""
      let target :=
        match l.node with
        | .link target => " -> " ++ target
        | _ => ""
      let owner := filledUp (width 1) (cell 1)
      emit (modeText l.node ++ " " ++ pushed (width 0) (cell 0) ++ " " ++ owner ++ " " ++ owner ++
        " " ++ pushed (width 2) (cell 2) ++ " Jan  1  2024 " ++ l.name ++ target ++
        classSign style l.node ++ ending)
  else if style.commas then
    emit (", ".intercalate (all.map fun l => l.name ++ classSign style l.node) ++ "\n")
  else
    for l in all do
      let number :=
        match style.numbers, l.node with
        | true, .file f => toString f.number ++ " "
        | true, _ => "1 "
        | false, _ => ""
      emit (number ++ l.name ++ classSign style l.node ++ ending)

/-- The blocks that things take, in units of 1024 octets. -/
def blocksOf (all : List Listed) : Nat :=
  total (all.map fun l =>
    match l.node with
    | .link _ | .device _ => 0
    | node => (nodeSize node + 4095) / 4096 * 4)

/-- List what is in a directory, and in those below it if that is asked for. -/
def listDirectory (style : LsStyle) (titled : Bool) : Nat → Bool → String → Tool Unit
  | 0, _, _ => return
  | depth + 1, isFirst, path => do
    let fs ← files
    match fs.find (pathOf path) with
    | .ok (loc, .directory access) =>
      if !access.allows .read then
        tell ("cannot open directory " ++ inQuotes path ++ ": Permission denied")
        mark 2
      else
        if titled then emit ((if isFirst then "" else "\n") ++ path ++ ":\n")
        let own := if style.all then
            [(".", loc), ("..", loc.dropLast)].filterMap fun (name, at') =>
              (fs.get? at').map fun node => (⟨name, at', node⟩ : Listed)
          else []
        let inner := (fs.namesIn loc).filterMap fun name =>
          if name.startsWith "." && !style.all && !style.almostAll then none
          else
            let at' := loc ++ [name]
            let found := if style.follow then fs.find? ((Path.mk path).join ⟨name⟩)
              else (fs.get? at').map fun node => (at', node)
            found.map fun (at', node) => (⟨name, at', node⟩ : Listed)
        let all := inListOrder style (own ++ inner)
        if style.long then emit ("total " ++ toString (blocksOf all) ++ "\n")
        if !(all.isEmpty && style.commas) then listThings style all
        if style.recursive then
          for l in all do
            if l.node.isDirectory && l.name ≠ "." && l.name ≠ ".." then
              listDirectory style titled depth false
                ((if path.endsWith "/" then path else path ++ "/") ++ l.name)
    | .ok _ => return
    | .error fault =>
      tell ("cannot access " ++ inQuotes path ++ ": " ++ fault.cause.words)
      mark 2

/-- List files, and what is in directories. -/
def ls : Tool Unit := do
  let switches : List Switch :=
    [⟨"1", "", .never⟩, ⟨"a", "all", .never⟩, ⟨"A", "almost-all", .never⟩,
      ⟨"C", "", .never⟩, ⟨"d", "directory", .never⟩, ⟨"F", "classify", .maybe⟩,
      ⟨"f", "", .never⟩, ⟨"g", "", .never⟩, ⟨"G", "no-group", .never⟩,
      ⟨"h", "human-readable", .never⟩, ⟨"i", "inode", .never⟩,
      ⟨"l", "", .never⟩, ⟨"L", "dereference", .never⟩, ⟨"m", "", .never⟩,
      ⟨"n", "numeric-uid-gid", .never⟩, ⟨"o", "", .never⟩, ⟨"p", "", .never⟩,
      ⟨"q", "hide-control-chars", .never⟩, ⟨"Q", "quote-name", .never⟩, ⟨"r", "reverse", .never⟩,
      ⟨"R", "recursive", .never⟩, ⟨"s", "size", .never⟩, ⟨"S", "", .never⟩, ⟨"t", "", .never⟩,
      ⟨"u", "", .never⟩, ⟨"U", "", .never⟩, ⟨"v", "", .never⟩, ⟨"x", "", .never⟩,
      ⟨"X", "", .never⟩, ⟨"H", "", .never⟩, ⟨"N", "literal", .never⟩, ⟨"", "zero", .never⟩,
      ⟨"", "color", .maybe⟩, ⟨"", "group-directories-first", .never⟩, ⟨"I", "ignore", .always⟩,
      ⟨"", "full-time", .never⟩, ⟨"", "time-style", .always⟩, ⟨"w", "width", .always⟩]
  let a ← arguments switches true 2
  let style : LsStyle :=
    { long := a.last? ["l", "n", "g", "o", "1", "C", "x", "m"] |>.any fun k =>
        ["l", "n", "g", "o", "1"].contains k && ["l", "n", "g", "o"].any a.has
      all := a.has "a" || a.has "f"
      almostAll := a.has "A"
      recursive := a.has "R"
      asItself := a.has "d"
      follow := a.has "L"
      classified := a.has "F"
      slashes := a.has "p"
      reversed := a.has "r"
      bySize := a.has "S"
      unsorted := a.has "U" || a.has "f"
      numbers := a.has "i"
      commas := a.last? ["m", "l", "1", "C", "x"] = some "m"
      zeros := a.has "zero"
      human := a.has "h" }
  let paths := if a.operands.isEmpty then ["."] else a.operands
  let mut single : List Listed := []
  let mut inner : List Listed := []
  for path in paths do
    let fs ← files
    let linked := fs.stat false (pathOf path)
    let followed := fs.find (pathOf path)
    let leadsAway := match followed with
      | .ok (_, node) => node.isDirectory && !style.long && !style.asItself && !style.classified
      | .error _ => false
    match if style.follow || leadsAway then followed else linked with
    | .error fault =>
      tell ("cannot access " ++ inQuotes path ++ ": " ++ fault.cause.words)
      mark 2
    | .ok (loc, node) =>
      if node.isDirectory && !style.asItself then inner := ⟨path, loc, node⟩ :: inner
      else single := ⟨path, loc, node⟩ :: single
  let singles := inListOrder style single.reverse
  listThings style singles
  let titled := 1 < paths.length || style.recursive
  let mut isFirst := singles.isEmpty
  for l in inListOrder style inner.reverse do
    listDirectory style titled nesting isFirst l.name
    isFirst := false

/-! ## Telling what is known -/

/-- What a directive tells of a file. -/
def statPart (fs : FileSystem) (path : String) (loc : Location) (node : Node) (c : Char) : String :=
  match c with
  | 'a' => String.ofList (Nat.toDigits 8 node.access.mode)
  | 'A' => modeText node
  | 's' => toString (nodeSize node)
  | 'n' => path
  | 'N' =>
    match node with
    | .link target => inQuotes path ++ " -> " ++ inQuotes target
    | _ => inQuotes path
  | 'F' => kindWords node
  | 'h' => toString (linkCount fs loc node)
  | 'U' | 'G' => ownerName node
  | 'u' | 'g' => if node.access.owner = .user then "1000" else "0"
  | 'b' => toString ((nodeSize node + 4095) / 4096 * 8)
  | 'B' => "512"
  | 'o' => "4096"
  | 'f' =>
    let kind := match node with
      | .file _ => 0o100000
      | .directory _ => 0o040000
      | .link _ => 0o120000
      | .device _ => 0o020000
    String.ofList (Nat.toDigits 16 (kind + node.access.mode))
  | 'i' =>
    match node with
    | .file f => toString f.number
    | _ => "1"
  | '%' => "%"
  | _ => "?"

/-- A format with what it tells of a file. -/
def statText (part : Char → String) (escapes : Bool) : Nat → List Char → String
  | 0, _ | _, [] => ""
  | fuel + 1, '%' :: rest =>
    let flags := rest.takeWhile fun c => "#-+ 0".toList.contains c
    let width := (rest.drop flags.length).takeWhile Char.isDigit
    match rest.drop (flags.length + width.length) with
    | c :: later =>
      let d : Directive := { flags, width := Shell.numberOf 10 width, conversion := 's' }
      d.padded (part c) ++ statText part escapes fuel later
    | [] => "%"
  | fuel + 1, '\\' :: rest =>
    match escapes, rest with
    | true, 'n' :: later => "\n" ++ statText part escapes fuel later
    | true, 't' :: later => "\t" ++ statText part escapes fuel later
    | true, '0' :: later => "\x00" ++ statText part escapes fuel later
    | true, c :: later => String.singleton c ++ statText part escapes fuel later
    | _, _ => "\\" ++ statText part escapes fuel rest
  | fuel + 1, c :: rest => String.singleton c ++ statText part escapes fuel rest

/-- Tell what is known of files, by a format. -/
def stat : Tool Unit := do
  let switches : List Switch :=
    [⟨"L", "dereference", .never⟩, ⟨"f", "file-system", .never⟩, ⟨"c", "format", .always⟩,
      ⟨"", "printf", .always⟩, ⟨"t", "terse", .never⟩]
  let a ← arguments switches
  if a.operands.isEmpty then missingOperand
  for path in a.operands do
    let fs ← files
    match fs.stat (a.has "L") (pathOf path) with
    | .error fault =>
      tell ("cannot statx " ++ inQuotes path ++ ": " ++ fault.cause.words)
      mark
    | .ok (loc, node) =>
      let part := statPart fs path loc node
      match a.value? "c", a.value? "printf" with
      | some format, _ => emit (statText part false (format.length + 1) format.toList ++ "\n")
      | none, some format => emit (statText part true (format.length + 1) format.toList)
      | none, none =>
        emit ("  File: " ++ path ++ "\n  Size: " ++ part 's' ++ "\nAccess: (0" ++ part 'a' ++ "/" ++
          part 'A' ++ ")\n")

/-! ## Finding -/

/-- What is done with what is found. -/
inductive FindAct where
  | print (ending : String)
  | format (text : String)
  | delete
  | prune
  | quit
  | execute (args : List String) (inPlace : Bool)
  | collect (args : List String)

/-- What is asked of what is found, or done with it. -/
inductive FindTest where
  | constant (holds : Bool)
  | name (pattern : List Shell.Atom) (whole ignoringCase : Bool)
  | kind (letters : List Char)
  | empty
  | size (sign : Char) (n unit : Nat)
  | mode (sign : Char) (mode : Nat)
  | may (want : Want)
  | linkTo (pattern : List Shell.Atom)
  | act (a : FindAct)
  | not (t : FindTest)
  | and (a b : FindTest)
  | or (a b : FindTest)

/-- A search as it is told: the test, and what holds for all of it. -/
structure Search where
  follow : Bool := false
  least : Nat := 0
  most : Nat := 100000
  depthFirst : Bool := false

/-- Something that was found. -/
structure Hit where
  path : String
  name : String
  depth : Nat
  loc : Location
  node : Node

/-- What a search has come to: the paths that are collected for a call, and whether it is to
go below what was found last, and to go on at all. -/
structure SearchState where
  collected : List String := []
  pruned : Bool := false
  ended : Bool := false

/-- Work that reads the arguments of a search. -/
abbrev Reading := StateT (List String × Search) Tool

/-- The next argument of an operator. -/
def Reading.value (operator : String) : Reading String := do
  let (args, s) ← get
  match args with
  | a :: rest =>
    set (rest, s)
    return a
  | [] => liftM (refuse (α := String) ("missing argument to `" ++ operator ++ "'"))

/-- The pattern that a text writes. -/
def globOf (s : String) : List Shell.Atom :=
  Shell.Pattern.ofMarked (s.toList.map fun c => (c, false))

/-- A number with a sign that tells how it is compared. -/
def comparedNumber (s : String) : Char × String :=
  match s.toList with
  | '+' :: rest => ('+', String.ofList rest)
  | '-' :: rest => ('-', String.ofList rest)
  | _ => (' ', s)

/-- Read the arguments up to the end of a call. -/
def Reading.callEnd (operator : String) : Nat → List String → Reading FindTest
  | 0, _ => return .constant false
  | fuel + 1, args => do
    let a ← Reading.value operator
    if a = ";" then return .act (.execute args.reverse (operator = "-execdir"))
    else if a = "+" && args.head? = some "\x7b\x7d" then return .act (.collect args.tail.reverse)
    else Reading.callEnd operator fuel (a :: args)

/-- Read one test. -/
def Reading.primary (inner : Reading FindTest) : Nat → Reading FindTest
  | 0 => return .constant false
  | fuel + 1 => do
    let operator ← Reading.value "expression"
    let count (text : String) : Reading Nat :=
      match natural? text with
      | some n => return n
      | none =>
        liftM (refuse (α := Nat) ("invalid argument `" ++ text ++ "' to `" ++ operator ++ "'"))
    match operator with
    | "(" =>
      let t ← inner
      match ← get with
      | (")" :: rest, s) =>
        set (rest, s)
        return t
      | _ => liftM (refuse (α := FindTest)
          ("invalid expression; expected to find a ')' but didn't see one.  " ++
            "Perhaps you need an extra predicate after '('"))
    | "!" | "-not" => return .not (← Reading.primary inner fuel)
    | "-true" => return .constant true
    | "-false" => return .constant false
    | "-name" => return .name (globOf (← Reading.value operator)) false false
    | "-iname" => return .name (globOf (← Reading.value operator).toLower) false true
    | "-path" | "-wholename" => return .name (globOf (← Reading.value operator)) true false
    | "-ipath" => return .name (globOf (← Reading.value operator).toLower) true true
    | "-lname" => return .linkTo (globOf (← Reading.value operator))
    | "-type" | "-xtype" => return .kind ((← Reading.value operator).toList.filter (· ≠ ','))
    | "-empty" => return .empty
    | "-readable" => return .may .read
    | "-writable" => return .may .write
    | "-executable" => return .may .enter
    | "-size" =>
      let (sign, text) := comparedNumber (← Reading.value operator)
      let digits := text.toList.takeWhile Char.isDigit
      let n ← count (String.ofList digits)
      let unit := match text.toList.drop digits.length with
        | ['c'] => 1
        | ['w'] => 2
        | ['k'] => 1024
        | ['M'] => 1024 * 1024
        | ['G'] => 1024 * 1024 * 1024
        | _ => 512
      return .size sign n unit
    | "-perm" =>
      let text ← Reading.value operator
      let (sign, digits) := match text.toList with
        | '-' :: rest => ('-', String.ofList rest)
        | '/' :: rest => ('/', String.ofList rest)
        | _ => (' ', text)
      match modeFrom? 0 false 0 digits with
      | some mode => return .mode sign mode
      | none => liftM (refuse (α := FindTest) ("invalid mode " ++ inQuotes text))
    | "-print" => return .act (.print "\n")
    | "-print0" => return .act (.print "\x00")
    | "-printf" => return .act (.format (← Reading.value operator))
    | "-delete" =>
      modify fun (args, s) => (args, { s with depthFirst := true })
      return .act .delete
    | "-prune" => return .act .prune
    | "-quit" => return .act .quit
    | "-exec" | "-execdir" | "-ok" => Reading.callEnd operator 100000 []
    | "-maxdepth" =>
      let n ← count (← Reading.value operator)
      modify fun (args, s) => (args, { s with most := n })
      return .constant true
    | "-mindepth" =>
      let n ← count (← Reading.value operator)
      modify fun (args, s) => (args, { s with least := n })
      return .constant true
    | "-depth" | "-d" =>
      modify fun (args, s) => (args, { s with depthFirst := true })
      return .constant true
    | "-follow" =>
      modify fun (args, s) => (args, { s with follow := true })
      return .constant true
    | "-xdev" | "-mount" | "-noleaf" => return .constant true
    | "-newer" | "-mtime" | "-mmin" =>
      let _ ← Reading.value operator
      return .constant false
    | _ =>
      if operator.startsWith "-" then
        liftM (refuse (α := FindTest) ("unknown predicate `" ++ operator ++ "'"))
      else liftM (refuse (α := FindTest) ("paths must precede expression: `" ++ operator ++ "'"))

/-- Read tests that are joined. -/
def Reading.test : Nat → Reading FindTest
  | 0 => return .constant false
  | fuel + 1 => do
    let inner : Reading FindTest := Reading.test fuel
    let rec together : Nat → FindTest → Reading FindTest
      | 0, t => return t
      | again + 1, t => do
        match ← get with
        | ([], _) | (")" :: _, _) | ("-o" :: _, _) | ("-or" :: _, _) | ("," :: _, _) => return t
        | ("-a" :: rest, s) | ("-and" :: rest, s) =>
          set (rest, s)
          together again (.and t (← Reading.primary inner 1000))
        | _ => together again (.and t (← Reading.primary inner 1000))
    let rec either : Nat → FindTest → Reading FindTest
      | 0, t => return t
      | again + 1, t => do
        match ← get with
        | ("-o" :: rest, s) | ("-or" :: rest, s) =>
          set (rest, s)
          let next ← together 100000 (← Reading.primary inner 1000)
          either again (.or t next)
        | _ => return t
    let first ← together 100000 (← Reading.primary inner 1000)
    either 100000 first

/-- Whether a search does something with what it finds. -/
def FindTest.acts : FindTest → Bool
  | .act .prune | .act .quit => false
  | .act _ => true
  | .not t => t.acts
  | .and a b | .or a b => a.acts || b.acts
  | _ => false

/-- Run a program on what was found: whether it succeeded. -/
def runOn (args : List String) : Tool Bool := do
  flush
  let call ← read
  let process ← request (Program.fork (program (launchOrQuit call.env args) 1 call))
  match ← request (Program.await (·.awaitChild (.one process))) with
  | some (_, .exited 0) => return true
  | _ => return false

/-- What a directive tells of what was found. -/
def hitPart (fs : FileSystem) (h : Hit) (c : Char) : String :=
  match c with
  | 'p' => h.path
  | 'f' => h.name
  | 'h' => if h.path.toList.contains '/' then parentOf h.path else "."
  | 's' => toString (nodeSize h.node)
  | 'm' => String.ofList (Nat.toDigits 8 h.node.access.mode)
  | 'M' => modeText h.node
  | 'y' =>
    match h.node with
    | .file _ => "f"
    | node => String.singleton (kindLetter node)
  | 'd' => toString h.depth
  | 'n' => toString (linkCount fs h.loc h.node)
  | 'u' | 'g' => ownerName h.node
  | 'l' =>
    match h.node with
    | .link target => target
    | _ => ""
  | 'P' => String.ofList (h.path.toList.drop (h.path.length - h.name.length))
  | '%' => "%"
  | _ => "?"

/-- Look at what was found, and do with it what is asked for. -/
def hitHolds (h : Hit) : FindTest → StateT SearchState Tool Bool
  | .constant holds => return holds
  | .name pattern whole ignoringCase =>
    let text := if whole then h.path else h.name
    let text := if ignoringCase then text.toLower else text
    return Shell.Pattern.isMatch pattern text.toList
  | .kind letters =>
    let letter := match h.node with
      | .file _ => 'f'
      | node => kindLetter node
    return letters.contains letter
  | .empty => do
    match h.node with
    | .file f => return !isFilled f.content
    | .directory _ => return ((← liftM files).namesIn h.loc).isEmpty
    | _ => return false
  | .size sign n unit =>
    let units := (nodeSize h.node + unit - 1) / unit
    return match sign with
      | '+' => n < units
      | '-' => units < n
      | _ => units = n
  | .mode sign mode =>
    let own := h.node.access.mode
    return match sign with
      | '-' => own &&& mode = mode
      | '/' => mode = 0 || own &&& mode ≠ 0
      | _ => own = mode
  | .may want => return h.node.allows want
  | .linkTo pattern =>
    match h.node with
    | .link target => return Shell.Pattern.isMatch pattern target.toList
    | _ => return false
  | .act (.print ending) => do
    liftM (m := Tool) (emit (h.path ++ ending))
    return true
  | .act (.format text) => do
    let fs ← liftM (m := Tool) files
    liftM (m := Tool) (emit (statText (hitPart fs h) true (text.length + 1) text.toList))
    return true
  | .act .delete => do
    let done ← liftM (m := Tool) (change fun fs =>
      if h.node.isDirectory then fs.removeDirectory (pathOf h.path) else fs.remove (pathOf h.path))
    match done with
    | .ok () => return true
    | .error fault =>
      liftM (m := Tool) (do
        tell ("cannot delete " ++ inQuotes h.path ++ ": " ++ fault.words)
        mark)
      return false
  | .act .prune => do
    modify fun s => { s with pruned := true }
    return true
  | .act .quit => do
    modify fun s => { s with ended := true }
    return true
  | .act (.execute args inPlace) =>
    let named := if inPlace then "./" ++ h.name else h.path
    liftM (m := Tool) (runOn (args.map fun a => a.replace "\x7b\x7d" named))
  | .act (.collect _) => do
    modify fun s => { s with collected := s.collected ++ [h.path] }
    return true
  | .not t => return !(← hitHolds h t)
  | .and a b => do
    if ← hitHolds h a then hitHolds h b else return false
  | .or a b => do
    if ← hitHolds h a then return true else hitHolds h b

/-- Look at what is at a path and below it. -/
def searchFrom (s : Search) (t : FindTest) : Nat → Nat → String → StateT SearchState Tool Unit
  | 0, _, _ => return
  | fuel + 1, depth, path => do
    let fs ← liftM files
    if (← get).ended then return
    match fs.stat s.follow (pathOf path) with
    | .error fault =>
      liftM (m := Tool) (do
        tell (inQuotes path ++ ": " ++ fault.cause.words)
        mark)
    | .ok (loc, node) =>
      let h : Hit := { path, name := baseOf path, depth, loc, node }
      let look : StateT SearchState Tool Unit := do
        if s.least ≤ depth then
          let _ ← hitHolds h t
      modify fun st => { st with pruned := false }
      if !s.depthFirst then look
      if node.isDirectory && depth < s.most && !(← get).pruned && !(← get).ended then
        if !node.allows .read then
          liftM (m := Tool) (do
            tell (inQuotes path ++ ": Permission denied")
            mark)
        else
          for name in (fs.namesIn loc).mergeSort fun a b => decide (a ≤ b) do
            let above := if path.endsWith "/" then path else path ++ "/"
            searchFrom s t fuel (depth + 1) (above ++ name)
      if s.depthFirst then look

/-- The calls that paths are collected for. -/
def FindTest.collecting : FindTest → List (List String)
  | .act (.collect args) => [args]
  | .not t => t.collecting
  | .and a b | .or a b => a.collecting ++ b.collecting
  | _ => []

/-- Find files. -/
def find : Tool Unit := do
  let args := (← read).args
  let options := args.takeWhile fun a => ["-H", "-L", "-P"].contains a
  let args := args.drop options.length
  let paths := args.takeWhile fun a =>
    !(a.startsWith "-" && a ≠ "-") && a ≠ "(" && a ≠ "!" && a ≠ ")"
  let rest := args.drop paths.length
  let start : Search := { follow := options.getLast? = some "-L" }
  let (t, left, s) ←
    if rest.isEmpty then pure (FindTest.constant true, [], start)
    else do
      let (t, left, s) ← (Reading.test 100).run (rest, start)
      pure (t, left, s)
  if let extra :: _ := left then refuse ("paths must precede expression: `" ++ extra ++ "'")
  let t := if t.acts then t else .and t (.act (.print "\n"))
  let search : StateT SearchState Tool Unit := do
    for path in if paths.isEmpty then ["."] else paths do
      searchFrom s t nesting 0 path
  let (_, after) ← search.run {}
  for call in t.collecting do
    if !after.collected.isEmpty then
      if !(← runOn (call ++ after.collected)) then mark

end ReleaseBuilder.Machine.Utility
