/-
# Expansion of words

What becomes of a word when its command is run. Parameters, output and calculations are
put in place; what was put in place without quotes falls into several words where
separators stand; words with patterns become the names that match; and the quotes are
taken away.
-/

import ReleaseBuilder.Machine.Shell.Pattern
import ReleaseBuilder.Machine.Shell.Session

namespace ReleaseBuilder.Machine.Shell

/-- A piece of a word that is being expanded. -/
inductive Piece where
  /-- A character: whether it is quoted, and whether it may part words. -/
  | char (c : Char) (isQuoted splits : Bool)
  /-- Quotes stood here, so that there is a word even if it is empty. -/
  | mark
  /-- One thing that was put in place ends here, and another may begin. -/
  | seam
  /-- A word ends here in any case. -/
  | stop

/-- How words are expanded. -/
structure Manner where
  /-- Several words may become of one. -/
  splitting : Bool
  /-- A tilde may stand behind a colon, too. -/
  assigning : Bool := false

namespace Piece

/-- The pieces of a text that is put in place. -/
def ofText (isQuoted : Bool) (s : String) : List Piece :=
  s.toList.map fun c => .char c isQuoted (!isQuoted)

/-- The characters of pieces, with their marks. -/
def marked (pieces : List Piece) : List Marked :=
  pieces.filterMap fun piece =>
    match piece with
    | .char c isQuoted _ => some (c, isQuoted)
    | _ => none

/-- The text of pieces. -/
def text (pieces : List Piece) : String :=
  String.ofList ((marked pieces).map Prod.fst)

end Piece

/-- What stands between all arguments when they are one word. -/
def joiner (s : Session) : String :=
  String.ofList (s.separators.toList.take 1)

/-- The letters of options in the order in which they are told. -/
def optionOrder : List Char :=
  ['p', 'u', 'b', 'a', 'C', 'E', 'V', 'v', 'x', 's', 'n', 'm', 'i', 'I', 'f', 'e']

/-- The value of a parameter that is not all arguments. -/
def parameter? (s : Session) (name : String) : Option String :=
  match name with
  | "#" => some (toString s.args.length)
  | "?" => some (toString s.status)
  | "$" => some (toString s.process)
  | "!" => s.background.map toString
  | "-" => some (String.ofList (optionOrder.filter s.options.contains))
  | "@" | "*" => some ((joiner s).intercalate s.args)
  | _ =>
    match name.toNat? with
    | some 0 => some s.name
    | some n => s.args[n - 1]?
    | none => s.value? name

/-- The pieces of all arguments. -/
def allArguments (manner : Manner) (name : String) (isQuoted : Bool) (s : Session) : List Piece :=
  if !manner.splitting || (isQuoted && name = "*") then
    Piece.ofText isQuoted ((joiner s).intercalate s.args)
  else
    let front := if isQuoted then [Piece.mark] else []
    let each := s.args.map fun a => front ++ Piece.ofText isQuoted a
    [Piece.stop].intercalate each

/-- The pieces of a parameter that is told as it is. -/
def valuePieces (manner : Manner) (name : String) (isQuoted : Bool) (s : Session) : List Piece :=
  if name = "@" || name = "*" then allArguments manner name isQuoted s
  else Piece.ofText isQuoted ((parameter? s name).getD "")

/-- The home of a user. -/
def homeOf (s : Session) (user : String) : Option String :=
  if user.isEmpty then s.value? "HOME" else if user = "root" then some "/root" else none

/-- A text with a tilde at its front resolved, if that is possible; the rest of the word tells
whether the user's name ends with the text. -/
def withHome (s : Session) (manner : Manner) (text : String) (isLast : Bool) : List Piece :=
  let plain (s : String) : List Piece := s.toList.map fun c => .char c false false
  match text.toList with
  | '~' :: rest =>
    let user := rest.takeWhile fun c => c ≠ '/' && !(manner.assigning && c = ':')
    if user.length = rest.length && !isLast then plain text
    else
      match homeOf s (String.ofList user) with
      | some home =>
        (home.toList.map fun c => Piece.char c true false) ++
          plain (String.ofList (rest.drop user.length))
      | none => plain text
  | _ => plain text

/-- The pieces of a text without quotes. In an assignment, what stands behind each colon is
looked at for a tilde, too. -/
def plainPieces (s : Session) (manner : Manner) (isFirst isLast splits : Bool) (text : String) :
    List Piece :=
  let pieces :=
    if manner.assigning then
      let parts := (text.toList.splitOn ':').map String.ofList
      let shown := parts.zipIdx.map fun (part, n) =>
        if n = 0 && !isFirst then part.toList.map fun c => Piece.char c false false
        else withHome s manner part (isLast || n + 1 < parts.length)
      [Piece.char ':' false false].intercalate shown
    else if isFirst then withHome s manner text isLast
    else text.toList.map fun c => .char c false false
  if splits then
    pieces.map fun piece =>
      match piece with
      | .char c false _ => .char c false true
      | _ => piece
  else pieces

/-- A text without the ends of lines at its end, and without zeros. -/
def outputText (octets : ByteArray) : String :=
  let cs := (Text.narrowOf octets).toList.filter (· ≠ '\x00')
  String.ofList (cs.reverse.dropWhile (· = '\n')).reverse

/-- Do the calculation of a text. -/
def calculated (text : String) : Action Int := do
  let s ← get
  match calculate s.value? text with
  | .error problem => fail problem
  | .ok (n, assigned) =>
    for (name, value) in assigned.reverse do
      assign name (toString value)
    return n

/-- Refuse a parameter that is not set, if the shell was told to. -/
def requireSet (name : String) : Action Unit := do
  let s ← get
  if s.hasOption 'u' && name ≠ "@" && name ≠ "*" && (parameter? s name).isNone then
    fail (name ++ ": parameter not set")

/-- The pieces of the parts of a word, given how the output of a script is obtained. `inside`
tells that the word stands in for a parameter. -/
def pieces (output : Script → Action String) (manner : Manner) :
    Nat → Bool → Bool → List Part → Action (List Piece)
  | 0, _, _, _ | _, _, _, [] => return []
  | fuel + 1, inside, isFirst, part :: rest => do
    let behind : Action (List Piece) := pieces output manner fuel inside false rest
    let seamed (isQuoted : Bool) (own : List Piece) : Action (List Piece) := do
      let own := if isQuoted then own else Piece.seam :: own ++ [Piece.seam]
      return own ++ (← behind)
    match part with
    | .text s =>
      let own := plainPieces (← get) manner isFirst rest.isEmpty inside s
      return own ++ (← behind)
    | .quoted s => return .mark :: Piece.ofText true s ++ (← behind)
    | .output script isQuoted =>
      let text ← output script
      seamed isQuoted (Piece.ofText isQuoted text)
    | .number inner isQuoted =>
      let text := Piece.text (← pieces output { splitting := false } fuel false false inner)
      let n ← calculated text
      seamed isQuoted (Piece.ofText isQuoted (toString n))
    | .parameter name use isQuoted =>
      match use with
      | .senseless => fail "Bad substitution"
      | .value =>
        requireSet name
        seamed isQuoted (valuePieces manner name isQuoted (← get))
      | .length =>
        requireSet name
        let value := (parameter? (← get) name).getD ""
        seamed isQuoted (Piece.ofText isQuoted (toString value.length))
      | .trimmed front longest pattern =>
        requireSet name
        let atoms := Pattern.ofMarked
          (Piece.marked (← pieces output { splitting := false } fuel false true pattern))
        let value := ((parameter? (← get) name).getD "").toList
        let left := if front then Pattern.withoutFront atoms longest value
          else Pattern.withoutBack atoms longest value
        seamed isQuoted (Piece.ofText isQuoted (String.ofList left))
      | .standing kind emptyToo word =>
        let value := parameter? (← get) name
        let counts := value.any fun v => !(emptyToo && v.isEmpty)
        let wordPieces : Action (List Piece) :=
          pieces output manner fuel (!isQuoted) true word
        match kind, counts with
        | .replacing, true => seamed isQuoted (← wordPieces)
        | .replacing, false => seamed isQuoted []
        | _, true => seamed isQuoted (valuePieces manner name isQuoted (← get))
        | .fallback, false => seamed isQuoted (← wordPieces)
        | .assigning, false =>
          let text := Piece.text (← pieces output { splitting := false } fuel false true word)
          if !isName name then fail (name ++ ": bad variable name")
          else
            assign name text
            seamed isQuoted (Piece.ofText isQuoted text)
        | .refusing, false =>
          let text := Piece.text (← pieces output { splitting := false } fuel false true word)
          let usual := "parameter not set" ++ if emptyToo then " or null" else ""
          fail (name ++ ": " ++ if word.isEmpty then usual else text)

/-- How deep words may stand in one another. -/
def wordDepth : Nat := 100000

/-- The words that pieces fall into, as far as they have been looked at. -/
structure Splitting where
  /-- The words that are complete, the latest first. -/
  words : List (List Marked) := []
  /-- The characters of the current word, the latest first. -/
  current : List Marked := []
  /-- Whether there is a current word. -/
  begun : Bool := false
  /-- A separator has just ended a word: blanks behind it are passed over, and one more
  separator if that is true. -/
  passing : Option Bool := none

namespace Splitting

/-- End the current word. -/
def close (s : Splitting) : Splitting :=
  { s with words := s.current.reverse :: s.words, current := [], begun := false }

/-- Add a character to the current word. -/
def add (s : Splitting) (c : Char) (isQuoted : Bool) : Splitting :=
  { s with current := (c, isQuoted) :: s.current, begun := true, passing := none }

/-- Whether a character parts words without showing. -/
def isBlank (c : Char) : Bool := c = ' ' || c = '\t' || c = '\n'

/-- Look at one more piece. -/
def step (separators : List Char) (s : Splitting) (piece : Piece) : Splitting :=
  match piece with
  | .mark => { s with begun := true, passing := none }
  | .seam => { s with passing := none }
  | .stop => if s.begun then { s.close with passing := none } else { s with passing := none }
  | .char c isQuoted splits =>
    if !splits || !separators.contains c then s.add c isQuoted
    else
      match s.passing with
      | some more =>
        if isBlank c then s
        else if more then { s with passing := some false }
        else { s.close with passing := some false }
      | none =>
        if !s.begun && isBlank c then s else { s.close with passing := some (isBlank c) }

/-- All words. -/
def finish (s : Splitting) : List (List Marked) :=
  (if s.begun then s.close else s).words.reverse

end Splitting

/-- The words that pieces fall into. -/
def fields (s : Session) (pieces : List Piece) : List (List Marked) :=
  (pieces.foldl (Splitting.step s.separators.toList) {}).finish

/-- The text of marked characters. -/
def unmarked (cs : List Marked) : String :=
  String.ofList (cs.map Prod.fst)

/-- Marked characters between separators of paths, each with the separators in front of it. -/
def segmentsOf : Nat → List Marked → List (List Marked × List Marked)
  | 0, _ | _, [] => []
  | fuel + 1, cs =>
    let slashes := cs.takeWhile (·.1 = '/')
    let behind := cs.drop slashes.length
    let name := behind.takeWhile (·.1 ≠ '/')
    (slashes, name) :: segmentsOf fuel (behind.drop name.length)

/-- The segments of a path. -/
def segments (cs : List Marked) : List (List Marked × List Marked) :=
  segmentsOf cs.length cs

/-- The names in a directory that a pattern matches. Hidden names are matched only by a pattern
that starts with a full stop. -/
def namesMatching (fs : FileSystem) (dir : String) (atoms : List Atom) : List String :=
  let listed := (fs.list (pathOf (if dir.isEmpty then "." else dir))).toOption.getD []
  let hidden := if atoms.head? = some (.char '.') then [".", ".."] else []
  (hidden ++ listed).filter fun name =>
    Pattern.isMatch atoms name.toList &&
      (name.toList.head? ≠ some '.' || atoms.head? = some (.char '.'))

/-- The paths that segments lead to behind a path. -/
def pathsFrom (fs : FileSystem) : List (List Marked × List Marked) → String → List String
  | [], path => [path]
  | (slashes, name) :: rest, path =>
    let path := path ++ unmarked slashes
    let atoms := Pattern.ofMarked name
    if name.isEmpty then [path]
    else if Pattern.isGeneral atoms then
      (namesMatching fs path atoms).flatMap fun found =>
        if rest.isEmpty then [path ++ found]
        else if fs.isDirectory (pathOf (path ++ found)) then pathsFrom fs rest (path ++ found)
        else []
    else
      let plain := String.ofList (atoms.filterMap fun atom =>
        match atom with
        | .char c => some c
        | _ => none)
      if rest.isEmpty then
        match fs.stat false (pathOf (path ++ plain)) with
        | .ok _ => [path ++ plain]
        | .error _ => []
      else pathsFrom fs rest (path ++ plain)

/-- The paths that a word stands for, in order, or the word itself. -/
def paths (fs : FileSystem) (word : List Marked) : List String :=
  let general := (segments word).any fun s => Pattern.isGeneral (Pattern.ofMarked s.2)
  if !general then [unmarked word]
  else
    match pathsFrom fs (segments word) "" with
    | [] => [unmarked word]
    | found => found.mergeSort fun a b => decide (a ≤ b)

/-- Expand a word into words. -/
def expand (output : Script → Action String) (w : Word) : Action (List String) := do
  let all ← pieces output { splitting := true } wordDepth false true w
  let s ← get
  let words := fields s all
  if s.hasOption 'f' then return words.map unmarked
  else if words.all fun cs => !cs.any fun c => !c.2 && (c.1 = '*' || c.1 = '?' || c.1 = '[') then
    return words.map unmarked
  else
    let fs ← request (Program.look State.view)
    return words.flatMap (paths fs)

/-- Expand words. -/
def expandAll (output : Script → Action String) : List Word → Action (List String)
  | [] => return []
  | w :: rest => do
    let first ← expand output w
    return first ++ (← expandAll output rest)

/-- Expand a word into one text. -/
def expandText (output : Script → Action String) (w : Word) (assigning : Bool := false) :
    Action String := do
  return Piece.text (← pieces output { splitting := false, assigning } wordDepth false true w)

/-- Expand an assignment: its name, and its value. A tilde behind the equals sign is resolved. -/
def expandAssignment (output : Script → Action String) (w : Word) : Action (String × String) := do
  match w with
  | .text s :: rest =>
    match assignment? s with
    | some (name, front) =>
      return (name, ← expandText output (if front.isEmpty then rest else .text front :: rest) true)
    | none => return ("", "")
  | _ => return ("", "")

/-- Expand a word into a pattern. -/
def expandPattern (output : Script → Action String) (w : Word) : Action (List Atom) := do
  let parts ← pieces output { splitting := false } wordDepth false true w
  return Pattern.ofMarked (Piece.marked parts)

end ReleaseBuilder.Machine.Shell
