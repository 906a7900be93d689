/-
# Regular expressions

An expression matches pieces of a text. Of all matches the one that starts first counts,
and of those the longest; within it, each part takes as much as it can, from left to
right. There are two ways to write expressions: in the plain one a brace, a parenthesis,
a bar, a plus and a question mark are operators behind a backslash, in the extended one
without.
-/

import ReleaseBuilder.Machine.Shell.Pattern

namespace ReleaseBuilder.Machine

/-- A place in a text that an expression can ask for. -/
inductive Spot where
  | lineStart
  | lineEnd
  | textStart
  | textEnd
  | wordStart
  | wordEnd
  | wordEdge
  | noWordEdge
  deriving DecidableEq

/-- A regular expression. -/
inductive Regular where
  | empty
  | char (c : Char)
  | any
  | oneOf (complement : Bool) (listed : List Shell.Listed)
  | spot (s : Spot)
  | sequence (first second : Regular)
  | either (first second : Regular)
  /-- At least `least` times, and at most `more` times beyond that. -/
  | repeated (body : Regular) (least : Nat) (more : Option Nat)
  | group (number : Nat) (body : Regular)
  /-- What a group matched before. -/
  | again (number : Nat)
  deriving DecidableEq

namespace Regular

/-! ## Matching -/

/-- How an expression is matched against a text. -/
structure Matching where
  text : Array Char
  ignoreCase : Bool := false
  /-- Whether lines start and end within the text. -/
  manyLines : Bool := false

/-- How far a match has come, and what its groups hold. -/
structure Reached where
  place : Nat
  groups : List (Nat × (Nat × Nat)) := []

/-- Whether a character belongs to a word. -/
def isWordChar (c : Char) : Bool := c.isAlphanum || c = '_'

/-- Whether a place is a spot that is asked for. -/
def Matching.isAt (m : Matching) (place : Nat) (s : Spot) : Bool :=
  let before := if place = 0 then none else m.text[place - 1]?
  let after := m.text[place]?
  let startsWord := !before.any isWordChar && after.any isWordChar
  let endsWord := before.any isWordChar && !after.any isWordChar
  match s with
  | .textStart => place = 0
  | .textEnd => after.isNone
  | .lineStart => place = 0 || (m.manyLines && before = some '\n')
  | .lineEnd => after.isNone || (m.manyLines && after = some '\n')
  | .wordStart => startsWord
  | .wordEnd => endsWord
  | .wordEdge => startsWord || endsWord
  | .noWordEdge => !(startsWord || endsWord)

/-- Whether two characters are the same. -/
def Matching.isSame (m : Matching) (c d : Char) : Bool :=
  c = d || (m.ignoreCase && c.toLower = d.toLower)

/-- Whether a bracket lists a character. -/
def Matching.isListed (m : Matching) (listed : List Shell.Listed) (c : Char) : Bool :=
  let isIn (c : Char) : Bool := listed.any fun entry =>
    match entry with
    | .range first last => first ≤ c && c ≤ last
    | .kind name => Shell.Pattern.isOfKind name c
  isIn c || (m.ignoreCase && (isIn c.toLower || isIn c.toUpper))

/-- Ways without those that lead to the same place as the one before. -/
def distinct : List Reached → List Reached
  | a :: b :: rest => if a.place = b.place then distinct (a :: rest) else a :: distinct (b :: rest)
  | ways => ways
termination_by ways => ways.length

/-- One of several ways to each place, the first one that is told, the farthest places first. -/
def arranged (ways : List Reached) : List Reached :=
  distinct (ways.mergeSort fun a b => decide (b.place ≤ a.place))

/-- Ways that a step leads on by, again and again as long as places are new. -/
def closure (step : Reached → List Reached) : Nat → List Reached → Reached → List Reached
  | 0, seen, r => seen ++ [r]
  | fuel + 1, seen, r =>
    if seen.any (·.place = r.place) then seen
    else
      (step r).foldl
        (fun seen next => if next.place = r.place then seen else closure step fuel seen next)
        (seen ++ [r])

/-- What a step leads to when it is taken so many times. -/
def iterate (step : Reached → List Reached) : Nat → Reached → List Reached
  | 0, r => [r]
  | n + 1, r => arranged ((step r).flatMap (iterate step n))

/-- What a step leads to when it is taken at most so many times. -/
def atMost (step : Reached → List Reached) : Nat → Reached → List Reached
  | 0, r => [r]
  | n + 1, r =>
    arranged ((step r).flatMap (fun next =>
      if next.place = r.place then [next] else atMost step n next) ++ [r])

/-- The ends of all matches of an expression from a place, the farthest first. -/
def ends (m : Matching) : Regular → Reached → List Reached
  | .empty, r => [r]
  | .char c, r => single m r (m.isSame c)
  | .any, r => single m r fun _ => true
  | .oneOf complement listed, r => single m r fun c => m.isListed listed c != complement
  | .spot s, r => if m.isAt r.place s then [r] else []
  | .sequence first second, r => arranged ((ends m first r).flatMap (ends m second))
  | .either first second, r => arranged (ends m first r ++ ends m second r)
  | .repeated body least more, r =>
    arranged ((iterate (ends m body) least r).flatMap fun r =>
      match more with
      | none => arranged (closure (ends m body) (m.text.size + 1) [] r)
      | some n => atMost (ends m body) n r)
  | .group number body, r =>
    (ends m body r).map fun after =>
      { after with
        groups := (number, (r.place, after.place)) :: after.groups.filter (·.1 ≠ number) }
  | .again number, r =>
    match r.groups.lookup number with
    | none => []
    | some (first, last) =>
      let wanted := (m.text.extract first last).toList
      let found := (m.text.extract r.place (r.place + wanted.length)).toList
      if wanted.length = found.length && (wanted.zip found).all fun p => m.isSame p.1 p.2 then
        [{ r with place := r.place + wanted.length }]
      else []
where
  /-- The match of one character that satisfies a condition. -/
  single (m : Matching) (r : Reached) (holds : Char → Bool) : List Reached :=
    match m.text[r.place]? with
    | some c => if holds c then [{ r with place := r.place + 1 }] else []
    | none => []

/-- A match: where it starts and ends, and its groups. -/
structure Found where
  first : Nat
  last : Nat
  groups : List (Nat × (Nat × Nat)) := []

/-- The first match at a place or behind it, given how many places may be tried. -/
def searchFrom (m : Matching) (e : Regular) : Nat → Nat → Option Found
  | 0, _ => none
  | tries + 1, place =>
    match ends m e ⟨place, []⟩ with
    | r :: _ => some ⟨place, r.place, r.groups⟩
    | [] => searchFrom m e tries (place + 1)

/-- The first match at a place or behind it. -/
def find? (m : Matching) (e : Regular) (place : Nat := 0) : Option Found :=
  searchFrom m e (m.text.size + 1 - place) place

/-- What a group of a match holds. The match as a whole counts as group zero. -/
def Found.group (f : Found) (m : Matching) (number : Nat) : List Char :=
  if number = 0 then (m.text.extract f.first f.last).toList
  else
    match f.groups.lookup number with
    | some (first, last) => (m.text.extract first last).toList
    | none => []

/-- The expression of a text that stands for itself. -/
def literal (cs : List Char) : Regular :=
  cs.foldr (fun c e => .sequence (.char c) e) .empty

/-- What matches wherever one of several expressions does. -/
def anyOf : List Regular → Regular
  | [] => .oneOf false []
  | [e] => e
  | e :: rest => .either e (anyOf rest)

/-! ## Reading -/

/-- What is read of an expression: what is left of it, and how many groups were opened. -/
structure Remaining where
  chars : List Char
  /-- Whether a parenthesis that ends nothing stands for itself, and an operator that repeats
  nothing is passed over. -/
  lenient : Bool := false
  opened : Nat := 0
  /-- The groups that have ended. -/
  closed : List Nat := []

/-- Reading of an expression. -/
abbrev Reading := StateT Remaining (Except String)

/-- The end of what a bracket lists: a character, an element that has a name, or a class. -/
def listedElement? (cs : List Char) : Except String (Sum Char Shell.Listed × List Char) :=
  let named (mark : Char) (rest : List Char) : Option (List Char × List Char) :=
    let inner := (List.range (rest.length + 1)).find? fun n =>
      rest[n]? = some mark && rest[n + 1]? = some ']'
    inner.map fun n => (rest.take n, rest.drop (n + 2))
  let unmatched := "Unmatched [, [^, [:, [., or [="
  match cs with
  | '[' :: ':' :: rest =>
    match named ':' rest with
    | some (name, later) =>
      let name := String.ofList name
      if (Shell.Pattern.kinds.lookup name).isSome then .ok (.inr (.kind name), later)
      else .error "Invalid character class name"
    | none => .error unmatched
  | '[' :: mark :: rest =>
    if mark = '.' || mark = '=' then
      match named mark rest with
      | some ([c], later) => .ok (.inl c, later)
      | some _ => .error "Invalid collation character"
      | none => .error unmatched
    else .ok (.inl '[', mark :: rest)
  | c :: rest => .ok (.inl c, rest)
  | [] => .error unmatched

/-- What a bracket lists up to its end. -/
def listedIn : Nat → Bool → List Char → List Shell.Listed →
    Except String (List Shell.Listed × List Char)
  | 0, _, _, _ => .error "Regular expression too big"
  | fuel + 1, first, cs, listed =>
    match first, cs with
    | false, ']' :: rest => .ok (listed.reverse, rest)
    | _, _ => do
      let (element, rest) ← listedElement? cs
      match element, rest with
      | .inl c, '-' :: ']' :: _ => listedIn fuel false rest (.range c c :: listed)
      | .inl c, '-' :: later =>
        match ← listedElement? later with
        | (.inl d, later) =>
          if d < c then .error "Invalid range end"
          else listedIn fuel false later (.range c d :: listed)
        | (.inr _, _) => .error "Invalid range end"
      | .inl c, _ => listedIn fuel false rest (.range c c :: listed)
      | .inr l, _ => listedIn fuel false rest (l :: listed)

/-- The bracket whose inside starts here. -/
def bracket : Reading Regular := do
  let r ← get
  let (complement, body) :=
    match r.chars with
    | '^' :: rest => (true, rest)
    | cs => (false, cs)
  let (listed, rest) ← listedIn (body.length + 2) true body []
  set { r with chars := rest }
  return .oneOf complement listed

/-- The characters of words, as a bracket lists them. -/
def wordListed : List Shell.Listed := [.kind "alnum", .range '_' '_']

/-- What a letter behind a backslash stands for. -/
def letterMeaning? (c : Char) : Option Regular :=
  match c with
  | 'w' => some (.oneOf false wordListed)
  | 'W' => some (.oneOf true wordListed)
  | 's' => some (.oneOf false [.kind "space"])
  | 'S' => some (.oneOf true [.kind "space"])
  | 'b' => some (.spot .wordEdge)
  | 'B' => some (.spot .noWordEdge)
  | '<' => some (.spot .wordStart)
  | '>' => some (.spot .wordEnd)
  | '\'' => some (.spot .textEnd)
  | _ => if c = Char.ofNat 96 then some (.spot .textStart) else none

/-- Characters of an expression that were taken from its front, if it starts with them. -/
def accept (extended : Bool) (operator : Char) : Reading Bool := do
  let r ← get
  match extended, r.chars with
  | true, c :: rest =>
    if c = operator then
      set { r with chars := rest }
      return true
    else return false
  | false, '\\' :: c :: rest =>
    if c = operator then
      set { r with chars := rest }
      return true
    else return false
  | _, _ => return false

/-- The bounds of a repetition in braces, whose inside starts here, and what follows it. -/
def bounds? (extended : Bool) (cs : List Char) : Option (Nat × Option Nat × List Char) :=
  let number (digits : List Char) : Nat := digits.foldl (fun n c => 10 * n + (c.toNat - 48)) 0
  let least := cs.takeWhile Char.isDigit
  let rest := cs.drop least.length
  let closed (rest : List Char) : Option (List Char) :=
    match extended, rest with
    | true, '\x7d' :: later | false, '\\' :: '\x7d' :: later => some later
    | _, _ => none
  match rest with
  | ',' :: rest =>
    let most := rest.takeWhile Char.isDigit
    match closed (rest.drop most.length) with
    | some later =>
      if most.isEmpty then some (number least, none, later)
      else some (number least, some (number most), later)
    | none => none
  | _ =>
    match closed rest with
    | some later =>
      if least.isEmpty then none else some (number least, some (number least), later)
    | none => none

/-- What is wrong with an operator that has nothing to repeat. -/
def nothingToRepeat : String := "Invalid preceding regular expression"

/-- Refuse a second operator behind an expression where only one may stand. -/
def onlyOnce (extended repeats : Bool) : Reading Unit := do
  if !extended && repeats && !(← get).lenient then throw nothingToRepeat

/-- Read the operators behind an expression that repeat it. -/
def suffixes (extended repeats : Bool) : Nat → Regular → Reading Regular
  | 0, e => return e
  | fuel + 1, e => do
    let r ← get
    match r.chars with
    | '*' :: rest =>
      onlyOnce extended repeats
      set { r with chars := rest }
      suffixes extended true fuel (.repeated e 0 none)
    | _ =>
      if ← accept extended '+' then suffixes extended true fuel (.repeated e 1 none)
      else if ← accept extended '?' then suffixes extended true fuel (.repeated e 0 (some 1))
      else if ← accept extended '\x7b' then
        onlyOnce extended repeats
        match bounds? extended (← get).chars with
        | some (least, most, later) =>
          modify fun r => { r with chars := later }
          if most.any (· < least) then throw "Invalid content of \\\x7b\\\x7d"
          else suffixes extended true fuel (.repeated e least (most.map (· - least)))
        | none =>
          if extended then
            set r
            return e
          else throw "Unmatched \\\x7b"
      else return e

/-- Whether an alternative ends here. -/
def endsAlternative (extended : Bool) (depth : Nat) (cs : List Char) : Bool :=
  match extended, cs with
  | _, [] => true
  | true, '|' :: _ => true
  | true, ')' :: _ => 0 < depth
  | false, '\\' :: c :: _ => c = '|' || c = ')'
  | _, _ => false

/-- Read one character of an expression as what it stands for. `first` tells that nothing
stands before it that could be repeated. `whole` reads all up to the end of a group. -/
def atom (extended first : Bool) (depth : Nat) (whole : Reading Regular) : Reading Regular := do
  let r ← get
  let opened : Reading Regular := do
    let number := (← get).opened + 1
    modify fun r => { r with opened := number }
    let body ← whole
    if ← accept extended ')' then
      modify fun r => { r with closed := number :: r.closed }
      return .group number body
    else throw "Unmatched ( or \\("
  let plain (c : Char) (rest : List Char) : Reading Regular := do
    set { r with chars := rest }
    return .char c
  match r.chars with
  | [] => return .empty
  | '.' :: rest =>
    set { r with chars := rest }
    return .any
  | '[' :: rest =>
    set { r with chars := rest }
    bracket
  | '^' :: rest =>
    if extended || first then
      set { r with chars := rest }
      return .spot .lineStart
    else plain '^' rest
  | '$' :: rest =>
    if extended || endsAlternative false 1 rest then
      set { r with chars := rest }
      return .spot .lineEnd
    else plain '$' rest
  | '*' :: rest =>
    if !extended then plain '*' rest
    else if r.lenient then
      set { r with chars := rest }
      return .empty
    else throw nothingToRepeat
  | '\\' :: [] => throw "Trailing backslash"
  | '\\' :: c :: rest =>
    set { r with chars := rest }
    if !extended && c = '(' then opened
    else if !extended && c = ')' then throw "Unmatched ) or \\)"
    else if !extended && c = '\x7b' then
      if first && !r.lenient then throw nothingToRepeat else return .char c
    else if c.isDigit && c ≠ '0' then
      let number := c.toNat - 48
      if r.closed.contains number then return .again number else throw "Invalid back reference"
    else return (letterMeaning? c).getD (if c = 'n' then .char '\n' else .char c)
  | c :: rest =>
    if extended && c = '(' then
      set { r with chars := rest }
      opened
    else if extended && first && (c = '+' || c = '?' || c = '\x7b') then
      if !r.lenient then throw nothingToRepeat
      else
        set { r with chars := rest }
        return .empty
    else if extended && depth = 0 && c = ')' && !r.lenient then throw "Unmatched ) or \\)"
    else plain c rest

/-- Whether an expression takes nothing that could be repeated. -/
def isFixed : Regular → Bool
  | .spot _ | .empty => true
  | _ => false

/-- Read all expressions up to the end of an alternative, behind those that were read. -/
def alternative (extended : Bool) (depth : Nat) (whole : Reading Regular) :
    Nat → Bool → Regular → Reading Regular
  | 0, _, before => return before
  | fuel + 1, first, before => do
    if endsAlternative extended depth (← get).chars then return before
    else
      let e ← atom extended first depth whole
      let lenient := (← get).lenient
      let fixed := isFixed e && (!lenient || (first && !extended))
      let e ← if fixed then pure e else suffixes extended false fuel e
      alternative extended depth whole fuel (fixed || (lenient && e = .empty))
        (match before with
          | .empty => e
          | before => .sequence before e)

/-- Read alternatives up to the end of a group, given how deep groups may stand in one
another. -/
def alternatives (extended : Bool) : Nat → Nat → Reading Regular
  | 0, _ => return .empty
  | fuel + 1, depth => do
    let size := (← get).chars.length + 1
    let whole := alternatives extended fuel (depth + 1)
    let first ← alternative extended depth whole size true .empty
    let rec more : Nat → Regular → Reading Regular
      | 0, e => return e
      | n + 1, e => do
        if ← accept extended '|' then
          let next ← alternative extended depth whole size true .empty
          more n (.either e next)
        else return e
    more size first

/-- Read an expression as a whole. -/
def ofText (extended : Bool) (text : List Char) (lenient : Bool := false) :
    Except String Regular := do
  let (e, r) ← (alternatives extended (text.length + 1) 0).run { chars := text, lenient }
  if r.chars.isEmpty then return e else .error "Unmatched ) or \\)"

end Regular

end ReleaseBuilder.Machine
