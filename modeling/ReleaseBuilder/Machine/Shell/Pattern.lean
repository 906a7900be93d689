/-
# Patterns

A pattern matches a text as a whole: a star stands for any characters, a question mark
for one, and a bracket for one of those it lists. A quoted character stands only for
itself, and so does one behind a backslash.
-/

namespace ReleaseBuilder.Machine.Shell

/-- What a bracket lists. -/
inductive Listed where
  | range (first last : Char)
  | kind (name : String)
  deriving DecidableEq

/-- An element of a pattern. -/
inductive Atom where
  | char (c : Char)
  | anyOne
  | anyMany
  | oneOf (complement : Bool) (listed : List Listed)
  deriving DecidableEq

/-- A character, and whether it is quoted. -/
abbrev Marked := Char × Bool

namespace Pattern

/-- The kinds of characters that a bracket may name. -/
def kinds : List (String × (Char → Bool)) :=
  let isControl (c : Char) : Bool := c.toNat < 32 || c.toNat = 127
  let isGraph (c : Char) : Bool := 32 < c.toNat && c.toNat < 127
  [("alpha", Char.isAlpha), ("digit", Char.isDigit), ("alnum", Char.isAlphanum),
    ("upper", Char.isUpper), ("lower", Char.isLower),
    ("space", fun c => c = ' ' || (9 ≤ c.toNat && c.toNat ≤ 13)),
    ("blank", fun c => c = ' ' || c = '\t'), ("cntrl", isControl), ("graph", isGraph),
    ("print", fun c => isGraph c || c = ' '),
    ("punct", fun c => isGraph c && !c.isAlphanum),
    ("xdigit", fun c => c.isDigit || ('a' ≤ c.toLower && c.toLower ≤ 'f'))]

/-- Whether a character is of a kind that has a name. -/
def isOfKind (name : String) (c : Char) : Bool :=
  ((kinds.lookup name).map (· c)).getD false

/-- The name of a kind of characters, and what follows it. -/
def kindAt? (cs : List Marked) : Option (String × List Marked) :=
  match cs with
  | ('[', false) :: (':', false) :: rest =>
    let name := rest.takeWhile fun c => c.1.isAlpha
    match rest.drop name.length with
    | (':', _) :: (']', _) :: later => some (String.ofList (name.map Prod.fst), later)
    | _ => none
  | _ => none

/-- What a bracket lists up to its end, and what follows it. The first character may be the
one that ends a bracket. -/
def listedIn : Nat → Bool → List Marked → List Listed → Option (List Listed × List Marked)
  | 0, _, _, _ => none
  | _ + 1, _, [], _ => none
  | fuel + 1, first, cs@((c, isQuoted) :: rest), listed =>
    if c = ']' && !isQuoted && !first then some (listed, rest)
    else
      match kindAt? cs with
      | some (name, later) => listedIn fuel false later (.kind name :: listed)
      | none =>
        let (c, rest) :=
          match c, isQuoted, rest with
          | '\\', false, (d, _) :: rest => (d, rest)
          | _, _, _ => (c, rest)
        match rest with
        | ('-', false) :: (']', false) :: _ => listedIn fuel false rest (.range c c :: listed)
        | ('-', false) :: ('\\', false) :: (d, _) :: later =>
          listedIn fuel false later (.range c d :: listed)
        | ('-', false) :: (d, _) :: later => listedIn fuel false later (.range c d :: listed)
        | _ => listedIn fuel false rest (.range c c :: listed)

/-- The bracket whose inside starts here, and what follows it. -/
def bracket? (cs : List Marked) : Option (Atom × List Marked) :=
  let (complement, body) :=
    match cs with
    | ('!', false) :: rest => (true, rest)
    | _ => (false, cs)
  (listedIn (cs.length + 1) true body []).map fun (listed, rest) => (.oneOf complement listed, rest)

/-- The atoms of characters. -/
def atoms : Nat → List Marked → List Atom
  | 0, _ | _, [] => []
  | fuel + 1, (c, isQuoted) :: rest =>
    if isQuoted then .char c :: atoms fuel rest
    else
      match c, rest with
      | '*', _ => .anyMany :: atoms fuel rest
      | '?', _ => .anyOne :: atoms fuel rest
      | '[', _ =>
        match bracket? rest with
        | some (atom, later) => atom :: atoms fuel later
        | none => .char c :: atoms fuel rest
      | '\\', (d, _) :: later => .char d :: atoms fuel later
      | _, _ => .char c :: atoms fuel rest

/-- The pattern of characters. -/
def ofMarked (cs : List Marked) : List Atom :=
  atoms (cs.length + 1) cs

/-- Whether a character is one of those that an atom stands for. -/
def accepts (c : Char) : Atom → Bool
  | .char d => c = d
  | .anyOne | .anyMany => true
  | .oneOf complement listed =>
    (listed.any fun entry =>
      match entry with
      | .range first last => first ≤ c && c ≤ last
      | .kind name => isOfKind name c) != complement

/-- Whether some end of a list satisfies a condition. -/
def someEnd (holds : List Char → Bool) : List Char → Bool
  | [] => holds []
  | c :: cs => holds (c :: cs) || someEnd holds cs

/-- Whether atoms match characters as a whole. -/
def isMatch : List Atom → List Char → Bool
  | [], cs => cs.isEmpty
  | .anyMany :: rest, cs => someEnd (isMatch rest) cs
  | _ :: _, [] => false
  | atom :: rest, c :: cs => accepts c atom && isMatch rest cs

/-- Whether atoms are more than a text. -/
def isGeneral (pattern : List Atom) : Bool :=
  pattern.any fun atom =>
    match atom with
    | .char _ => false
    | _ => true

/-- What is left of characters when the longest or shortest front that matches is gone. -/
def withoutFront (pattern : List Atom) (longest : Bool) (cs : List Char) : List Char :=
  let lengths := List.range (cs.length + 1)
  let tried := if longest then lengths.reverse else lengths
  match tried.find? fun n => isMatch pattern (cs.take n) with
  | some n => cs.drop n
  | none => cs

/-- What is left of characters when the longest or shortest back that matches is gone. -/
def withoutBack (pattern : List Atom) (longest : Bool) (cs : List Char) : List Char :=
  let lengths := List.range (cs.length + 1)
  let tried := if longest then lengths else lengths.reverse
  match tried.find? fun n => isMatch pattern (cs.drop n) with
  | some n => cs.take n
  | none => cs

example : isMatch (ofMarked ("a*[!x-z]".toList.map (·, false))) "abc".toList = true := by decide

end Pattern

end ReleaseBuilder.Machine.Shell
