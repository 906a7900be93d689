/-
# Reading a script

What is left of a script while it is read, and the tokens it falls into. A script is read
one command at a time, so that what stands behind a mistake is never looked at before what
stands in front of it has been run.

A token that was read may be handed back, and the reader is told before each token what the
next one may be: whether the ends of lines count, whether a word may be a keyword, and
whether it may be an alias.
-/

import ReleaseBuilder.Machine.Shell.Statement

namespace ReleaseBuilder.Machine.Shell

/-- The words with a meaning of their own. -/
inductive Keyword where
  | negation
  | case
  | do
  | done
  | elif
  | else
  | esac
  | fi
  | for
  | if
  | in
  | then
  | until
  | while
  | opening
  | closing
  deriving DecidableEq

/-- The keywords by their spelling. -/
def keywords : List (String × Keyword) :=
  [("!", .negation), ("case", .case), ("do", .do), ("done", .done), ("elif", .elif),
    ("else", .else), ("esac", .esac), ("fi", .fi), ("for", .for), ("if", .if), ("in", .in),
    ("then", .then), ("until", .until), ("while", .while), ("\x7b", .opening),
    ("\x7d", .closing)]

/-- A redirection whose target has not been read. -/
inductive Arrow where
  | file (fd : Nat) (course : Course)
  | copy (fd : Nat)
  | document (fd : Nat) (tabless : Bool)

/-- What a script falls into. -/
inductive Token where
  | end
  | newline
  | semicolon
  | ampersand
  | and
  | or
  | pipe
  | leftParen
  | rightParen
  | caseEnd
  | arrow (a : Arrow)
  | word (w : Word)
  | keyword (k : Keyword)

namespace Token

/-- Whether a word is that of a keyword. -/
def isKeyword (k : Keyword) : Token → Bool
  | .keyword other => k = other
  | _ => false

/-- A token as it is called in complaints. -/
def called : Token → String
  | .end => "end of file"
  | .newline => "newline"
  | .semicolon => "\";\""
  | .ampersand => "\"&\""
  | .and => "\"&&\""
  | .or => "\"||\""
  | .pipe => "\"|\""
  | .leftParen => "\"(\""
  | .rightParen => "\")\""
  | .caseEnd => "\";;\""
  | .arrow _ => "redirection"
  | .word _ => "word"
  | .keyword k =>
    match keywords.find? (·.2 = k) with
    | some (name, _) => "\"" ++ name ++ "\""
    | none => "word"

/-- Whether a token ends a list of commands. -/
def endsList : Token → Bool
  | .end | .rightParen | .caseEnd => true
  | .keyword k => [.do, .done, .elif, .else, .esac, .fi, .then, .closing].contains k
  | _ => false

end Token

/-- A document that the script announced. -/
structure Announced where
  number : Nat
  /-- The line that ends it. -/
  mark : String
  /-- Whether its text is taken as it is. -/
  plain : Bool
  /-- Whether tabs at the front of its lines are dropped. -/
  tabless : Bool

/-- What the next token may be. -/
structure Expecting where
  /-- The ends of lines are passed over. -/
  passingLines : Bool := false
  /-- A word may be a keyword. -/
  keywords : Bool := false
  /-- A word may be an alias. -/
  aliases : Bool := false

/-- The state of reading a script. -/
structure Reader where
  input : List Char
  line : Nat := 1
  /-- A token that was handed back. -/
  held : Option Token := none
  /-- The token that was read last. -/
  last : Token := .end
  expecting : Expecting := {}
  announced : List Announced := []
  /-- The documents that have been read. -/
  documents : List (Nat × Word) := []
  nextDocument : Nat := 0
  aliases : List (String × String) := []
  /-- The aliases that are being read, with how much is left of the script behind them. -/
  activeAliases : List (String × Nat) := []

/-- A mistake in a script, with its line. -/
structure Mistake where
  line : Nat
  text : String

/-- Reading a script. -/
abbrev Reading := ExceptT Mistake (StateM Reader)

namespace Reading

/-- Refuse the script. -/
def refuse (text : String) : Reading α := do
  throw { line := (← get).line, text := "Syntax error: " ++ text }

/-- Take the next character. -/
def next : Reading (Option Char) := do
  let r ← get
  match r.input with
  | [] => return none
  | c :: rest =>
    set { r with input := rest, line := if c = '\n' then r.line + 1 else r.line }
    return some c

/-- Look at the next character. -/
def peek : Reading (Option Char) :=
  return (← get).input.head?

/-- Pass over ends of lines behind a backslash. -/
def joinLines : Nat → Reading Unit
  | 0 => return
  | fuel + 1 => do
    match (← get).input with
    | '\\' :: '\n' :: rest =>
      modify fun r => { r with input := rest, line := r.line + 1 }
      joinLines fuel
    | _ => return

/-- How often anything can be repeated while a script is read. -/
def bound : Reading Nat :=
  return (← get).input.length + 1

/-- Take the next character behind joined lines. -/
def nextJoined : Reading (Option Char) := do
  if (← peek) = some '\\' then joinLines (← bound)
  next

/-- Look at the next character behind joined lines. -/
def peekJoined : Reading (Option Char) := do
  if (← peek) = some '\\' then joinLines (← bound)
  peek

/-- Take the next character if it is the given one. -/
def accept (c : Char) : Reading Bool := do
  if (← peekJoined) = some c then
    let _ ← next
    return true
  else return false

/-- Put characters in front of what is left. -/
def putBack (cs : List Char) : Reading Unit :=
  modify fun r => { r with input := cs ++ r.input }

/-- Hand back the token that was read last. -/
def handBack : Reading Unit :=
  modify fun r => { r with held := some r.last }

/-- Tell what the next token may be. -/
def expect (e : Expecting) : Reading Unit :=
  modify fun r => { r with expecting := e }

/-- Refuse the token that was read last. -/
def refuseToken (wanted : Option Token := none) : Reading α := do
  let found := (← get).last.called
  match wanted with
  | some token => refuse (found ++ " unexpected (expecting " ++ token.called ++ ")")
  | none => refuse (found ++ " unexpected")

end Reading

end ReleaseBuilder.Machine.Shell
