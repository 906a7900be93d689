/-
# The grammar of a script

How tokens make statements. A list is made of commands that are joined by the signs for
`and` and `or`, each of them a pipeline; a list inside a compound command ends where a
word or sign stands that must end it.
-/

import ReleaseBuilder.Machine.Shell.Tokens

namespace ReleaseBuilder.Machine.Shell

/-- Where a list of commands stands. -/
inductive ListPlace where
  /-- A line of a script. -/
  | line
  /-- In a compound command, which must say something first. -/
  | compound
  /-- Where nothing at all may stand. -/
  | loose
  deriving DecidableEq

/-- What a line of a script holds. -/
inductive Line where
  | script (s : Script)
  | nothingMore

namespace Reading

/-- What commands are read with: how to read tokens, and a list of commands that stands inside
another command. -/
structure Parser where
  lexer : Lexer
  inner : ListPlace → Reading Script
  /-- The names that no function may have. -/
  reserved : List String

/-- Put a statement behind others. -/
def andThen (first : Script) (second : Statement) : Script :=
  match first with
  | none => some second
  | some s => some (.sequence s second)

/-- A statement that is not waited for. -/
def inBackground (line : Nat) : Statement → Statement
  | .pipeline stages _ => .pipeline stages true
  | .redirected line (some body) redirections => .background line body redirections
  | s => .background line s []

namespace Parser

/-- Read the next token. -/
def token (p : Parser) : Reading Token := Reading.token p.lexer

/-- Read the next token, which must be a keyword. -/
def must (p : Parser) (k : Keyword) : Reading Unit := do
  if !(← p.token).isKeyword k then refuseToken (some (.keyword k))

/-- Read the target of a redirection. -/
def target (p : Parser) (a : Arrow) : Reading Redirection := do
  match ← p.token with
  | .word w =>
    match a with
    | .file fd course => return .file fd course w
    | .copy fd => return .copy fd w
    | .document fd tabless =>
      let r ← get
      let number := r.nextDocument
      let plain := w.any fun part =>
        match part with
        | .quoted _ => true
        | _ => false
      let announced : Announced := { number, mark := literalText w, plain, tabless }
      set { r with nextDocument := number + 1, announced := r.announced ++ [announced] }
      return .document fd number
  | _ => refuseToken

/-- Read redirections behind a command. -/
def redirections (p : Parser) : Nat → List Redirection → Reading (List Redirection)
  | 0, read => return read.reverse
  | fuel + 1, read => do
    match ← p.token with
    | .arrow a => redirections p fuel ((← p.target a) :: read)
    | _ =>
      handBack
      return read.reverse

/-- A simple command as far as it has been read, the latest parts first. -/
structure Simple where
  assignments : List Word := []
  words : List Word := []
  redirections : List Redirection := []

/-- Whether a simple command is so far the name of a function. -/
def Simple.isName (s : Simple) : Bool :=
  s.assignments.isEmpty && s.redirections.isEmpty && s.words.length = 1

/-- Read a function behind its name and the opening parenthesis. -/
def functionOf (p : Parser) (command : Reading Script) (w : Word) : Reading Statement := do
  match ← p.token with
  | .rightParen =>
    let name := (bareText? w).getD ""
    if !isName name || p.reserved.contains name then refuse "Bad function name"
    else
      expect { passingLines := true, keywords := true, aliases := true }
      let line := (← get).line
      return .function line name (← command)
  | _ => refuseToken (some .rightParen)

/-- Read a simple command. Assignments may stand only in front of its words. -/
def simple (p : Parser) (command : Reading Script) (line : Nat) :
    Nat → Simple → Reading Statement
  | 0, s => return .simple line s.assignments.reverse s.words.reverse s.redirections.reverse
  | fuel + 1, s => do
    expect { aliases := s.words.isEmpty }
    match ← p.token with
    | .word w =>
      if s.words.isEmpty && isAssignment w then
        simple p command line fuel { s with assignments := w :: s.assignments }
      else simple p command line fuel { s with words := w :: s.words }
    | .arrow a =>
      let r ← p.target a
      simple p command line fuel { s with redirections := r :: s.redirections }
    | t =>
      match t, s.isName, s.words with
      | .leftParen, true, w :: _ => p.functionOf command w
      | _, _, _ =>
        handBack
        return .simple line s.assignments.reverse s.words.reverse s.redirections.reverse

/-- Read what follows the condition of a choice. -/
def choice (p : Parser) : Nat → Reading Script
  | 0 => return none
  | fuel + 1 => do
    let condition ← p.inner .compound
    p.must .then
    let yes ← p.inner .compound
    match ← p.token with
    | .keyword .elif => return some (.choice condition yes (← choice p fuel))
    | .keyword .else => return some (.choice condition yes (← p.inner .compound))
    | _ =>
      handBack
      return some (.choice condition yes none)

/-- Read the words that a loop goes through. -/
def listed (p : Parser) : Nat → List Word → Reading (List Word)
  | 0, words => return words.reverse
  | fuel + 1, words => do
    match ← p.token with
    | .word w => listed p fuel (w :: words)
    | .newline | .semicolon => return words.reverse
    | _ => refuseToken

/-- Read a loop through words. -/
def each (p : Parser) (line : Nat) : Reading Statement := do
  let anyLine : Expecting := { passingLines := true, keywords := true, aliases := true }
  match ← p.token with
  | .word w =>
    match bareText? w with
    | some name =>
      if !isName name then refuse "Bad for loop variable"
      else
        expect anyLine
        let words ←
          match ← p.token with
          | .keyword .in => p.listed (← bound) []
          | .semicolon => pure [[Part.parameter "@" .value true]]
          | _ => do
            handBack
            pure [[Part.parameter "@" .value true]]
        expect anyLine
        p.must .do
        return .each line name words (← p.inner .compound)
    | none => refuse "Bad for loop variable"
  | _ => refuse "Bad for loop variable"

/-- The word that a token is in the pattern of a branch. -/
def patternOf : Token → Word
  | .word w => w
  | .keyword k => [.text (((keywords.find? (·.2 = k)).map Prod.fst).getD "")]
  | _ => []

/-- Read the patterns of a branch, the first of which was read. -/
def patterns (p : Parser) : Nat → List Word → Reading (List Word)
  | 0, read => return read.reverse
  | fuel + 1, read => do
    match ← p.token with
    | .pipe =>
      let w ← p.token
      patterns p fuel (patternOf w :: read)
    | .rightParen => return read.reverse
    | _ => refuseToken (some .rightParen)

/-- Read the branches of a case, the first token of which was read. -/
def branches (p : Parser) :
    Nat → Token → List (List Word × Script) → Reading (List (List Word × Script))
  | 0, _, read => return read.reverse
  | _ + 1, .keyword .esac, read => return read.reverse
  | fuel + 1, t, read => do
    let first ←
      match t with
      | .leftParen => p.token
      | _ => pure t
    let words ← p.patterns (← bound) [patternOf first]
    let body ← p.inner .loose
    expect { passingLines := true, keywords := true }
    match ← p.token with
    | .keyword .esac => return ((words, body) :: read).reverse
    | .caseEnd =>
      expect { passingLines := true, keywords := true }
      branches p fuel (← p.token) ((words, body) :: read)
    | _ => refuseToken (some .caseEnd)

/-- Read a case. -/
def case (p : Parser) (line : Nat) : Reading Statement := do
  match ← p.token with
  | .word w =>
    expect { passingLines := true, keywords := true, aliases := true }
    p.must .in
    expect { passingLines := true, keywords := true }
    let t ← p.token
    return .cases line w (← p.branches (← bound) t [])
  | _ => refuseToken (some (.word []))

/-- A command with redirections behind it. -/
def withRedirections (line : Nat) (body : Script) (redirections : List Redirection) : Script :=
  match body, redirections with
  | some (.subshell line body []), _ => some (.subshell line body redirections)
  | _, [] => body
  | _, _ => some (.redirected line body redirections)

/-- Read a command, given how deep functions may stand in one another. -/
def command (p : Parser) : Nat → Reading Script
  | 0 => return none
  | depth + 1 => do
    let t ← p.token
    let line := (← get).line
    let behind (body : Script) : Reading Script := do
      expect { keywords := true, aliases := true }
      return withRedirections line body (← p.redirections (← bound) [])
    let closed (body : Script) (k : Keyword) : Reading Script := do
      p.must k
      behind body
    match t with
    | .keyword .if => closed (← p.choice (← bound)) .fi
    | .keyword .while | .keyword .until =>
      let condition ← p.inner .compound
      p.must .do
      let body ← p.inner .compound
      closed (some (.loop (t.isKeyword .while) condition body)) .done
    | .keyword .for => closed (some (← p.each line)) .done
    | .keyword .case => behind (some (← p.case line))
    | .keyword .opening => closed (← p.inner .compound) .closing
    | .leftParen =>
      let body ← p.inner .compound
      match ← p.token with
      | .rightParen => behind (some (.subshell line body []))
      | _ => refuseToken (some .rightParen)
    | .word _ | .arrow _ =>
      handBack
      return some (← p.simple (command p depth) line (← bound) {})
    | _ => refuseToken

/-- Read the stages of a pipeline behind the first one. -/
def stages (p : Parser) : Nat → List Statement → Reading (List Statement)
  | 0, read => return read.reverse
  | fuel + 1, read => do
    match ← p.token with
    | .pipe =>
      expect { passingLines := true, keywords := true, aliases := true }
      let stage ← p.command (← bound)
      stages p fuel (stage.toList ++ read)
    | _ =>
      handBack
      return read.reverse

/-- Read a pipeline. -/
def pipeline (p : Parser) : Reading Script := do
  let isNegated := (← p.token).isKeyword .negation
  if isNegated then expect { keywords := true, aliases := true } else handBack
  let first ← p.command (← bound)
  let all ← p.stages (← bound) first.toList
  let whole :=
    match all with
    | [] => none
    | [one] => some one
    | several => some (.pipeline several false)
  return if isNegated then whole.map .negated else whole

/-- Read what is joined to a pipeline by `and` and `or`. -/
def joined (p : Parser) : Nat → Script → Reading Script
  | 0, read => return read
  | fuel + 1, read => do
    let more (join : Statement → Statement → Statement) : Reading Script := do
      expect { passingLines := true, keywords := true, aliases := true }
      let second ← p.pipeline
      joined p fuel (read.bind fun first => second.map (join first))
    match ← p.token with
    | .and => more .conjunction
    | .or => more .disjunction
    | _ =>
      handBack
      return read

/-- Read a list of commands. `place` tells how the next one may stand there, and `inside` that
the list stands inside another command. -/
def list (p : Parser) (inside : Bool) : Nat → ListPlace → Script → Reading Line
  | 0, _, read => return .script read
  | fuel + 1, place, read => do
    expect { passingLines := inside, keywords := true, aliases := true }
    let t ← p.token
    match t with
    | .newline =>
      documents p.lexer.inDocument
      return .script read
    | .end =>
      documents p.lexer.inDocument
      handBack
      return if read.isNone && !inside then .nothingMore else .script read
    | _ =>
      handBack
      if place = .loose && t.endsList then return .script read
      else
        let s ← p.joined (← bound) (← p.pipeline)
        let line := (← get).line
        let place : ListPlace := if inside then .loose else .line
        let behind ← p.token
        let s := if behind matches .ampersand then s.map (inBackground line) else s
        let all := s.map (andThen read) |>.getD read
        match behind with
        | .end =>
          documents p.lexer.inDocument
          handBack
          return .script all
        | .newline =>
          handBack
          list p inside fuel place all
        | .ampersand | .semicolon => list p inside fuel place all
        | _ =>
          if !inside then refuseToken
          else
            handBack
            return .script all

end Parser

/-- How deep commands may stand in one another. -/
def nesting : Nat := 1000

/-- The parser of commands that stand so deep in others at most. -/
def parser (reserved : List String) : Nat → Parser
  | 0 =>
    { lexer := ⟨return [], fun _ => return []⟩
      inner := fun _ => refuse "too deep"
      reserved }
  | depth + 1 =>
    let lower := parser reserved depth
    let insideOutput : Reading Script := do
      let s ← lower.inner .loose
      match ← lower.token with
      | .rightParen => return s
      | _ => refuseToken (some .rightParen)
    let inText (text : List Char) : Reading Script := ofText text (lower.inner .loose)
    let parts (place : Place) : Reading Word := do
      parts insideOutput inText (← bound) place []
    let lexer : Lexer := ⟨parts .bare, fun text => ofText text (parts .document)⟩
    { lexer
      inner := fun place => do
        match ← Parser.list { lexer, inner := lower.inner, reserved } true (← bound) place none with
        | .script s => return s
        | .nothingMore => return none
      reserved }

/-- Read the next line of a script. -/
def line (reserved : List String) : Reading Line := do
  modify fun r => { r with held := none, expecting := {}, announced := [] }
  (parser reserved nesting).list false (← bound) .line none

end Reading

end ReleaseBuilder.Machine.Shell
