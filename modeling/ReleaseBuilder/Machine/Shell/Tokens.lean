/-
# Tokens of a script

How a script falls into tokens, and how the documents that it announces are read where
their lines begin.
-/

import ReleaseBuilder.Machine.Shell.Words

namespace ReleaseBuilder.Machine.Shell

/-- Whether a word says nothing but a text without quotes. -/
def bareText? : Word → Option String
  | [.text s] => some s
  | _ => none

namespace Reading

/-- Pass over blanks, comments and joined lines. -/
def skipBlanks : Nat → Reading Unit
  | 0 => return
  | fuel + 1 => do
    match ← peekJoined with
    | some ' ' | some '\t' =>
      let _ ← next
      skipBlanks fuel
    | some '#' =>
      modify fun r => { r with input := r.input.dropWhile (· ≠ '\n') }
      skipBlanks fuel
    | _ => return

/-- Read a redirection up to its target, behind the first sign. -/
def arrow (sign : Char) (digit : Option Nat) : Reading Arrow := do
  if sign = '>' then
    let fd := digit.getD 1
    if ← accept '>' then return .file fd .append
    else if ← accept '|' then return .file fd .clobber
    else if ← accept '&' then return .copy fd
    else return .file fd .output
  else
    let fd := digit.getD 0
    if ← accept '<' then return .document fd (← accept '-')
    else if ← accept '&' then return .copy fd
    else if ← accept '>' then return .file fd .both
    else return .file fd .input

/-- Read a token from the text. Two signs that follow one another may be one token. -/
def freshToken (word : Reading Word) : Reading Token := do
  skipBlanks (← bound)
  let double (sign : Char) (two one : Token) : Reading Token := do
    let _ ← next
    return if ← accept sign then two else one
  match ← peek with
  | none => return .end
  | some '\n' =>
    let _ ← next
    return .newline
  | some '&' => double '&' .and .ampersand
  | some '|' => double '|' .or .pipe
  | some ';' => double ';' .caseEnd .semicolon
  | some '(' =>
    let _ ← next
    return .leftParen
  | some ')' =>
    let _ ← next
    return .rightParen
  | some _ =>
    let w ← word
    let digit := (plainText? w).bind fun s =>
      match s.toList with
      | [c] => if c.isDigit then some (c.toNat - '0'.toNat) else none
      | _ => none
    match ← peek with
    | some c =>
      if (c = '<' || c = '>') && (w.isEmpty || digit.isSome) then
        let _ ← next
        return .arrow (← arrow c digit)
      else return .word w
    | none => return .word w

/-- Read a line, and whether it was ended. -/
def lineOf : Reading (Option (List Char × Bool)) := do
  let r ← get
  if r.input.isEmpty then return none
  else
    let line := r.input.takeWhile (· ≠ '\n')
    let rest := r.input.drop line.length
    set { r with input := rest.drop 1, line := if rest.isEmpty then r.line else r.line + 1 }
    return some (line, !rest.isEmpty)

/-- Whether a line ends in a backslash that is not quoted by another one. -/
def isJoined (line : List Char) : Bool :=
  (line.reverse.takeWhile (· = '\\')).length % 2 = 1

/-- The lines of a document up to its mark. A line that is joined to the one before it is not
looked at for the mark. -/
def documentLines (a : Announced) : Nat → Bool → List Char → Reading (List Char)
  | 0, _, text => return text
  | fuel + 1, joined, text => do
    match ← lineOf with
    | none => return text
    | some (line, ended) =>
      let line := if a.tabless && !joined then line.dropWhile (· = '\t') else line
      if !joined && String.ofList line = a.mark then return text
      else
        documentLines a fuel (!a.plain && isJoined line)
          ((if ended then line ++ ['\n'] else line).reverse ++ text)

/-- Read the documents that were announced, given how to read what stands in one. -/
def documents (inDocument : List Char → Reading Word) : Reading Unit := do
  let announced := (← get).announced
  modify fun r => { r with announced := [] }
  for a in announced do
    let text := (← documentLines a (← bound) false []).reverse
    let w ← if a.plain then pure [.quoted (String.ofList text)] else inDocument text
    modify fun r => { r with documents := (a.number, w) :: r.documents }

/-- Replace a word that is an alias by what it stands for. -/
def replaceAlias (name : String) : Reading Bool := do
  let r ← get
  match r.aliases.lookup name with
  | none => return false
  | some value =>
    let left := r.input.length
    let active := r.activeAliases.filter (·.2 < left)
    if active.any (·.1 = name) then return false
    else
      set { r with input := value.toList ++ r.input, activeAliases := (name, left) :: active }
      return true

/-- What tokens are read with: how to read a word, and what stands in a document. -/
structure Lexer where
  word : Reading Word
  inDocument : List Char → Reading Word

/-- Pass over ends of lines, and read a token. -/
def tokenBehindLines (lexer : Lexer) (passing : Bool) : Nat → Reading Token
  | 0 => return .end
  | fuel + 1 => do
    let r ← get
    let t ←
      match r.held with
      | some t =>
        set { r with held := none }
        pure t
      | none => freshToken lexer.word
    match t with
    | .newline =>
      if passing then
        documents lexer.inDocument
        tokenBehindLines lexer passing fuel
      else return t
    | _ => return t

/-- Whether a reader has come past the end of an alias that ends in a blank, so that the word
behind it may be an alias too. -/
def hasPassedBlank (before after : Reader) : Bool :=
  before.activeAliases.any fun (name, left) =>
    left ≤ before.input.length && after.input.length < left &&
      ((before.aliases.lookup name).bind (·.toList.getLast?)).any fun c => c = ' ' || c = '\t'

/-- Read a token as it is expected, given how often aliases may be replaced. -/
def expectedToken (lexer : Lexer) (e : Expecting) : Nat → Reading Token
  | 0 => return .end
  | fuel + 1 => do
    let before ← get
    let t ← tokenBehindLines lexer e.passingLines (← bound)
    let after ← get
    match t with
    | .word w =>
      match bareText? w with
      | none => return t
      | some s =>
        match if e.keywords then keywords.lookup s else none with
        | some k => return .keyword k
        | none =>
          if e.aliases || hasPassedBlank before after then
            if ← replaceAlias s then expectedToken lexer e fuel else return t
          else return t
    | _ => return t

/-- Read the next token. -/
def token (lexer : Lexer) : Reading Token := do
  let e := (← get).expecting
  modify fun r => { r with expecting := {} }
  let t ← expectedToken lexer e (← bound)
  modify fun r => { r with last := t }
  return t

end Reading

end ReleaseBuilder.Machine.Shell
