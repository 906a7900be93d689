/-
# Words of a script

How a word is read: text, quotes, and what is put in its place later. A backslash quotes
the next character; between single quotes everything is quoted, and between double quotes
everything but the dollar sign, the backquote and what a backslash is needed for.
-/

import ReleaseBuilder.Machine.Shell.Reader

namespace ReleaseBuilder.Machine.Shell

/-- Where parts of words are read. -/
inductive Place where
  /-- A word of a command. -/
  | bare
  /-- Between double quotes. -/
  | quotes
  /-- Between the braces of a parameter, which may stand between double quotes. -/
  | braces (isQuoted : Bool)
  /-- In a calculation, so many parentheses deep. -/
  | calculation (depth : Nat)
  /-- In a document. -/
  | document
  deriving DecidableEq

namespace Place

/-- Whether what is put in place here is quoted. -/
def isQuoted : Place → Bool
  | bare | braces false => false
  | _ => true

/-- Whether a backslash quotes a character here. -/
def escapes (p : Place) (c : Char) : Bool :=
  match p with
  | bare | braces false => true
  | quotes => ['\\', '$', Char.ofNat 96, '"'].contains c
  | braces true => ['\\', '$', Char.ofNat 96, '"', '\x7d'].contains c
  | calculation _ | document => ['\\', '$', Char.ofNat 96].contains c

end Place

/-- The character that encloses the older form of output. -/
def backquote : Char := Char.ofNat 96

/-- Add a character to parts, the latest part first. -/
def addChar (isQuoted : Bool) (c : Char) : List Part → List Part
  | .text s :: rest =>
    if isQuoted then .quoted (String.singleton c) :: .text s :: rest else .text (s.push c) :: rest
  | .quoted s :: rest =>
    if isQuoted then .quoted (s.push c) :: rest
    else .text (String.singleton c) :: .quoted s :: rest
  | parts =>
    (if isQuoted then .quoted (String.singleton c) else .text (String.singleton c)) :: parts

/-- Whether a character ends a word. -/
def endsWord (c : Char) : Bool :=
  [' ', '\t', '\n', ';', '&', '|', '<', '>', '(', ')'].contains c

/-- The parameters that are named by a character. -/
def isSpecial (c : Char) : Bool :=
  ['$', '!', '@', '*', '#', '?', '-'].contains c || c.isDigit

namespace Reading

/-- Read up to a single quote. -/
def singleQuoted : Nat → List Char → Reading String
  | 0, cs => return String.ofList cs.reverse
  | fuel + 1, cs => do
    match ← next with
    | none => refuse "Unterminated quoted string"
    | some '\'' => return String.ofList cs.reverse
    | some c => singleQuoted fuel (c :: cs)

/-- Read characters as long as they are of a kind, joined lines passed over. -/
def takeJoined (kind : Char → Bool) : Nat → List Char → Reading String
  | 0, cs => return String.ofList cs.reverse
  | fuel + 1, cs => do
    match ← peekJoined with
    | some c =>
      if kind c then
        let _ ← next
        takeJoined kind fuel (c :: cs)
      else return String.ofList cs.reverse
    | none => return String.ofList cs.reverse

/-- Read the older form of output up to its end, with the backslashes it needs taken away. -/
def backquoted (isQuoted : Bool) : Nat → List Char → Reading (List Char)
  | 0, cs => return cs.reverse
  | fuel + 1, cs => do
    match ← nextJoined with
    | none => refuse "EOF in backquote substitution"
    | some '\\' =>
      match ← next with
      | none => backquoted isQuoted fuel ('\\' :: cs)
      | some c =>
        if c = '\\' || c = backquote || c = '$' || (isQuoted && c = '"') then
          backquoted isQuoted fuel (c :: cs)
        else backquoted isQuoted fuel (c :: '\\' :: cs)
    | some c =>
      if c = backquote then return cs.reverse else backquoted isQuoted fuel (c :: cs)

/-- Read something with nothing else announced or handed back, and then go on as before. -/
def apart (read : Reading α) : Reading α := do
  let before ← get
  set { before with announced := [], held := none }
  let result ← read
  modify fun r => { r with announced := before.announced, held := before.held }
  return result

/-- Read a text of its own instead of what is left, and then go on as before. -/
def ofText (text : List Char) (read : Reading α) : Reading α := do
  let before ← get
  set { before with input := text, announced := [], held := none }
  let result ← read
  modify fun r =>
    { r with input := before.input, line := before.line, announced := before.announced
             held := before.held }
  return result

/-- What a parameter in braces is told to become, given what follows its name; the operand is
read by `operand`. -/
def useOf (p : Place) (operand : Place → Reading Word) : Reading Use := do
  let quoted : Place := .braces p.isQuoted
  let trim (front : Bool) (sign : Char) : Reading Use := do
    let longest ← accept sign
    return .trimmed front longest (← operand (.braces false))
  let standing (emptyToo : Bool) (c : Char) : Reading Use := do
    match c with
    | '\x7d' => return .value
    | '-' => return .standing .fallback emptyToo (← operand quoted)
    | '=' => return .standing .assigning emptyToo (← operand quoted)
    | '?' => return .standing .refusing emptyToo (← operand quoted)
    | '+' => return .standing .replacing emptyToo (← operand quoted)
    | _ =>
      let _ ← operand quoted
      return .senseless
  match ← nextJoined with
  | some ':' =>
    match ← nextJoined with
    | some c => standing true c
    | none => refuse "Missing '\x7d'"
  | some '%' => trim false '%'
  | some '#' => trim true '#'
  | some '\x7d' => return .value
  | some c =>
    if ['-', '=', '?', '+'].contains c then standing false c
    else
      putBack [c]
      let _ ← operand quoted
      return .senseless
  | none => refuse "Missing '\x7d'"

/-- Read a parameter in braces, behind the opening one. -/
def braced (p : Place) (operand : Place → Reading Word) : Reading Part := do
  let senseless : Reading Part := do
    let _ ← operand (.braces p.isQuoted)
    return .parameter "" .senseless p.isQuoted
  let used (name : String) : Reading Part := do
    return .parameter name (← useOf p operand) p.isQuoted
  let measured (name : String) : Reading Part := do
    if ← accept '\x7d' then return .parameter name .length p.isQuoted
    else senseless
  match ← peekJoined with
  | none => refuse "Missing '\x7d'"
  | some c =>
    if isNameStart c then used (← takeJoined isNameChar (← bound) [])
    else if c.isDigit then used (← takeJoined Char.isDigit (← bound) [])
    else if c = '#' then
      let _ ← next
      match ← peekJoined with
      | some c =>
        if isNameStart c then measured (← takeJoined isNameChar (← bound) [])
        else if c.isDigit then measured (← takeJoined Char.isDigit (← bound) [])
        else if c = '\x7d' then used "#"
        else
          let _ ← next
          if (← peekJoined) = some '\x7d' then
            if isSpecial c then measured (String.singleton c) else senseless
          else
            putBack [c]
            used "#"
      | none => refuse "Missing '\x7d'"
    else if isSpecial c then
      let _ ← next
      used (String.singleton c)
    else senseless

/-- Read what stands behind a dollar sign. Nothing special is a dollar sign itself. -/
def dollar (p : Place) (script : Reading Script) (parts : Place → Reading Word) :
    Reading (Option Part) := do
  match ← peekJoined with
  | none => return none
  | some '(' =>
    let _ ← next
    if ← accept '(' then return some (.number (← parts (.calculation 0)) p.isQuoted)
    else return some (.output (← apart script) p.isQuoted)
  | some '\x7b' =>
    let _ ← next
    return some (← braced p parts)
  | some c =>
    if isNameStart c then
      return some (.parameter (← takeJoined isNameChar (← bound) []) .value p.isQuoted)
    else if isSpecial c then
      let _ ← next
      return some (.parameter (String.singleton c) .value p.isQuoted)
    else return none

/-- What a script that ends too early lacks. -/
def lacking : Place → String
  | .calculation _ => "Missing '))'"
  | .braces false => "Missing '\x7d'"
  | _ => "Unterminated quoted string"

/-- The parts between double quotes, with a mark of them. A list of all parameters alone needs
none. -/
def markQuotes : List Part → List Part
  | [.parameter "@" .value q] => [.parameter "@" .value q]
  | parts => .quoted "" :: parts

/-- Read parts of a word, given how to read a script up to the parenthesis that ends it, and
a script in a text of its own. -/
def parts (script : Reading Script) (scriptIn : List Char → Reading Script) :
    Nat → Place → List Part → Reading Word
  | 0, _, read => return read.reverse
  | fuel + 1, p, read => do
    let goOn (read : List Part) : Reading Word := parts script scriptIn fuel p read
    let quote (read : List Part) : Reading Word := do
      let inner ← parts script scriptIn fuel .quotes []
      parts script scriptIn fuel p ((markQuotes inner).reverse ++ read)
    if p = .bare && (← peek).any endsWord then return read.reverse
    else
      match ← next with
      | none =>
        if p = .bare || p = .document then return read.reverse else refuse (lacking p)
      | some '\\' =>
        match ← next with
        | none => goOn (addChar true '\\' read)
        | some '\n' => goOn read
        | some c =>
          if p.escapes c then goOn (addChar true c read)
          else goOn (addChar true c (addChar true '\\' read))
      | some '$' =>
        match ← dollar p script fun p => parts script scriptIn fuel p [] with
        | some part => goOn (part :: read)
        | none => goOn (addChar p.isQuoted '$' read)
      | some '\'' =>
        if p.isQuoted then goOn (addChar true '\'' read)
        else
          let s ← singleQuoted (← bound) []
          goOn (.quoted s :: read)
      | some '"' =>
        match p with
        | .quotes => return read.reverse
        | .document | .calculation _ => goOn (addChar true '"' read)
        | _ => quote read
      | some '\x7d' =>
        match p with
        | .braces _ => return read.reverse
        | _ => goOn (addChar p.isQuoted '\x7d' read)
      | some '(' =>
        match p with
        | .calculation depth =>
          parts script scriptIn fuel (.calculation (depth + 1)) (addChar true '(' read)
        | _ => goOn (addChar p.isQuoted '(' read)
      | some ')' =>
        match p with
        | .calculation 0 =>
          if ← accept ')' then return read.reverse else goOn (addChar true ')' read)
        | .calculation (depth + 1) =>
          parts script scriptIn fuel (.calculation depth) (addChar true ')' read)
        | _ => goOn (addChar p.isQuoted ')' read)
      | some c =>
        if c = backquote then
          let text ← backquoted p.isQuoted (← bound) []
          let inner ← scriptIn text
          goOn (.output inner p.isQuoted :: read)
        else goOn (addChar p.isQuoted c read)

end Reading

end ReleaseBuilder.Machine.Shell
