/-
# Statements

What a script of the shell says. A word is made of parts: text, which may be quoted, and
things that are put in its place when the word is expanded. A statement is a simple
command, or is put together from other statements. The texts of documents that stand in
the script stand apart, and are known by numbers.
-/

namespace ReleaseBuilder.Machine.Shell

/-- What stands in for a parameter that is not set, or for one that is. -/
inductive Standing where
  /-- A word, if it is not set. -/
  | fallback
  /-- A word that is also assigned, if it is not set. -/
  | assigning
  /-- A complaint, if it is not set. -/
  | refusing
  /-- A word, if it is set. -/
  | replacing
  deriving DecidableEq

/-- How a file is opened for a redirection. -/
inductive Course where
  | input
  | output
  /-- Like output, whatever the shell was told of files that are there. -/
  | clobber
  | append
  | both
  deriving DecidableEq

mutual

/-- A part of a word. -/
inductive Part where
  | text (s : String)
  | quoted (s : String)
  | parameter (name : String) (use : Use) (isQuoted : Bool)
  /-- The output of a script. -/
  | output (script : Option Statement) (isQuoted : Bool)
  /-- The value of a calculation. -/
  | number (inner : List Part) (isQuoted : Bool)

/-- What is made of the value of a parameter. -/
inductive Use where
  | value
  | length
  /-- Something may stand in for it; an empty value counts as none if that is asked for. -/
  | standing (kind : Standing) (emptyToo : Bool) (word : List Part)
  /-- What matches a pattern is taken away from its front or back. -/
  | trimmed (front longest : Bool) (pattern : List Part)
  /-- Nothing that makes sense. -/
  | senseless

/-- Something done to a descriptor for the time of a command. -/
inductive Redirection where
  | file (fd : Nat) (course : Course) (path : List Part)
  /-- A copy of another descriptor, or nothing any more. -/
  | copy (fd : Nat) (source : List Part)
  | document (fd : Nat) (number : Nat)

/-- What a script says. -/
inductive Statement where
  | simple (line : Nat) (assignments words : List (List Part)) (redirections : List Redirection)
  | pipeline (stages : List Statement) (inBackground : Bool)
  | negated (s : Statement)
  | conjunction (first second : Statement)
  | disjunction (first second : Statement)
  | sequence (first second : Statement)
  | subshell (line : Nat) (body : Option Statement) (redirections : List Redirection)
  | background (line : Nat) (body : Statement) (redirections : List Redirection)
  | redirected (line : Nat) (body : Option Statement) (redirections : List Redirection)
  | choice (condition yes : Option Statement) (no : Option Statement)
  | loop (whileTrue : Bool) (condition body : Option Statement)
  | each (line : Nat) (name : String) (words : List (List Part)) (body : Option Statement)
  | cases (line : Nat) (word : List Part) (branches : List (List (List Part) × Option Statement))
  | function (line : Nat) (name : String) (body : Option Statement)

end

/-- A word. -/
abbrev Word := List Part

instance : Inhabited Part := ⟨.text ""⟩

/-- What a script says, if it says anything. -/
abbrev Script := Option Statement

/-- Whether a word that is a single text says the same without quotes. -/
def plainText? : Word → Option String
  | [.text s] => some s
  | [] => some ""
  | _ => none

/-- The text of a word with its quotes taken away, as far as it is known before expansion. -/
def literalText (w : Word) : String :=
  String.join (w.map fun part =>
    match part with
    | .text s | .quoted s => s
    | _ => "")

/-- Whether a character may start a name. -/
def isNameStart (c : Char) : Bool := c.isAlpha || c = '_'

/-- Whether a character may stand in a name. -/
def isNameChar (c : Char) : Bool := c.isAlphanum || c = '_'

/-- Whether a text is a name. -/
def isName (s : String) : Bool :=
  match s.toList with
  | c :: cs => isNameStart c && cs.all isNameChar
  | [] => false

/-- The name and the value of an assignment. -/
def assignment? (s : String) : Option (String × String) :=
  let name := s.toList.takeWhile isNameChar
  match s.toList.drop name.length with
  | '=' :: value =>
    if isName (String.ofList name) then some (String.ofList name, String.ofList value) else none
  | _ => none

/-- Whether a word is written as an assignment. -/
def isAssignment : Word → Bool
  | .text s :: _ => (assignment? s).isSome
  | _ => false

end ReleaseBuilder.Machine.Shell
