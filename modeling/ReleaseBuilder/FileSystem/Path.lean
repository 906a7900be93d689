/-
# Paths

A path is what it was written as, octet by octet, as a narrow text. Joining adds one
separator where it is needed and normalises nothing, so every message can show a path the
way the release put it together. The names of a path are what stands between its
separators. A path that was written as a text stands for the octets that spell it, and one
whose octets spell no text is shown as nearly as it can be.
-/

import ReleaseBuilder.Text.Narrow

namespace ReleaseBuilder

/-- A path, as written: a character for each of its octets. -/
structure Path where
  text : String
  deriving DecidableEq, Inhabited

namespace Path

/-- The path that is written as a text. -/
def ofText (s : String) : Path := ⟨Text.narrow s⟩

/-- A path as it is shown. -/
def shown (p : Path) : String := Text.widen p.text

instance : ToString Path := ⟨shown⟩

/-- Whether the path starts at the root. -/
def isAbsolute (p : Path) : Bool :=
  p.text.toList.head? = some '/'

/-- Whether the path is written with a separator at its end. -/
def endsWithSlash (p : Path) : Bool :=
  p.text.toList.getLast? = some '/'

/-- Continue a path by another one. An absolute continuation replaces the path, and one
separator is added unless the path is empty or ends in one. -/
def join (base rest : Path) : Path :=
  if rest.isAbsolute then rest
  else if base.text.isEmpty || base.endsWithSlash then ⟨base.text ++ rest.text⟩
  else ⟨base.text ++ "/" ++ rest.text⟩

/-- The pieces between separators, empty ones left out. -/
def pieces (p : Path) : List String :=
  ((p.text.toList.splitOn '/').filter (!·.isEmpty)).map String.ofList

/-- The names of a path: its pieces other than `.`. -/
def names (p : Path) : List String :=
  p.pieces.filter (· ≠ ".")

/-- The last name, unless it is `..`. -/
def fileName? (p : Path) : Option String :=
  match p.names.getLast? with
  | some ".." => none
  | other => other

theorem join_of_isAbsolute {base rest : Path} (h : rest.isAbsolute = true) :
    base.join rest = rest := by
  simp [join, h]

example : (Path.mk "a/b").join ⟨"c"⟩ = ⟨"a/b/c"⟩ := by decide

example : (Path.mk "a/").join ⟨""⟩ = ⟨"a/"⟩ := by decide

end Path

end ReleaseBuilder
