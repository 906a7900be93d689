/-
# The version of a product

The version stands in a source file as a quoted literal behind a marker. The first line
with the marker counts, on it the last occurrence of the marker, and behind that the
literal between the last two quotes.
-/

import ReleaseBuilder.Failure
import ReleaseBuilder.FileSystem.Operations
import ReleaseBuilder.Text.Blank
import ReleaseBuilder.Text.Lines
import ReleaseBuilder.Text.Search

namespace ReleaseBuilder.Version

/-- Why a file gives no version. -/
inductive NoVersion where
  | unreadable (fault : Fault)
  | noMarker
  /-- The marker's line, without surrounding blanks, has no literal that holds something. -/
  | noLiteral (line : String)
  deriving DecidableEq

/-- The words for a missing version. -/
def NoVersion.words : NoVersion → String
  | unreadable fault => fault.message
  | noMarker => "no line contains the version marker"
  | noLiteral line => "no quoted version in `" ++ line ++ "`"

/-- The last literal between quotes, without surrounding blanks, unless it is empty. -/
def lastLiteral? (tail : List Char) : Option (List Char) :=
  match (tail.splitOn '"').reverse with
  | _ :: literal :: _ :: _ =>
    let trimmed := Text.trimBoth literal
    if trimmed.isEmpty then none else some trimmed
  | _ => none

/-- The literal behind the last marker of a line. -/
def literalAfter? (marker line : List Char) : Option (List Char) :=
  (Text.afterLast? marker line).bind lastLiteral?

/-- The first line with the marker, without surrounding blanks. -/
def markerLine? (marker source : List Char) : Option (List Char) :=
  ((Text.linesOf source).map Text.trimBoth).find? (Text.occursIn marker)

/-- The version that a source text gives. -/
def ofSource (source marker : String) : Except NoVersion String :=
  match markerLine? marker.toList source.toList with
  | none => .error .noMarker
  | some line =>
    match literalAfter? marker.toList line with
    | none => .error (.noLiteral (String.ofList line))
    | some literal => .ok (String.ofList literal)

/-- The version that the file at a path gives. -/
def read (files : FileSystem) (path : Path) (marker : String) : Except NoVersion String :=
  match files.readText path with
  | .error fault => .error (.unreadable fault)
  | .ok source => ofSource source marker

/-- The version that the file at a path gives, or the failure that tells why there is
none. -/
def resolve (files : FileSystem) (path : Path) (marker : String) : Except Failure String :=
  (read files path marker).mapError fun none => .missingVersion path marker none.words

end ReleaseBuilder.Version
