/-
# Names of archive members

The form in which an archive stores a member's name. A header has room for a short
name, which is written from its components: `.` and doubled separators fall away, and
a name that is absolute, empty or leads upwards is refused, so that unpacking cannot
leave the directory it is done in. A longer name is stored beside the header as it was
given, and only its front, which still stands in the header, is checked.
-/

import ReleaseBuilder.FileSystem.Path

namespace ReleaseBuilder.Tarball

/-- The octets that a header has for a name. -/
def headerRoom : Nat := 100

/-- The components that a header name is written from. A lone `.` is kept, since something
must be left. -/
def headerComponents (p : Path) : List String :=
  if p.names.isEmpty && !p.pieces.isEmpty then ["."] else p.names

/-- Whether a component may stand in a header name. -/
def mayStand (component : String) : Bool :=
  component != ".." && !component.toList.contains '\x00'

/-- The name that a header holds for a path, if it takes the path. The last component of a
name that was cut short is not held against it, since more of it may follow. -/
def headerName? (cut : Bool) (p : Path) : Option String :=
  let components := headerComponents p
  let checked := if cut && components.getLast? = some ".." then components.dropLast else components
  let name := "/".intercalate components ++ if p.endsWithSlash then "/" else ""
  if !p.isAbsolute && !components.isEmpty && checked.all mayStand
      && name.utf8ByteSize ≤ headerRoom then some name
  else none

/-- The longest front of a list of characters that has room in the given octets. -/
def frontWithin : Nat → List Char → List Char
  | _, [] => []
  | room, c :: rest =>
    if c.utf8Size ≤ room then c :: frontWithin (room - c.utf8Size) rest else []

/-- The name under which a member is stored, unless it is refused. -/
def storedName? (name : String) : Option String :=
  match headerName? false ⟨name⟩ with
  | some short => some short
  | none =>
    if name.utf8ByteSize < headerRoom then none
    else
      let front : Path := ⟨String.ofList (frontWithin headerRoom name.toList)⟩
      (headerName? true front).map fun _ => name

/-- The name of a directory, which is told without separators at its end. -/
def directoryName (stored : String) : String :=
  String.ofList (stored.toList.reverse.dropWhile (· = '/')).reverse

end ReleaseBuilder.Tarball
