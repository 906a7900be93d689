/-
# Access

Who may do what with a file or a directory. A mode holds the low twelve permission bits:
three for the user a node belongs to, three for its group and three for everybody else,
below three that are kept but not looked at. What belongs to the user who runs a release
is under the first three; what belongs to the system is under the last.
-/

namespace ReleaseBuilder

/-- Whom a node belongs to. -/
inductive Owner where
  /-- The user who runs the release. -/
  | user
  | system
  deriving DecidableEq, Repr

/-- Something that a node is wanted for. -/
inductive Want where
  | read
  | write
  /-- To run a file, or to look up names in a directory. -/
  | enter
  deriving DecidableEq, Repr

/-- The permission bit of a want. -/
def Want.bit : Want → Nat
  | read => 4
  | write => 2
  | enter => 1

/-- Whom a node belongs to, and its permissions. -/
structure Access where
  mode : Nat
  owner : Owner := .user
  deriving DecidableEq, Repr

namespace Access

/-- The three bits that the user is under. -/
def bits (a : Access) : Nat :=
  match a.owner with
  | .user => a.mode >>> 6
  | .system => a.mode

/-- Whether the user may do something. -/
def allows (a : Access) (want : Want) : Bool :=
  a.bits &&& want.bit ≠ 0

/-- The permissions of a directory that is made without asking for any. -/
def directoryMode : Nat := 0o777

/-- The permissions of a file that is made without asking for any. -/
def fileMode : Nat := 0o666

/-- A mode without the bits of a mask. -/
def masked (mode mask : Nat) : Nat :=
  mode - (mode &&& mask)

example : (Access.mk 0o400 .user).allows .read = true := by decide

example : (Access.mk 0o755 .system).allows .write = false := by decide

example : masked 0o666 0o022 = 0o644 := by decide

end Access

end ReleaseBuilder
