/-
# Deposits

Files, directories and links that are put into a file system from outside: the sources
a release starts from, or what a command leaves behind. Missing directories above a
deposit are made first, and a deposit that cannot be placed changes nothing more.
-/

import ReleaseBuilder.FileSystem.Operations

namespace ReleaseBuilder

/-- What is put down. -/
inductive DepositKind where
  | file (content : Content)
  | directory
  | link (target : String)

/-- Something to put down at a path, with its permissions if they are not the usual ones. -/
structure Deposit where
  path : Path
  kind : DepositKind
  mode : Option Nat := none

namespace FileSystem

/-- The permissions of a file that is put down. -/
def depositedFile : Nat := 0o644

/-- The permissions of a directory that is put down. -/
def depositedDirectory : Nat := 0o755

/-- Put down one thing at its path, whose directory is there. -/
def settle (fs : FileSystem) (d : Deposit) : Except Fault FileSystem :=
  match d.kind with
  | .link target => fs.makeLink d.path (Text.narrow target)
  | .directory => do
    let made ← fs.makeDirectories d.path
    made.setMode d.path (d.mode.getD depositedDirectory)
  | .file content => do
    let written ← fs.write d.path content
    written.setMode d.path (d.mode.getD depositedFile)

/-- Put down one thing, the directories above it made as needed. -/
def deposit (fs : FileSystem) (d : Deposit) : FileSystem :=
  match fs.makeEach (stages d.path).dropLast with
  | .error _ => fs
  | .ok ready => (ready.settle d).toOption.getD ready

/-- Put down several things in order. -/
def depositAll (fs : FileSystem) (ds : List Deposit) : FileSystem :=
  ds.foldl deposit fs

/-- Remove what is at several paths; a path with nothing at it is passed over. -/
def clearAll (fs : FileSystem) (ps : List Path) : FileSystem :=
  ps.foldl (fun fs p => (fs.removeAll p).toOption.getD fs) fs

end FileSystem

end ReleaseBuilder
