/-
# Entries of an archive

An archive is known by its entries, in order. Owners, times and the octets of the
container are not part of it: two archives with the same entries are the same archive.
-/

namespace ReleaseBuilder.Tarball

/-- What an entry holds. -/
inductive EntryKind where
  | file (data : ByteArray)
  | directory
  /-- A symbolic link to a target. -/
  | link (target : String)
  /-- Another name for a file that stands before it. -/
  | sameAs (name : String)

/-- One entry: its name, the low twelve permission bits and what it holds. -/
structure Entry where
  name : String
  mode : Nat
  kind : EntryKind

end ReleaseBuilder.Tarball
