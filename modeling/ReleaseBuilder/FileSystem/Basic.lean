/-
# File systems

A file system is a finite map from locations to nodes, seen by a process with a working
directory and a mask for the permissions of what it makes. A location is the list of
names that lead from the root to a node without passing through a symbolic link, so every
directory has exactly one. Names and the targets of links are narrow texts: any octets but
those of a separator and of NUL can stand in a name. A file is known by a number: it may
stand at several locations, which then show the same content, and a file that has lost its
last name is there as long as somebody has it open. The root itself is always there.

The view of a file system is `get?`; each change is described by what it does to that
view, which is also how one shows that a change leaves all other locations alone.
-/

import ReleaseBuilder.FileSystem.Access
import ReleaseBuilder.FileSystem.Content

namespace ReleaseBuilder

/-- The names from the root down to a node. -/
abbrev Location := List String

/-- A file: its number, what it holds, and its permissions. -/
structure File where
  number : Nat
  content : Content
  access : Access

/-- What is at hand without being stored. -/
inductive Device where
  /-- Swallows what is written, and has nothing to read. -/
  | null
  /-- Swallows what is written; zero octets can be read from it without end. -/
  | zero
  /-- Like the zero device, but has no room for what is written. -/
  | full
  /-- Swallows what is written; octets of all kinds can be read from it without end. -/
  | random
  deriving DecidableEq, Repr

/-- What can stand at a location. -/
inductive Node where
  | file (file : File)
  | directory (access : Access)
  | link (target : String)
  | device (device : Device)

namespace Node

/-- Whether the node is a directory. -/
def isDirectory : Node → Bool
  | .directory _ => true
  | _ => false

/-- Whether the node is a regular file. -/
def isFile : Node → Bool
  | .file _ => true
  | _ => false

/-- Whether the node is the file of a number. -/
def isNumber (number : Nat) : Node → Bool
  | .file f => f.number = number
  | _ => false

/-- The file of a node. -/
def file? : Node → Option File
  | .file f => some f
  | _ => none

/-- Give the file of a number another content. -/
def refill (number : Nat) (content : Content) : Node → Node
  | .file f => if f.number = number then .file { f with content } else .file f
  | node => node

/-- The permissions of a node. Links and devices are open to everybody. -/
def access : Node → Access
  | .file f => f.access
  | .directory a => a
  | .link _ => ⟨0o777, .system⟩
  | .device _ => ⟨0o666, .system⟩

/-- Whether the user may do something with the node. -/
def allows (node : Node) (want : Want) : Bool :=
  node.access.allows want

end Node

/-- Nodes by location, files without a location, the number of the next file, and how
whoever looks at them sees and makes them. -/
structure FileSystem where
  nodes : List (Location × Node)
  /-- Files that have lost a name, as they may still be open. -/
  loose : List File := []
  next : Nat := 0
  cwd : Location := []
  umask : Nat := 0o022

namespace FileSystem

/-- The permissions of the root. -/
def rootAccess : Access := ⟨0o755, .system⟩

/-- A file system with nothing but its root. -/
def empty : FileSystem := { nodes := [] }

/-- The node at a location. -/
def get? (fs : FileSystem) (loc : Location) : Option Node :=
  if loc = [] then some (.directory rootAccess) else fs.nodes.lookup loc

/-- The file of a number, wherever it stands. -/
def file? (fs : FileSystem) (number : Nat) : Option File :=
  ((fs.nodes.filterMap (·.2.file?)).find? (·.number = number)).or
    (fs.loose.find? (·.number = number))

/-- Put a node at a location, in place of what was there. -/
def put (fs : FileSystem) (loc : Location) (node : Node) : FileSystem :=
  { fs with nodes := (loc, node) :: fs.nodes.filter (·.1 ≠ loc) }

/-- Put a new file at a location, in place of what was there. -/
def putFile (fs : FileSystem) (loc : Location) (content : Content) (access : Access) :
    FileSystem :=
  { fs.put loc (.file ⟨fs.next, content, access⟩) with next := fs.next + 1 }

/-- Give the file of a number another content, wherever it stands. -/
def fill (fs : FileSystem) (number : Nat) (content : Content) : FileSystem :=
  { fs with
    nodes := fs.nodes.map fun entry => (entry.1, entry.2.refill number content)
    loose := fs.loose.map fun f => if f.number = number then { f with content } else f }

/-- Take away the node at a location. -/
def erase (fs : FileSystem) (loc : Location) : FileSystem :=
  { fs with
    nodes := fs.nodes.filter (·.1 ≠ loc)
    loose := ((fs.nodes.lookup loc).bind Node.file?).toList ++ fs.loose }

/-- Take away the node at a location and everything below it. -/
def eraseBelow (fs : FileSystem) (loc : Location) : FileSystem :=
  let (gone, kept) := fs.nodes.partition fun entry => loc.isPrefixOf entry.1
  { fs with
    nodes := kept
    loose := gone.filterMap (·.2.file?) ++ fs.loose }

/-- Look at the same nodes from another working directory. -/
def enter (fs : FileSystem) (loc : Location) : FileSystem :=
  { fs with cwd := loc }

/-- The names directly below a location, each once, in no particular order. -/
def namesIn (fs : FileSystem) (loc : Location) : List String :=
  (fs.nodes.filterMap fun entry =>
    match entry.1.getLast? with
    | some name => if entry.1.dropLast = loc then some name else none
    | none => none).eraseDups

theorem nodup_eraseDups (names : List String) : names.eraseDups.Nodup := by
  cases names with
  | nil => exact .nil
  | cons name rest =>
    rw [List.eraseDups_cons, List.nodup_cons]
    refine ⟨?_, nodup_eraseDups _⟩
    rw [List.mem_eraseDups, List.mem_filter]
    rintro ⟨-, other⟩
    simp at other
termination_by names.length
decreasing_by exact Nat.lt_succ_of_le (List.length_filter_le _ rest)

@[simp] theorem get?_root (fs : FileSystem) :
    fs.get? [] = some (.directory rootAccess) := rfl

theorem lookup_filter_ne {nodes : List (Location × Node)} {loc other : Location}
    (h : other ≠ loc) : (nodes.filter (·.1 ≠ loc)).lookup other = nodes.lookup other := by
  induction nodes with
  | nil => rfl
  | cons entry rest ih =>
    obtain ⟨key, node⟩ := entry
    by_cases removed : key = loc
    · have different : (other == key) = false := by simp [removed, h]
      rw [List.filter_cons_of_neg (by simp [removed]), ih]
      simp [List.lookup_cons, different]
    · rw [List.filter_cons_of_pos (by simp [removed])]
      simp only [List.lookup_cons, ih]

theorem lookup_filter_self {nodes : List (Location × Node)} {loc : Location} :
    (nodes.filter (·.1 ≠ loc)).lookup loc = none := by
  induction nodes with
  | nil => rfl
  | cons entry rest ih =>
    obtain ⟨key, node⟩ := entry
    by_cases removed : key = loc
    · rw [List.filter_cons_of_neg (by simp [removed]), ih]
    · have different : (loc == key) = false := by simp [Ne.symm removed]
      rw [List.filter_cons_of_pos (by simp [removed])]
      simp only [List.lookup_cons, different, ih]

theorem lookup_map_snd {nodes : List (Location × Node)} {loc : Location} (f : Node → Node) :
    (nodes.map fun entry => (entry.1, f entry.2)).lookup loc = (nodes.lookup loc).map f := by
  induction nodes with
  | nil => rfl
  | cons entry rest ih =>
    obtain ⟨key, node⟩ := entry
    simp only [List.map_cons, List.lookup_cons, ih]
    cases loc == key <;> rfl

/-- The names below a location are those under which something stands there. -/
theorem mem_namesIn {fs : FileSystem} {loc : Location} {name : String} :
    name ∈ fs.namesIn loc ↔ (fs.get? (loc ++ [name])).isSome := by
  have nonroot : loc ++ [name] ≠ [] := by simp
  rw [namesIn, List.mem_eraseDups, List.mem_filterMap, get?, if_neg nonroot,
    List.lookup_isSome_iff]
  constructor
  · rintro ⟨entry, member, told⟩
    split at told
    · next last ends =>
      split at told
      · next below =>
        cases told
        refine ⟨entry, member, ?_⟩
        obtain ⟨front, whole⟩ := List.getLast?_eq_some_iff.mp ends
        rw [whole, List.dropLast_concat] at below
        rw [whole, below]
        exact BEq.refl _
      · cases told
    · cases told
  · rintro ⟨entry, member, same⟩
    refine ⟨entry, member, ?_⟩
    rw [← eq_of_beq same]
    simp

theorem nodup_namesIn (fs : FileSystem) (loc : Location) : (fs.namesIn loc).Nodup :=
  nodup_eraseDups _

theorem get?_put_self {fs : FileSystem} {loc : Location} {node : Node} (h : loc ≠ []) :
    (fs.put loc node).get? loc = some node := by
  simp [get?, put, h]

/-- Putting a node changes nothing at other locations. -/
theorem get?_put_of_ne {fs : FileSystem} {loc other : Location} {node : Node}
    (h : other ≠ loc) : (fs.put loc node).get? other = fs.get? other := by
  have different : (other == loc) = false := by simp [h]
  simp only [get?, put, List.lookup_cons, different, lookup_filter_ne h]

/-- Putting a new file changes nothing at other locations. -/
theorem get?_putFile_of_ne {fs : FileSystem} {loc other : Location} {content : Content}
    {access : Access} (h : other ≠ loc) :
    (fs.putFile loc content access).get? other = fs.get? other :=
  get?_put_of_ne h

/-- Filling a file shows wherever it stands. -/
theorem get?_fill {fs : FileSystem} {number : Nat} {content : Content} {loc : Location} :
    (fs.fill number content).get? loc = (fs.get? loc).map (Node.refill number content) := by
  by_cases h : loc = []
  · simp [h, get?, Node.refill]
  · simp only [get?, h, if_false, fill, lookup_map_snd]

/-- Filling a file changes nothing where another node stands. -/
theorem get?_fill_of_not_isNumber {fs : FileSystem} {number : Nat} {content : Content}
    {loc : Location} (h : (fs.get? loc).all (!·.isNumber number) = true) :
    (fs.fill number content).get? loc = fs.get? loc := by
  rw [get?_fill]
  cases found : fs.get? loc with
  | none => rfl
  | some node =>
    cases node with
    | file f =>
      have different : f.number ≠ number := by simpa [found, Node.isNumber] using h
      simp [Node.refill, different]
    | _ => rfl

theorem get?_erase_self {fs : FileSystem} {loc : Location} (h : loc ≠ []) :
    (fs.erase loc).get? loc = none := by
  simp only [get?, erase, h, if_false, lookup_filter_self]

/-- Erasing a node changes nothing at other locations. -/
theorem get?_erase_of_ne {fs : FileSystem} {loc other : Location} (h : other ≠ loc) :
    (fs.erase loc).get? other = fs.get? other := by
  simp only [get?, erase, lookup_filter_ne h]

@[simp] theorem get?_enter (fs : FileSystem) (dir loc : Location) :
    (fs.enter dir).get? loc = fs.get? loc := rfl

end FileSystem

end ReleaseBuilder
