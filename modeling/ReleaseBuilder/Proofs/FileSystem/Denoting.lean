/-
# What a path denotes

Whoever writes a file and takes it away again by its path changes what the path denotes: the file
that it leads to, wherever that stands, or the vacant place that it leads to, and the directory
entry that it names, which may be a symbolic link. At all other locations everything is as before.

Removing goes by the path once more, after the writing. It meets the same entry as before, since a
file that is made or filled changes neither directories nor links, by which alone paths are led.
-/

import ReleaseBuilder.Proofs.FileSystem.Creating
import ReleaseBuilder.Proofs.FileSystem.Removing

namespace ReleaseBuilder

/-- The number of the file that is written at a place. A file that is to be made there gets the next
number. -/
def Place.numberIn (fs : FileSystem) : Place → Option Nat
  | .found _ (.file f) => some f.number
  | .found _ _ => none
  | .vacant _ => some fs.next

namespace FileSystem

variable {fs other : FileSystem} {p : Path}

/-- A location belongs to what a path denotes. -/
inductive Denotes (fs : FileSystem) (p : Path) (loc : Location) : Prop
  /-- The path leads here, where nothing stands. -/
  | vacant (arrived : fs.arrive { follow := true, creating := true } p = .ok (.vacant loc))
  /-- The file that the path leads to stands here, perhaps under another name. -/
  | sharing {place : Place} {f : File}
      (arrived : fs.arrive { follow := true, creating := true } p = .ok place)
      (number : place.numberIn fs = some f.number) (shown : fs.get? loc = some (.file f))
  /-- The path names this entry of a directory, and it is no directory. -/
  | entry {s : Slot} (named : fs.slot (fun _ => .isDirectory) p = .ok s) (here : s.loc = loc)
      (plain : fs.directoryAt? loc = none)

/-- Two file systems are the same besides what a path denotes in the first. -/
structure SameBesides (fs : FileSystem) (p : Path) (other : FileSystem) : Prop where
  cwd : other.cwd = fs.cwd
  get? : ∀ loc, ¬ fs.Denotes p loc → other.get? loc = fs.get? loc

theorem SameBesides.refl (fs : FileSystem) (p : Path) : fs.SameBesides p fs :=
  ⟨rfl, fun _ _ => rfl⟩

/-! ## Writing -/

theorem get?_pour_of_unshared {number : Nat} {loc : Location}
    (unshared : ∀ f, fs.get? loc = some (.file f) → f.number ≠ number) (content : Content) :
    (fs.pour (.file number) content).get? loc = fs.get? loc := by
  refine get?_fill_of_not_isNumber ?_
  cases found : fs.get? loc with
  | none => rfl
  | some node =>
    cases node with
    | file f => simpa [Node.isNumber] using unshared f found
    | _ => rfl

/-- What is written to a file that was opened changes nothing but what the path denotes. -/
theorem sameBesides_pour {mode : Nat} {outlet : Outlet} {opened : FileSystem}
    (h : fs.openOutput p mode = .ok (outlet, opened)) (content : Content) :
    fs.SameBesides p (opened.pour outlet content) := by
  unfold openOutput at h
  split at h
  · cases h
  · next arrived =>
    split at h
    · cases h
      refine ⟨cwd_pour _ content, fun loc other => get?_pour_of_unshared ?_ content⟩
      rintro g shown same
      exact other (.sharing arrived (congrArg some same.symm) shown)
    · cases h
  · next arrived =>
    cases h
    exact .refl fs p
  · cases h
  · next made arrived =>
    split at h
    · cases h
      refine ⟨cwd_pour _ content, fun loc other => ?_⟩
      have away : loc ≠ made := by
        rintro rfl
        exact other (.vacant arrived)
      have unmade (access : Access) : (fs.putFile made .empty access).get? loc = fs.get? loc :=
        get?_putFile_of_ne away
      rw [get?_pour_of_unshared ?_ content, unmade]
      rintro g shown same
      rw [unmade] at shown
      exact other (.sharing arrived (congrArg some same.symm) shown)
    · cases h

theorem sameBesides_write {content : Content} {written : FileSystem}
    (h : fs.write p content = .ok written) : fs.SameBesides p written := by
  unfold write at h
  split at h
  · cases h
  · next opening =>
    split at h
    · cases h
    · cases h
      exact sameBesides_pour opening content

/-! ## What leads a walk -/

/-- Two file systems have the same directories and links, and are looked at from the same place. -/
structure SameWays (fs other : FileSystem) : Prop where
  cwd : other.cwd = fs.cwd
  directoryAt? : ∀ loc, other.directoryAt? loc = fs.directoryAt? loc
  link : ∀ loc target, other.get? loc = some (.link target) → fs.get? loc = some (.link target)

/-- Other contents and new files change no ways. -/
theorem sameWays_of_bare (cwd : other.cwd = fs.cwd)
    (shown : ∀ loc, (other.get? loc).map Node.bare = (fs.get? loc).map Node.bare ∨
      fs.get? loc = none ∧ ∃ f, other.get? loc = some (.file f)) : fs.SameWays other where
  cwd := cwd
  directoryAt? := by
    intro loc
    rcases shown loc with same | ⟨nothing, f, file⟩
    · exact directoryAt?_eq_of_bare same
    · rw [directoryAt?, directoryAt?, nothing, file]
  link := by
    intro loc target isLink
    rcases shown loc with same | ⟨nothing, f, file⟩
    · rw [isLink] at same
      obtain ⟨node, found, bare⟩ := Option.map_eq_some_iff.mp same.symm
      rw [found, Node.eq_link_of_bare bare]
    · cases isLink.symm.trans file

/-- Opening a file and writing to it changes no ways. -/
theorem sameWays_pour {mode : Nat} {outlet : Outlet} {opened : FileSystem}
    (h : fs.openOutput p mode = .ok (outlet, opened)) (content : Content) :
    fs.SameWays (opened.pour outlet content) := by
  have filled : fs.SameWays (fs.pour outlet content) :=
    sameWays_of_bare (cwd_pour outlet content) fun loc => .inl (map_bare_pour outlet content loc)
  unfold openOutput at h
  split at h
  · cases h
  · split at h
    · cases h
      exact filled
    · cases h
  · cases h
    exact filled
  · cases h
  · next made arrived =>
    split at h
    · cases h
      have nothing : fs.get? made = none := (arrive_eq_ok_iff.mp arrived).2.get?_eq_none rfl
      refine sameWays_of_bare (cwd_pour _ content) fun loc => ?_
      by_cases here : loc = made
      · subst here
        exact .inr ⟨nothing, _, get?_pour_putFile (ne_nil_of_vacant nothing) _ content⟩
      · exact .inl ((sameBut_pour_putFile made _ content).get? loc here)
    · cases h

theorem MayEnter.of_sameWays (h : fs.SameWays other) {here : Location}
    (mayEnter : other.MayEnter here) : fs.MayEnter here := by
  intro access
  rw [← h.directoryAt?]
  exact mayEnter access

theorem Passes.of_sameWays (h : fs.SameWays other) {arrival : Arrival} {here : Location}
    {name : String} {rest : List String} (passes : other.Passes arrival here name rest) :
    fs.Passes arrival here name rest where
  mayEnter := passes.mayEnter.of_sameWays h
  ordinary := passes.ordinary
  there := by
    rw [← h.directoryAt?]
    exact passes.there
  creating := passes.creating
  short := passes.short

/-- A walk is led by directories and links alone, to a directory or to what stands at its end. -/
theorem Walks.of_sameWays (h : fs.SameWays other) {links : Nat} {arrival : Arrival}
    {here : Location} {names : List String} {place : Place}
    (walks : Walks other links arrival here names place) {loc : Location} {node : Node}
    (found : place = .found loc node) (there : node.isDirectory = true ∨ fs.get? loc = some node) :
    Walks fs links arrival here names (.found loc node) := by
  induction walks with
  | arrived =>
      cases found
      rw [h.directoryAt?]
      exact .arrived
  | stay mayEnter goesOn ih => exact .stay (mayEnter.of_sameWays h) (ih found)
  | up mayEnter goesOn ih => exact .up (mayEnter.of_sameWays h) (ih found)
  | vacant passes nothing => cases found
  | link passes isLink still plain =>
      cases found
      exact .link (passes.of_sameWays h) (h.link _ _ isLink) still plain
  | detour passes isLink followed goesOn ih =>
      exact .detour (passes.of_sameWays h) (h.link _ _ isLink) followed (ih found)
  | descend passes isDirectory goesOn ih =>
      have shown := directoryAt?_eq_some_iff.mpr (by rw [isDirectory]; rfl)
      rw [h.directoryAt?, directoryAt?_eq_some_iff] at shown
      obtain ⟨node, isNode, bare⟩ := Option.map_eq_some_iff.mp shown
      obtain rfl := Node.eq_directory_of_bare bare
      exact .descend (passes.of_sameWays h) isNode (ih found)
  | node passes isNode noDirectory noLink plain =>
      cases found
      have shown := there.resolve_left (by rw [noDirectory]; decide)
      exact .node (passes.of_sameWays h) shown noDirectory noLink plain

theorem find_of_sameWays (h : fs.SameWays other) {loc : Location} {node : Node}
    (found : other.find p = .ok (loc, node))
    (there : node.isDirectory = true ∨ fs.get? loc = some node) : fs.find p = .ok (loc, node) := by
  obtain ⟨usable, walks⟩ := stat_eq_ok_iff.mp found
  refine stat_eq_ok_iff.mpr ⟨usable, ?_⟩
  rw [startOf, ← h.cwd]
  exact walks.of_sameWays h rfl there

theorem NamesEntry.of_sameWays (h : fs.SameWays other) {dir : Location} {access : Access}
    {name : String} (names : other.NamesEntry p dir access name) :
    fs.NamesEntry p dir access name where
  usable := names.usable
  parent := find_of_sameWays h names.parent (.inl rfl)
  last := names.last
  there := by
    rw [← h.directoryAt?]
    exact names.there
  mayEnter := names.mayEnter
  ordinary := names.ordinary
  short := names.short

/-! ## Removing -/

/-- Removing what was opened and written changes nothing but what the path denoted before. -/
theorem sameBesides_remove {mode : Nat} {outlet : Outlet} {opened cleared : FileSystem}
    {content : Content} (h : fs.openOutput p mode = .ok (outlet, opened))
    (removed : (opened.pour outlet content).remove p = .ok cleared) :
    fs.SameBesides p cleared := by
  have ways := sameWays_pour h content
  have written := sameBesides_pour h content
  obtain ⟨dir, name, node, removes, rfl⟩ := remove_eq_ok_iff.mp removed
  obtain ⟨access, names⟩ := removes.names
  have plain := removes.directoryAt?
  refine ⟨written.cwd, fun loc other => ?_⟩
  have away : loc ≠ dir ++ [name] := by
    rintro rfl
    rw [ways.directoryAt?] at plain
    exact other (.entry (slot_of_namesEntry (names.of_sameWays ways) _) rfl plain)
  rw [get?_erase_of_ne away]
  exact written.get? loc other

end FileSystem
end ReleaseBuilder
