/-
# Removing what a path names

What is removed is the entry that a path names, if it is no directory and the directory that it is
in may be changed. It is the node that the path leads to by itself, no link at its end being
followed, so nothing is found at the path once it is gone. What can be removed can still be removed
when more is there, or something else has been written, as a walk does not look at contents.
-/

import ReleaseBuilder.Proofs.FileSystem.Writing

namespace ReleaseBuilder

/-- With more names to come the end of a link asks for nothing. -/
theorem Arrival.through_concat (arrival : Arrival) (target : String) (rest : List String)
    (name : String) : arrival.through target (rest ++ [name]) = arrival := by
  have more : (rest ++ [name]).isEmpty = false := by simp
  simp [Arrival.through, more]

namespace FileSystem

variable {fs other : FileSystem} {p : Path}

/-! ## One more name -/

/-- Where a walk passes, one passes that has one more name to go. -/
theorem Passes.concat {looking arrival : Arrival} {here : Location} {name last : String}
    {rest : List String} (passes : fs.Passes looking here name rest) :
    fs.Passes arrival here name (rest ++ [last]) where
  mayEnter := passes.mayEnter
  ordinary := passes.ordinary
  there := passes.there
  creating := by simp
  short := passes.short

/-- A walk to a directory goes on by one more name, whatever is to come of it at its end. -/
theorem Walks.concat {links : Nat} {looking arrival : Arrival} {here dir : Location}
    {names : List String} {name : String} {place last : Place} {access : Access}
    (walks : Walks fs links looking here names place)
    (found : place = .found dir (.directory access))
    (step : ∀ links, Walks fs links arrival dir [name] last) :
    Walks fs links arrival here (names ++ [name]) last := by
  induction walks with
  | arrived =>
      cases found
      exact step _
  | stay mayEnter goesOn ih => exact .stay mayEnter (ih found)
  | up mayEnter goesOn ih => exact .up mayEnter (ih found)
  | vacant passes nothing => cases found
  | link passes isLink still plain => cases found
  | @detour links looking here other target rest place passes isLink followed goesOn ih =>
      have beyond := ih found
      rw [List.append_assoc, ← arrival.through_concat target rest name] at beyond
      exact .detour passes.concat isLink (by simp) beyond
  | descend passes isDirectory goesOn ih => exact .descend passes.concat isDirectory (ih found)
  | node passes isNode noDirectory noLink plain =>
      cases found
      cases noDirectory

/-- A directory that is found has the permissions that are seen at its location. -/
theorem Walks.access_eq {links : Nat} {arrival : Arrival} {here : Location} {names : List String}
    {place : Place} (walks : Walks fs links arrival here names place) {loc : Location}
    {access : Access} (found : place = .found loc (.directory access)) :
    access = (fs.directoryAt? loc).getD removedAccess := by
  induction walks with
  | arrived =>
      cases found
      rfl
  | stay mayEnter goesOn ih => exact ih found
  | up mayEnter goesOn ih => exact ih found
  | vacant passes nothing => cases found
  | link passes isLink still plain => cases found
  | detour passes isLink followed goesOn ih => exact ih found
  | descend passes isDirectory goesOn ih => exact ih found
  | node passes isNode noDirectory noLink plain =>
      cases found
      cases noDirectory

theorem Walks.of_dot {links : Nat} {arrival : Arrival} {here : Location} {rest : List String}
    {place : Place} (walks : Walks fs links arrival here ("." :: rest) place) :
    Walks fs links arrival here rest place := by
  generalize dotted : "." :: rest = names at walks
  cases walks with
  | arrived => cases dotted
  | up => simp at dotted
  | stay mayEnter goesOn =>
      cases dotted
      exact goesOn
  | vacant passes | link passes | detour passes | descend passes | node passes =>
      cases dotted
      exact absurd rfl passes.ordinary.1

/-! ## The entry that a path names -/

section

variable {dir : Location} {access : Access} {name : String} {node : Node}

/-- A path names the same entry where at least the same is shown. -/
theorem NamesEntry.of_extends (h : fs.Extends other) (names : fs.NamesEntry p dir access name) :
    other.NamesEntry p dir access name where
  usable := names.usable
  parent := find_of_extends h names.parent
  last := names.last
  there := by
    rw [h.directoryAt?]
    exact names.there
  mayEnter := names.mayEnter
  ordinary := names.ordinary
  short := names.short

/-- A path at which a file lands names an entry of the directory where it lands. -/
theorem Landing.namesEntry (landing : fs.Landing p dir name) :
    ∃ access, fs.NamesEntry p dir access name := by
  obtain ⟨usable, -, -, access, lands⟩ := landing
  refine ⟨access, usable, find_above_of_lands usable lands, lands.last, ?_, lands.mayEnter,
    lands.ordinary, lands.short⟩
  rw [lands.directory]
  rfl

theorem NamesEntry.directoryAt? (names : fs.NamesEntry p dir access name) :
    fs.directoryAt? dir = some access := by
  obtain ⟨shown, there⟩ := Option.isSome_iff_exists.mp names.there
  have same := (stat_eq_ok_iff.mp names.parent).2.access_eq rfl
  rw [there] at same
  rw [there, same]
  rfl

/-- The directory of the entry that a path names is where the names before the last lead. -/
theorem NamesEntry.walks (names : fs.NamesEntry p dir access name) :
    ∃ looking : Arrival, Walks fs linkLimit looking (fs.startOf p) p.pieces.dropLast
      (.found dir (.directory access)) := by
  have above := (stat_eq_ok_iff.mp names.parent).2
  have start : fs.startOf p.above = fs.startOf p := by
    rw [startOf, startOf, p.isAbsolute_above]
  rw [start, p.pieces_above] at above
  split at above
  · exact ⟨_, above⟩
  · exact ⟨_, above.of_dot⟩

/-- A path leads to the entry that it names. -/
theorem stat_of_namesEntry (names : fs.NamesEntry p dir access name)
    (there : fs.get? (dir ++ [name]) = some node) (noDirectory : node.isDirectory = false)
    (plain : p.endsWithSlash = false) : fs.stat false p = .ok (dir ++ [name], node) := by
  refine stat_eq_ok_iff.mpr ⟨names.usable, ?_⟩
  obtain ⟨looking, above⟩ := names.walks
  obtain ⟨front, pieces⟩ := List.getLast?_eq_some_iff.mp names.last
  rw [pieces, List.dropLast_concat] at above
  rw [pieces]
  refine above.concat rfl fun links => ?_
  have passes : fs.Passes { follow := false, directory := p.endsWithSlash } dir name [] :=
    { mayEnter := by
        intro shown isShown
        obtain rfl := Option.some.inj (names.directoryAt?.symm.trans isShown)
        exact names.mayEnter
      ordinary := names.ordinary
      there := names.there
      creating := nofun
      short := names.short }
  cases node with
  | directory shown => cases noDirectory
  | link target => exact .link passes there rfl plain
  | file f => exact .node passes there rfl nofun plain
  | device d => exact .node passes there rfl nofun plain

end

/-! ## Removing -/

theorem mayAt_of_extends (h : fs.Extends other) {loc : Location} {want : Want}
    (allowed : fs.mayAt loc want = true) : other.mayAt loc want = true := by
  rw [mayAt, Option.any_eq_true] at allowed ⊢
  obtain ⟨node, found, allows⟩ := allowed
  obtain ⟨shown, isShown, same⟩ := h.get? _ _ found
  refine ⟨shown, isShown, ?_⟩
  rwa [Node.allows, Node.access_eq_of_bare same]

/-- A path names an entry of a directory that the user may take away. -/
structure Removes (fs : FileSystem) (p : Path) (dir : Location) (name : String) (node : Node) :
    Prop where
  names : ∃ access, fs.NamesEntry p dir access name
  plain : p.endsWithSlash = false
  mayWrite : fs.mayAt dir .write = true
  there : fs.get? (dir ++ [name]) = some node
  noDirectory : node.isDirectory = false

/-- What is removed is the entry that the path names. -/
theorem remove_eq_ok_iff {cleared : FileSystem} :
    fs.remove p = .ok cleared ↔
      ∃ dir name node, fs.Removes p dir name node ∧ cleared = fs.erase (dir ++ [name]) := by
  constructor
  · intro h
    unfold remove at h
    split at h
    · cases h
    · next s named =>
      obtain ⟨dir, access, name, names, rfl⟩ := namesEntry_of_slot named
      dsimp only at h
      split at h
      · cases h
      · cases h
      · cases h
      · next node there plain =>
        split at h
        · cases h
        · next mayWrite =>
          split at h
          · cases h
          · next noDirectory =>
            cases h
            exact ⟨dir, name, node, ⟨⟨access, names⟩, plain, by simpa [mayChange] using mayWrite,
              there, by simpa using noDirectory⟩, rfl⟩
  · rintro ⟨dir, name, node, ⟨⟨access, names⟩, plain, mayWrite, there, noDirectory⟩, rfl⟩
    rw [remove, slot_of_namesEntry names, there, plain]
    simp [mayChange, mayWrite, noDirectory]

section

variable {dir : Location} {name : String} {node : Node}

theorem Removes.directoryAt? (h : fs.Removes p dir name node) :
    fs.directoryAt? (dir ++ [name]) = none := by
  have noDirectory := h.noDirectory
  rw [FileSystem.directoryAt?, h.there]
  cases node with
  | directory access => cases noDirectory
  | file f | link target | device d => rfl

/-- What can be removed can be removed as well where at least the same is shown. -/
theorem Removes.of_extends (h : fs.Extends other) (removes : fs.Removes p dir name node) :
    ∃ shown, other.Removes p dir name shown := by
  obtain ⟨access, names⟩ := removes.names
  obtain ⟨shown, isShown, same⟩ := h.get? _ _ removes.there
  refine ⟨shown, ⟨access, names.of_extends h⟩, removes.plain, mayAt_of_extends h removes.mayWrite,
    isShown, ?_⟩
  rw [← Node.isDirectory_bare, same, Node.isDirectory_bare]
  exact removes.noDirectory

/-- A file where nothing was can be removed again. -/
theorem Landing.removes (landing : fs.Landing p dir name) (h : fs.Extends other) {f : File}
    (there : other.get? (dir ++ [name]) = some (.file f)) :
    other.Removes p dir name (.file f) := by
  obtain ⟨access, names⟩ := landing.namesEntry
  exact ⟨⟨access, names.of_extends h⟩, landing.plain, mayAt_of_extends h landing.mayWrite, there,
    rfl⟩

end

/-- The user can take away what is at a path. -/
def Removable (fs : FileSystem) (p : Path) : Prop :=
  ∃ cleared, fs.remove p = .ok cleared

instance (fs : FileSystem) (p : Path) : Decidable (fs.Removable p) :=
  decidable_of_iff ((fs.remove p).toOption.isSome) <| by
    unfold Removable
    cases fs.remove p with
    | error fault => simp [Except.toOption]
    | ok cleared => simp [Except.toOption]

theorem Removable.of_extends (h : fs.Extends other) (removable : fs.Removable p) :
    other.Removable p := by
  obtain ⟨cleared, removed⟩ := removable
  obtain ⟨dir, name, node, removes, -⟩ := remove_eq_ok_iff.mp removed
  obtain ⟨shown, again⟩ := removes.of_extends h
  exact ⟨_, remove_eq_ok_iff.mpr ⟨dir, name, shown, again, rfl⟩⟩

/-- Nothing is found where something was removed. -/
theorem absent_of_remove {cleared : FileSystem} (h : fs.remove p = .ok cleared) :
    cleared.Absent p := by
  obtain ⟨dir, name, node, removes, rfl⟩ := remove_eq_ok_iff.mp h
  obtain ⟨access, names⟩ := removes.names
  have erased : (fs.erase (dir ++ [name])).get? (dir ++ [name]) = none :=
    get?_erase_self (by simp)
  have extended : (fs.erase (dir ++ [name])).Extends fs :=
    (sameBut_erase _).symm.extends erased removes.directoryAt?
  intro loc found isFound
  -- Whatever is found was found before, and that was what has been removed.
  obtain ⟨shown, before, same⟩ := exists_stat_of_extends extended isFound
  cases (stat_of_namesEntry names removes.there removes.noDirectory removes.plain).symm.trans before
  have noDirectory : found.isDirectory = false := by
    rw [← Node.isDirectory_bare, ← same, Node.isDirectory_bare]
    exact removes.noDirectory
  cases erased.symm.trans ((stat_eq_ok_iff.mp isFound).2.get?_of_found rfl noDirectory)

/-- What was opened where nothing was can be removed again, whatever was written in between, and
then nothing is there as before. -/
theorem absent_of_remove_openOutput {mode : Nat} {outlet : Outlet} {opened : FileSystem}
    (h : fs.openOutput p mode = .ok (outlet, opened)) (absent : fs.Absent p) (content : Content) :
    ∃ cleared, (opened.pour outlet content).remove p = .ok cleared ∧ cleared.Absent p := by
  obtain ⟨dir, name, access, landing, rfl, rfl⟩ := landing_of_openOutput h absent
  obtain ⟨_, lands⟩ := landing.lands
  have removes := landing.removes (extends_pour_putFile lands.vacant access content)
    (get?_pour_putFile (ne_nil_of_vacant lands.vacant) access content)
  have removed := remove_eq_ok_iff.mpr ⟨dir, name, _, removes, rfl⟩
  exact ⟨_, removed, absent_of_remove removed⟩

end FileSystem

end ReleaseBuilder
