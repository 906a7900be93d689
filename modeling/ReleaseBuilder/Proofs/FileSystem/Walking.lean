/-
# Walks through directories

A walk that is not refused goes one name at a time: it stays, goes up, passes a directory,
makes a detour through a symbolic link, or ends at a node or at a vacant place. `Walks` is this
as a relation, and the walks of the model are exactly its members, so whatever is shown by
induction on a walk holds of the paths that the model follows.

A walk that finds a node finds it again where at least the same is shown. And a walk that is to
make a file, along a path at which nothing stands, ends at a vacant place in the directory that
the names before the last lead to.
-/

import ReleaseBuilder.FileSystem.Operations

namespace ReleaseBuilder

/-- The arrival that asks what stands at a path itself. -/
def Arrival.asking (arrival : Arrival) : Arrival :=
  { arrival with follow := false, creating := false }

/-- How an arrival changes on a detour through a link, with names still to come behind it. -/
def Arrival.through (arrival : Arrival) (target : String) (rest : List String) : Arrival :=
  { arrival with
    directory := arrival.directory || (rest.isEmpty && (Path.mk target).endsWithSlash) }

namespace Node

/-- What a walk sees of a node, which is all but the number and the content of a file. -/
def bare : Node → Node
  | .file f => .file ⟨0, .empty, f.access⟩
  | node => node

theorem eq_directory_of_bare {node : Node} {access : Access}
    (h : node.bare = .directory access) : node = .directory access := by
  cases node <;> first | exact h | cases h

theorem eq_link_of_bare {node : Node} {target : String} (h : node.bare = .link target) :
    node = .link target := by
  cases node <;> first | exact h | cases h

theorem isDirectory_bare (node : Node) : node.bare.isDirectory = node.isDirectory := by
  cases node <;> rfl

theorem isFile_bare (node : Node) : node.bare.isFile = node.isFile := by
  cases node <;> rfl

/-- Another content does not show in a walk. -/
@[simp] theorem bare_refill (node : Node) (number : Nat) (content : Content) :
    (node.refill number content).bare = node.bare := by
  cases node with
  | file f =>
    rw [refill]
    split <;> rfl
  | _ => rfl

end Node

namespace FileSystem

/-- A walk may look names up here. In a directory that was removed there is nothing to refuse
it, nor anything to find. -/
def MayEnter (fs : FileSystem) (here : Location) : Prop :=
  ∀ access, fs.directoryAt? here = some access → access.allows .enter = true

/-- A walk passes through an entry of the directory it is in, with names still to come. -/
structure Passes (fs : FileSystem) (arrival : Arrival) (here : Location) (name : String)
    (rest : List String) : Prop where
  mayEnter : fs.MayEnter here
  ordinary : name ≠ "." ∧ name ≠ ".."
  there : (fs.directoryAt? here).isSome
  /-- A file cannot be made under a name with a separator behind it. -/
  creating : rest = [] → arrival.creating = true → arrival.directory = false
  short : name.length ≤ nameLimit

/-- Where the path of a link begins. -/
def detourStart (here : Location) (target : String) : Location :=
  if (Path.mk target).isAbsolute then [] else here

/-- The walks that are not refused. -/
inductive Walks (fs : FileSystem) :
    Nat → Arrival → Location → List String → Place → Prop
  | arrived {links : Nat} {arrival : Arrival} {here : Location} :
      Walks fs links arrival here []
        (.found here (.directory ((fs.directoryAt? here).getD removedAccess)))
  | stay {links : Nat} {arrival : Arrival} {here : Location} {rest : List String} {place : Place}
      (mayEnter : fs.MayEnter here) (goesOn : Walks fs links arrival here rest place) :
      Walks fs links arrival here ("." :: rest) place
  | up {links : Nat} {arrival : Arrival} {here : Location} {rest : List String} {place : Place}
      (mayEnter : fs.MayEnter here) (goesOn : Walks fs links arrival here.dropLast rest place) :
      Walks fs links arrival here (".." :: rest) place
  | vacant {links : Nat} {arrival : Arrival} {here : Location} {name : String}
      (passes : fs.Passes arrival here name []) (nothing : fs.get? (here ++ [name]) = none) :
      Walks fs links arrival here [name] (.vacant (here ++ [name]))
  | link {links : Nat} {arrival : Arrival} {here : Location} {name target : String}
      (passes : fs.Passes arrival here name [])
      (isLink : fs.get? (here ++ [name]) = some (.link target))
      (still : arrival.follow = false) (plain : arrival.directory = false) :
      Walks fs links arrival here [name] (.found (here ++ [name]) (.link target))
  | detour {links : Nat} {arrival : Arrival} {here : Location} {name target : String}
      {rest : List String} {place : Place} (passes : fs.Passes arrival here name rest)
      (isLink : fs.get? (here ++ [name]) = some (.link target))
      (followed : rest = [] → arrival.follow = true ∨ arrival.directory = true)
      (goesOn : Walks fs links (arrival.through target rest) (detourStart here target)
        ((Path.mk target).pieces ++ rest) place) :
      Walks fs (links + 1) arrival here (name :: rest) place
  | descend {links : Nat} {arrival : Arrival} {here : Location} {name : String}
      {rest : List String} {access : Access} {place : Place}
      (passes : fs.Passes arrival here name rest)
      (isDirectory : fs.get? (here ++ [name]) = some (.directory access))
      (goesOn : Walks fs links arrival (here ++ [name]) rest place) :
      Walks fs links arrival here (name :: rest) place
  | node {links : Nat} {arrival : Arrival} {here : Location} {name : String} {node : Node}
      (passes : fs.Passes arrival here name []) (isNode : fs.get? (here ++ [name]) = some node)
      (noDirectory : node.isDirectory = false) (noLink : ∀ target, node ≠ .link target)
      (plain : arrival.directory = false) :
      Walks fs links arrival here [name] (.found (here ++ [name]) node)

variable {fs : FileSystem}

theorem mayEnter_iff {here : Location} :
    fs.MayEnter here ↔ (fs.directoryAt? here).any (!·.allows .enter) = false := by
  unfold MayEnter
  cases fs.directoryAt? here with
  | none => simp
  | some access => simp

/-! ## The walks of the model -/

/-- The detours of a walk that may still pass some links. -/
def detours (fs : FileSystem) : Nat → Arrival → Location → List String → Except SystemError Place
  | 0 => fun _ _ _ => .error .linkLoop
  | links + 1 => fs.walk links

theorem walk_eq (links : Nat) : fs.walk links = walkNames fs (fs.detours links) := by
  cases links <;> rfl

/-- Names are looked up only where that is allowed. -/
theorem mayEnter_of_walkNames
    {detour : Arrival → Location → List String → Except SystemError Place} {arrival : Arrival}
    {here : Location} {name : String} {rest : List String} {place : Place}
    (h : walkNames fs detour arrival here (name :: rest) = .ok place) : fs.MayEnter here := by
  rw [walkNames] at h
  split at h
  · cases h
  · next allowed => exact mayEnter_iff.mpr (Bool.not_eq_true _ ▸ allowed)

theorem walkNames_here
    {detour : Arrival → Location → List String → Except SystemError Place} {arrival : Arrival}
    {here : Location} {rest : List String} (h : fs.MayEnter here) :
    walkNames fs detour arrival here ("." :: rest) = walkNames fs detour arrival here rest := by
  rw [walkNames, if_neg (by rw [mayEnter_iff.mp h]; decide), if_pos rfl]

theorem walkNames_parent
    {detour : Arrival → Location → List String → Except SystemError Place} {arrival : Arrival}
    {here : Location} {rest : List String} (h : fs.MayEnter here) :
    walkNames fs detour arrival here (".." :: rest) =
      walkNames fs detour arrival here.dropLast rest := by
  rw [walkNames, if_neg (by rw [mayEnter_iff.mp h]; decide), if_neg (by decide), if_pos rfl]

/-- Through an entry that it passes a walk goes on by what stands there. -/
theorem walkNames_of_passes
    {detour : Arrival → Location → List String → Except SystemError Place} {arrival : Arrival}
    {here : Location} {name : String} {rest : List String}
    (passes : fs.Passes arrival here name rest) :
    walkNames fs detour arrival here (name :: rest) =
      match fs.get? (here ++ [name]) with
      | none => if rest.isEmpty then .ok (.vacant (here ++ [name])) else .error .noEntry
      | some (.link target) =>
        if rest.isEmpty && !arrival.follow && !arrival.directory then
          .ok (.found (here ++ [name]) (.link target))
        else
          detour (arrival.through target rest) (detourStart here target)
            ((Path.mk target).pieces ++ rest)
      | some (.directory _) => walkNames fs detour arrival (here ++ [name]) rest
      | some node =>
        if rest.isEmpty && !arrival.directory then .ok (.found (here ++ [name]) node)
        else .error .notDirectory := by
  have creating : (rest.isEmpty && arrival.creating && arrival.directory) = false := by
    cases rest with
    | nil =>
      cases making : arrival.creating with
      | false => rfl
      | true => rw [passes.creating rfl making]; rfl
    | cons => rfl
  have open_here := mayEnter_iff.mp passes.mayEnter
  obtain ⟨access, there⟩ := Option.isSome_iff_exists.mp passes.there
  rw [there] at open_here
  rw [walkNames]
  simp only [open_here, passes.ordinary.1, passes.ordinary.2, there, creating,
    Nat.not_lt.mpr passes.short, Option.isNone_some, Bool.false_eq_true, if_false]
  rfl

/-- An entry that a walk is not refused is one that it passes. -/
theorem passes_of_walkNames
    {detour : Arrival → Location → List String → Except SystemError Place} {arrival : Arrival}
    {here : Location} {name : String} {rest : List String} {place : Place}
    (h : walkNames fs detour arrival here (name :: rest) = .ok place)
    (ordinary : name ≠ "." ∧ name ≠ "..") : fs.Passes arrival here name rest := by
  have mayEnter := mayEnter_of_walkNames h
  rw [walkNames, if_neg (by rw [mayEnter_iff.mp mayEnter]; decide), if_neg ordinary.1,
    if_neg ordinary.2] at h
  split at h
  · cases h
  · next there =>
    split at h
    · cases h
    · next creating =>
      split at h
      · cases h
      · next short =>
        refine ⟨mayEnter, ordinary, ?_, ?_, Nat.not_lt.mp short⟩
        · cases found : fs.directoryAt? here with
          | none => simp [found] at there
          | some access => rfl
        · rintro rfl making
          simpa [making] using creating

/-- Through an entry a walk goes as `Walks` says, if that is so of detours and behind a
directory. -/
theorem walks_of_passes {links : Nat}
    (onDetours : ∀ arrival here names place, fs.detours links arrival here names = .ok place →
      ∃ fewer, links = fewer + 1 ∧ Walks fs fewer arrival here names place)
    {arrival : Arrival} {here : Location} {name : String} {rest : List String} {place : Place}
    (passes : fs.Passes arrival here name rest)
    (h : walkNames fs (fs.detours links) arrival here (name :: rest) = .ok place)
    (below : walkNames fs (fs.detours links) arrival (here ++ [name]) rest = .ok place →
      Walks fs links arrival (here ++ [name]) rest place) :
    Walks fs links arrival here (name :: rest) place := by
  rw [walkNames_of_passes passes] at h
  cases found : fs.get? (here ++ [name]) with
  | none =>
    rw [found] at h
    dsimp only at h
    split at h
    · next last =>
      obtain rfl := List.isEmpty_iff.mp last
      cases h
      exact .vacant passes found
    · cases h
  | some node =>
    rw [found] at h
    cases node with
    | directory access => exact .descend passes found (below h)
    | link target =>
      dsimp only at h
      split at h
      · next still =>
        simp only [Bool.and_eq_true, List.isEmpty_iff, Bool.not_eq_true'] at still
        obtain ⟨⟨rfl, still⟩, plain⟩ := still
        cases h
        exact .link passes found still plain
      · next followed =>
        obtain ⟨fewer, rfl, goesOn⟩ := onDetours _ _ _ _ h
        refine .detour passes found ?_ goesOn
        rintro rfl
        cases follow : arrival.follow with
        | true => exact .inl rfl
        | false =>
          cases directory : arrival.directory with
          | true => exact .inr rfl
          | false => simp [follow, directory] at followed
    | file f | device d =>
      dsimp only at h
      split at h
      · next last =>
        simp only [Bool.and_eq_true, List.isEmpty_iff, Bool.not_eq_true'] at last
        obtain ⟨rfl, plain⟩ := last
        cases h
        exact .node passes found rfl nofun plain
      · cases h

/-- A walk of the model goes as `Walks` says. -/
theorem walks_of_walkNames {links : Nat}
    (onDetours : ∀ arrival here names place, fs.detours links arrival here names = .ok place →
      ∃ fewer, links = fewer + 1 ∧ Walks fs fewer arrival here names place)
    {arrival : Arrival} {here : Location} {names : List String} {place : Place}
    (h : walkNames fs (fs.detours links) arrival here names = .ok place) :
    Walks fs links arrival here names place := by
  induction names generalizing here with
  | nil =>
      cases h
      exact .arrived
  | cons name rest ih =>
      have mayEnter := mayEnter_of_walkNames h
      by_cases dot : name = "."
      · subst dot
        rw [walkNames_here mayEnter] at h
        exact .stay mayEnter (ih h)
      · by_cases dots : name = ".."
        · subst dots
          rw [walkNames_parent mayEnter] at h
          exact .up mayEnter (ih h)
        · exact walks_of_passes onDetours (passes_of_walkNames h ⟨dot, dots⟩) h ih

theorem walks_of_walk {links : Nat} {arrival : Arrival} {here : Location} {names : List String}
    {place : Place} (h : fs.walk links arrival here names = .ok place) :
    Walks fs links arrival here names place := by
  induction links generalizing arrival here names place with
  | zero =>
      rw [walk_eq] at h
      refine walks_of_walkNames ?_ h
      intro arrival here names place refused
      cases refused
  | succ links ih =>
      rw [walk_eq] at h
      exact walks_of_walkNames (fun _ _ _ _ detour => ⟨links, rfl, ih detour⟩) h

theorem walk_of_walks {links : Nat} {arrival : Arrival} {here : Location} {names : List String}
    {place : Place} (h : Walks fs links arrival here names place) :
    fs.walk links arrival here names = .ok place := by
  induction h with
  | arrived => rw [walk_eq, walkNames]
  | stay mayEnter goesOn ih =>
      rw [walk_eq] at ih ⊢
      rw [walkNames_here mayEnter, ih]
  | up mayEnter goesOn ih =>
      rw [walk_eq] at ih ⊢
      rw [walkNames_parent mayEnter, ih]
  | vacant passes nothing =>
      rw [walk_eq, walkNames_of_passes passes, nothing]
      rfl
  | link passes isLink still plain =>
      rw [walk_eq, walkNames_of_passes passes, isLink]
      simp [still, plain]
  | @detour links arrival here name target rest place passes isLink followed goesOn ih =>
      have goes_on : (rest.isEmpty && !arrival.follow && !arrival.directory) = false := by
        cases rest with
        | nil => rcases followed rfl with follow | directory <;> simp [*]
        | cons => rfl
      rw [walk_eq, walkNames_of_passes passes, isLink]
      simp only [goes_on]
      exact ih
  | descend passes isDirectory goesOn ih =>
      rw [walk_eq] at ih ⊢
      rw [walkNames_of_passes passes, isDirectory]
      exact ih
  | @node links arrival here name node passes isNode noDirectory noLink plain =>
      rw [walk_eq, walkNames_of_passes passes, isNode]
      cases node with
      | directory access => cases noDirectory
      | link target => exact absurd rfl (noLink target)
      | file f | device d => simp [plain]

/-- The walks of the model are those that `Walks` describes. -/
theorem walk_eq_ok_iff {links : Nat} {arrival : Arrival} {here : Location} {names : List String}
    {place : Place} :
    fs.walk links arrival here names = .ok place ↔ Walks fs links arrival here names place :=
  ⟨walks_of_walk, walk_of_walks⟩

/-- Nothing stands at a vacant place. -/
theorem Walks.get?_eq_none {links : Nat} {arrival : Arrival} {here : Location}
    {names : List String} {place : Place} (walks : Walks fs links arrival here names place)
    {loc : Location} (vacant : place = .vacant loc) : fs.get? loc = none := by
  induction walks with
  | arrived => cases vacant
  | stay mayEnter goesOn ih => exact ih vacant
  | up mayEnter goesOn ih => exact ih vacant
  | vacant passes nothing =>
      cases vacant
      exact nothing
  | link passes isLink still plain => cases vacant
  | detour passes isLink followed goesOn ih => exact ih vacant
  | descend passes isDirectory goesOn ih => exact ih vacant
  | node passes isNode noDirectory noLink plain => cases vacant

/-- What a walk finds stands where it ends. A directory need not, as the one that a walk begins in
may have been removed. -/
theorem Walks.get?_of_found {links : Nat} {arrival : Arrival} {here : Location}
    {names : List String} {place : Place} (walks : Walks fs links arrival here names place)
    {loc : Location} {node : Node} (found : place = .found loc node)
    (noDirectory : node.isDirectory = false) : fs.get? loc = some node := by
  induction walks with
  | arrived =>
      cases found
      cases noDirectory
  | stay mayEnter goesOn ih => exact ih found
  | up mayEnter goesOn ih => exact ih found
  | vacant passes nothing => cases found
  | link passes isLink still plain =>
      cases found
      exact isLink
  | detour passes isLink followed goesOn ih => exact ih found
  | descend passes isDirectory goesOn ih => exact ih found
  | node passes isNode noDirectory noLink plain =>
      cases found
      exact isNode

/-- A walk that ends at anything but a directory has a name to end at, which is not asked to be one. -/
theorem Walks.last_of_found {links : Nat} {arrival : Arrival} {here : Location}
    {names : List String} {place : Place} (walks : Walks fs links arrival here names place)
    {loc : Location} {node : Node} (found : place = .found loc node)
    (noDirectory : node.isDirectory = false) :
    arrival.directory = false ∧
      ∃ front last, names = front ++ [last] ∧ last ≠ "." ∧ last ≠ ".." := by
  induction walks with
  | arrived =>
      cases found
      cases noDirectory
  | stay mayEnter goesOn ih | up mayEnter goesOn ih | descend passes isDirectory goesOn ih =>
      obtain ⟨plain, front, last, rfl, ordinary⟩ := ih found
      exact ⟨plain, _ :: front, last, rfl, ordinary⟩
  | vacant passes nothing => cases found
  | link passes isLink still plain => exact ⟨plain, [], _, rfl, passes.ordinary⟩
  | node passes isNode noDirectory noLink plain => exact ⟨plain, [], _, rfl, passes.ordinary⟩
  | @detour links arrival here name target rest place passes isLink followed goesOn ih =>
      obtain ⟨plain, front, last, split, ordinary⟩ := ih found
      refine ⟨(Bool.or_eq_false_iff.mp plain).1, ?_⟩
      obtain rfl | ⟨others, final, rfl⟩ := List.eq_nil_or_concat rest
      · exact ⟨[], name, rfl, passes.ordinary⟩
      · rw [List.concat_eq_append, ← List.append_assoc] at split
        obtain ⟨-, rfl⟩ := List.append_singleton_inj.mp split
        exact ⟨name :: others, final, by simp, ordinary⟩

/-! ## Finding a node again -/

/-- At least what a walk sees in `fs` it sees in `other`. -/
structure Extends (fs other : FileSystem) : Prop where
  cwd : other.cwd = fs.cwd
  directoryAt? : ∀ loc, other.directoryAt? loc = fs.directoryAt? loc
  get? : ∀ loc node, fs.get? loc = some node →
    ∃ shown, other.get? loc = some shown ∧ shown.bare = node.bare

variable {other : FileSystem}

theorem MayEnter.of_extends (h : fs.Extends other) {here : Location} (mayEnter : fs.MayEnter here) :
    other.MayEnter here := by
  intro access
  rw [h.directoryAt?]
  exact mayEnter access

theorem Passes.of_extends (h : fs.Extends other) {arrival : Arrival} {here : Location}
    {name : String} {rest : List String} (passes : fs.Passes arrival here name rest) :
    other.Passes arrival here name rest where
  mayEnter := passes.mayEnter.of_extends h
  ordinary := passes.ordinary
  there := by
    rw [h.directoryAt?]
    exact passes.there
  creating := passes.creating
  short := passes.short

/-- A node that a walk finds it finds again where at least the same is shown. -/
theorem Walks.of_extends (h : fs.Extends other) {links : Nat} {arrival : Arrival}
    {here : Location} {names : List String} {place : Place}
    (walks : Walks fs links arrival here names place) {loc : Location} {node : Node}
    (found : place = .found loc node) :
    ∃ shown, Walks other links arrival here names (.found loc shown) ∧
      shown.bare = node.bare := by
  induction walks with
  | arrived =>
      cases found
      refine ⟨_, .arrived, ?_⟩
      rw [h.directoryAt?]
  | stay mayEnter goesOn ih =>
      obtain ⟨shown, again, same⟩ := ih found
      exact ⟨shown, .stay (mayEnter.of_extends h) again, same⟩
  | up mayEnter goesOn ih =>
      obtain ⟨shown, again, same⟩ := ih found
      exact ⟨shown, .up (mayEnter.of_extends h) again, same⟩
  | vacant passes nothing => cases found
  | link passes isLink still plain =>
      cases found
      obtain ⟨shown, isShown, same⟩ := h.get? _ _ isLink
      obtain rfl := Node.eq_link_of_bare same
      exact ⟨_, .link (passes.of_extends h) isShown still plain, rfl⟩
  | detour passes isLink followed goesOn ih =>
      obtain ⟨shown, again, same⟩ := ih found
      obtain ⟨link, isShown, sameLink⟩ := h.get? _ _ isLink
      obtain rfl := Node.eq_link_of_bare sameLink
      exact ⟨shown, .detour (passes.of_extends h) isShown followed again, same⟩
  | descend passes isDirectory goesOn ih =>
      obtain ⟨shown, again, same⟩ := ih found
      obtain ⟨directory, isShown, sameDirectory⟩ := h.get? _ _ isDirectory
      obtain rfl := Node.eq_directory_of_bare sameDirectory
      exact ⟨shown, .descend (passes.of_extends h) isShown again, same⟩
  | node passes isNode noDirectory noLink plain =>
      cases found
      obtain ⟨shown, isShown, same⟩ := h.get? _ _ isNode
      refine ⟨shown, .node (passes.of_extends h) isShown ?_ ?_ plain, same⟩
      · rw [← Node.isDirectory_bare, same, Node.isDirectory_bare]
        exact noDirectory
      · rintro target rfl
        exact noLink target (Node.eq_link_of_bare same.symm)

theorem Passes.looking {arrival looking : Arrival} {here : Location} {name : String}
    {rest rest' : List String} (passes : fs.Passes arrival here name rest)
    (h : looking.creating = false) : fs.Passes looking here name rest' where
  mayEnter := passes.mayEnter
  ordinary := passes.ordinary
  there := passes.there
  creating := by
    intro _ making
    rw [h] at making
    cases making
  short := passes.short

/-- Where a walk that is to make a file ends, or at a link on its way there, something stands once
a file is put at a vacant place that it ended at. -/
theorem Walks.exists_found (h : fs.Extends other) {links : Nat} {arrival : Arrival}
    {here : Location} {names : List String} {place : Place}
    (walks : Walks fs links arrival here names place) (creating : arrival.creating = true)
    (filled : ∀ loc, place = .vacant loc → ∃ f, other.get? loc = some (.file f)) :
    ∃ loc node, Walks other links arrival.asking here names (.found loc node) := by
  induction walks with
  | arrived => exact ⟨_, _, .arrived⟩
  | stay mayEnter goesOn ih =>
      obtain ⟨loc, node, found⟩ := ih creating filled
      exact ⟨loc, node, .stay (mayEnter.of_extends h) found⟩
  | up mayEnter goesOn ih =>
      obtain ⟨loc, node, found⟩ := ih creating filled
      exact ⟨loc, node, .up (mayEnter.of_extends h) found⟩
  | vacant passes nothing =>
      obtain ⟨f, isFile⟩ := filled _ rfl
      exact ⟨_, _, .node ((passes.of_extends h).looking rfl) isFile rfl nofun
        (passes.creating rfl creating)⟩
  | link passes isLink still plain =>
      obtain ⟨shown, isShown, same⟩ := h.get? _ _ isLink
      obtain rfl := Node.eq_link_of_bare same
      exact ⟨_, _, .link ((passes.of_extends h).looking rfl) isShown rfl plain⟩
  | @detour links arrival here name target rest place passes isLink followed goesOn ih =>
      obtain ⟨shown, isShown, same⟩ := h.get? _ _ isLink
      obtain rfl := Node.eq_link_of_bare same
      by_cases last : rest = []
      · subst last
        exact ⟨_, _, .link ((passes.of_extends h).looking rfl) isShown rfl
          (passes.creating rfl creating)⟩
      · obtain ⟨loc, node, found⟩ := ih creating filled
        exact ⟨loc, node, .detour ((passes.of_extends h).looking rfl) isShown (absurd · last) found⟩
  | descend passes isDirectory goesOn ih =>
      obtain ⟨loc, node, found⟩ := ih creating filled
      obtain ⟨shown, isShown, same⟩ := h.get? _ _ isDirectory
      obtain rfl := Node.eq_directory_of_bare same
      exact ⟨loc, node, .descend ((passes.of_extends h).looking rfl) isShown found⟩
  | node passes isNode noDirectory noLink plain =>
      obtain ⟨shown, isShown, same⟩ := h.get? _ _ isNode
      refine ⟨_, shown, .node ((passes.of_extends h).looking rfl) isShown ?_ ?_ plain⟩
      · rw [← Node.isDirectory_bare, same, Node.isDirectory_bare]
        exact noDirectory
      · rintro target rfl
        exact noLink target (Node.eq_link_of_bare same.symm)

/-! ## Where a new file lands -/

/-- A walk along the names ends at the vacant place `name` in the directory `dir`, and whoever
looks for a directory finds `dir` along the names before the last. -/
structure Lands (fs : FileSystem) (links : Nat) (here : Location) (names : List String)
    (dir : Location) (name : String) (access : Access) : Prop where
  last : names.getLast? = some name
  enters : fs.MayEnter here
  ordinary : name ≠ "." ∧ name ≠ ".."
  short : name.length ≤ nameLimit
  vacant : fs.get? (dir ++ [name]) = none
  directory : fs.directoryAt? dir = some access
  mayEnter : access.allows .enter = true
  parent : ∀ looking : Arrival, looking.follow = true → looking.creating = false →
    Walks fs links looking here names.dropLast (.found dir (.directory access))

/-- One more name at the front, if a walk goes on behind it. -/
theorem Lands.cons {links links' : Nat} {here next : Location} {name : String}
    (front : List String) {rest : List String} {dir : Location} {last : String} {access : Access}
    (lands : fs.Lands links next (front ++ rest) dir last access) (more : rest ≠ [])
    (enters : fs.MayEnter here)
    (goesOn : ∀ looking : Arrival, looking.follow = true → looking.creating = false →
      (∀ looking : Arrival, looking.follow = true → looking.creating = false →
        Walks fs links looking next (front ++ rest.dropLast) (.found dir (.directory access))) →
      Walks fs links' looking here (name :: rest.dropLast) (.found dir (.directory access))) :
    fs.Lands links' here (name :: rest) dir last access where
  last := by
    obtain ⟨other, others, rfl⟩ := List.exists_cons_of_ne_nil more
    have last := lands.last
    rw [List.getLast?_append, List.getLast?_cons] at last
    rw [List.getLast?_cons_cons, List.getLast?_cons]
    exact last
  enters := enters
  ordinary := lands.ordinary
  short := lands.short
  vacant := lands.vacant
  directory := lands.directory
  mayEnter := lands.mayEnter
  parent := by
    intro looking follow creating
    rw [List.dropLast_cons_of_ne_nil more]
    refine goesOn looking follow creating ?_
    rw [← List.dropLast_append_of_ne_nil more]
    exact lands.parent

/-- Where nothing stands at the end of a walk, a walk that is to make a file there ends at a
vacant place. -/
theorem Walks.lands {links : Nat} {arrival : Arrival} {here : Location} {names : List String}
    {place : Place} (walks : Walks fs links arrival here names place)
    (creating : arrival.creating = true)
    (absent : ∀ loc node, ¬ Walks fs links arrival.asking here names (.found loc node)) :
    ∃ dir name access, place = .vacant (dir ++ [name]) ∧ arrival.directory = false ∧
      fs.Lands links here names dir name access := by
  induction walks with
  | arrived => exact absurd .arrived (absent _ _)
  | @stay links arrival here rest place mayEnter goesOn ih =>
      obtain ⟨dir, name, access, vacant, plain, lands⟩ :=
        ih creating fun loc node found => absent loc node (.stay mayEnter found)
      have more : rest ≠ [] := by
        rintro rfl
        cases lands.last
      refine ⟨dir, name, access, vacant, plain, lands.cons [] more mayEnter ?_⟩
      intro looking follow still parent
      exact .stay mayEnter (parent looking follow still)
  | @up links arrival here rest place mayEnter goesOn ih =>
      obtain ⟨dir, name, access, vacant, plain, lands⟩ :=
        ih creating fun loc node found => absent loc node (.up mayEnter found)
      have more : rest ≠ [] := by
        rintro rfl
        cases lands.last
      refine ⟨dir, name, access, vacant, plain, lands.cons [] more mayEnter ?_⟩
      intro looking follow still parent
      exact .up mayEnter (parent looking follow still)
  | @vacant links arrival here name passes nothing =>
      obtain ⟨access, there⟩ := Option.isSome_iff_exists.mp passes.there
      refine ⟨here, name, access, rfl, passes.creating rfl creating, rfl, passes.mayEnter,
        passes.ordinary, passes.short, nothing, there, passes.mayEnter access there, ?_⟩
      intro looking _ _
      have arrives : Walks fs links looking here [] _ := .arrived
      rw [there] at arrives
      exact arrives
  | link passes isLink still plain =>
      exact absurd (.link (passes.looking rfl) isLink rfl plain) (absent _ _)
  | @detour links arrival here name target rest place passes isLink followed goesOn ih =>
      have more : rest ≠ [] := by
        rintro rfl
        exact absent _ _ (.link (passes.looking rfl) isLink rfl (passes.creating rfl creating))
      obtain ⟨dir, last, access, vacant, plain, lands⟩ := ih creating fun loc node found =>
        absent loc node (.detour (passes.looking rfl) isLink (absurd · more) found)
      refine ⟨dir, last, access, vacant, ?_, lands.cons _ more passes.mayEnter ?_⟩
      · exact (Bool.or_eq_false_iff.mp plain).1
      · intro looking follow still parent
        exact .detour (passes.looking still) isLink (fun _ => .inl follow)
          (parent (looking.through target rest.dropLast) follow still)
  | @descend links arrival here name rest entered place passes isDirectory goesOn ih =>
      have more : rest ≠ [] := by
        rintro rfl
        exact absent _ _ (.descend (passes.looking rfl) isDirectory .arrived)
      obtain ⟨dir, last, access, vacant, plain, lands⟩ := ih creating fun loc node found =>
        absent loc node (.descend (passes.looking rfl) isDirectory found)
      refine ⟨dir, last, access, vacant, plain, lands.cons [] more passes.mayEnter ?_⟩
      intro looking follow still parent
      exact .descend (passes.looking still) isDirectory (parent looking follow still)
  | node passes isNode noDirectory noLink plain =>
      exact absurd (.node (passes.looking rfl) isNode noDirectory noLink plain) (absent _ _)

end FileSystem

end ReleaseBuilder
