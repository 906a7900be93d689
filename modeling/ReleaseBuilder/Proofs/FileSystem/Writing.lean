/-
# Making a file

What is opened for writing is there from then on. A file that is made where nothing stood lands in
the directory of the entry that its path names, and all other nodes are what they were, up to
contents and numbers that a walk does not see.
-/

import ReleaseBuilder.Proofs.FileSystem.Paths
import ReleaseBuilder.Proofs.FileSystem.Walking

namespace ReleaseBuilder

theorem Node.refill_refill (number : Nat) (first second : Content) (node : Node) :
    (node.refill number first).refill number second = node.refill number second := by
  cases node with
  | file f =>
    by_cases same : f.number = number
    · simp [refill, same]
    · simp [refill, same]
  | _ => rfl

theorem Node.access_eq_of_bare {node other : Node} (h : other.bare = node.bare) :
    other.access = node.access := by
  have access_bare (n : Node) : n.bare.access = n.access := by cases n <;> rfl
  rw [← access_bare, h, access_bare]

namespace FileSystem

variable {fs other : FileSystem} {p : Path}

/-! ## Looking paths up -/

/-- Where a path begins. -/
def startOf (fs : FileSystem) (p : Path) : Location :=
  if p.isAbsolute then [] else fs.cwd

theorem arrive_eq_ok_iff {arrival : Arrival} {place : Place} :
    fs.arrive arrival p = .ok place ↔
      p.Usable ∧ Walks fs linkLimit { arrival with directory := p.endsWithSlash } (fs.startOf p)
        p.pieces place := by
  rw [← walk_eq_ok_iff, startOf, arrive]
  constructor
  · intro h
    split at h
    · cases h
    · next noNul =>
      split at h
      · cases h
      · next nonempty =>
        split at h
        · cases h
        · next short =>
          refine ⟨⟨by simpa using noNul, by simpa using nonempty, Nat.not_le.mp short⟩, ?_⟩
          generalize fs.walk _ _ _ _ = walked at h ⊢
          cases walked with
          | error failure => cases h
          | ok place =>
            cases h
            rfl
  · rintro ⟨usable, walked⟩
    have noNul : p.text.toList.contains '\x00' = false := by simpa using usable.noNul
    have nonempty : p.text.isEmpty = false := by simpa using usable.nonempty
    simp only [noNul, nonempty, Nat.not_le.mpr usable.short, Bool.false_eq_true, if_false, walked]
    rfl

theorem stat_eq_ok_iff {follow : Bool} {loc : Location} {node : Node} :
    fs.stat follow p = .ok (loc, node) ↔
      p.Usable ∧ Walks fs linkLimit { follow, directory := p.endsWithSlash } (fs.startOf p)
        p.pieces (.found loc node) := by
  have arrives : fs.arrive { follow } p = .ok (.found loc node) ↔ _ := arrive_eq_ok_iff
  rw [← arrives, stat, place]
  rcases fs.arrive { follow } p with fault | ⟨loc', node'⟩ | loc' <;> simp

/-- What is at a path is found again where at least the same is shown. -/
theorem exists_stat_of_extends (h : fs.Extends other) {follow : Bool} {loc : Location}
    {node : Node} (found : fs.stat follow p = .ok (loc, node)) :
    ∃ shown, other.stat follow p = .ok (loc, shown) ∧ shown.bare = node.bare := by
  obtain ⟨usable, walks⟩ := stat_eq_ok_iff.mp found
  obtain ⟨shown, again, same⟩ := walks.of_extends h rfl
  refine ⟨shown, stat_eq_ok_iff.mpr ⟨usable, ?_⟩, same⟩
  rwa [startOf, h.cwd]

/-- Nothing is found at a path. A symbolic link is something, wherever it leads. -/
def Absent (fs : FileSystem) (p : Path) : Prop :=
  ∀ loc node, fs.stat false p ≠ .ok (loc, node)

instance (fs : FileSystem) (p : Path) : Decidable (fs.Absent p) :=
  decidable_of_iff ((fs.stat false p).toOption = none) <| by
    unfold Absent
    rcases fs.stat false p with fault | ⟨loc, node⟩ <;> simp [Except.toOption]

/-! ## Files that differ at one location -/

/-- Away from a location two file systems show the same to a walk. -/
structure SameBut (fs other : FileSystem) (loc : Location) : Prop where
  cwd : other.cwd = fs.cwd
  get? : ∀ elsewhere ≠ loc,
    (other.get? elsewhere).map Node.bare = (fs.get? elsewhere).map Node.bare

theorem SameBut.symm {loc : Location} (h : fs.SameBut other loc) : other.SameBut fs loc :=
  ⟨h.cwd.symm, fun elsewhere away => (h.get? elsewhere away).symm⟩

theorem SameBut.trans {third : FileSystem} {loc : Location} (h : fs.SameBut other loc)
    (h' : other.SameBut third loc) : fs.SameBut third loc :=
  ⟨h'.cwd.trans h.cwd, fun elsewhere away =>
    (h'.get? elsewhere away).trans (h.get? elsewhere away)⟩

theorem sameBut_putFile (loc : Location) (content : Content) (access : Access) :
    fs.SameBut (fs.putFile loc content access) loc where
  cwd := rfl
  get? := by
    intro elsewhere away
    rw [get?_putFile_of_ne away]

theorem sameBut_erase (loc : Location) : fs.SameBut (fs.erase loc) loc where
  cwd := rfl
  get? := by
    intro elsewhere away
    rw [get?_erase_of_ne away]

theorem cwd_pour (outlet : Outlet) (content : Content) : (fs.pour outlet content).cwd = fs.cwd := by
  cases outlet <;> rfl

/-- What is poured does not show to a walk. -/
theorem map_bare_pour (outlet : Outlet) (content : Content) (loc : Location) :
    ((fs.pour outlet content).get? loc).map Node.bare = (fs.get? loc).map Node.bare := by
  cases outlet with
  | device d => rfl
  | file number =>
    rw [pour, get?_fill, Option.map_map]
    simp [Function.comp_def]

theorem sameBut_pour (outlet : Outlet) (content : Content) (loc : Location) :
    fs.SameBut (fs.pour outlet content) loc :=
  ⟨cwd_pour outlet content, fun elsewhere _ => map_bare_pour outlet content elsewhere⟩

theorem directoryAt?_eq_some_iff {loc : Location} {access : Access} :
    fs.directoryAt? loc = some access ↔
      (fs.get? loc).map Node.bare = some (.directory access) := by
  unfold directoryAt?
  rcases fs.get? loc with _ | node
  · simp
  · cases node <;> simp [Node.bare]

/-- A directory shows. -/
theorem directoryAt?_eq_of_bare {loc : Location}
    (h : (other.get? loc).map Node.bare = (fs.get? loc).map Node.bare) :
    other.directoryAt? loc = fs.directoryAt? loc := by
  apply Option.ext
  intro access
  rw [directoryAt?_eq_some_iff, directoryAt?_eq_some_iff, h]

/-- Where nothing stood, and no directory stands now, nothing else is shown less. -/
theorem SameBut.extends {loc : Location} (h : fs.SameBut other loc) (vacant : fs.get? loc = none)
    (plain : other.directoryAt? loc = none) : fs.Extends other where
  cwd := h.cwd
  directoryAt? := by
    intro elsewhere
    by_cases here : elsewhere = loc
    · subst here
      rw [plain, directoryAt?, vacant]
    · exact directoryAt?_eq_of_bare (h.get? elsewhere here)
  get? := by
    intro elsewhere node found
    have away : elsewhere ≠ loc := by
      rintro rfl
      cases vacant.symm.trans found
    have same := h.get? elsewhere away
    rw [found] at same
    obtain ⟨shown, isShown, bare⟩ := Option.map_eq_some_iff.mp same
    exact ⟨shown, isShown, bare⟩

theorem extends_of_bare (cwd : other.cwd = fs.cwd)
    (shown : ∀ loc, (other.get? loc).map Node.bare = (fs.get? loc).map Node.bare) :
    fs.Extends other where
  cwd := cwd
  directoryAt? loc := directoryAt?_eq_of_bare (shown loc)
  get? := by
    intro loc node found
    rw [← Option.map_eq_some_iff, shown, found]
    rfl

theorem extends_pour (outlet : Outlet) (content : Content) :
    fs.Extends (fs.pour outlet content) :=
  extends_of_bare (cwd_pour outlet content) (map_bare_pour outlet content)

theorem pour_extends (outlet : Outlet) (content : Content) :
    (fs.pour outlet content).Extends fs :=
  extends_of_bare (cwd_pour outlet content).symm fun loc => (map_bare_pour outlet content loc).symm

theorem pour_pour (outlet : Outlet) (first second : Content) :
    (fs.pour outlet first).pour outlet second = fs.pour outlet second := by
  cases outlet with
  | device d => rfl
  | file number =>
    simp only [pour, fill, List.map_map]
    congr 1
    · simp [Function.comp_def, Node.refill_refill]
    · refine List.map_congr_left fun f _ => ?_
      by_cases same : f.number = number <;> simp [same]

/-! ## The entry that a path names -/

/-- A path names an entry of a directory. -/
structure NamesEntry (fs : FileSystem) (p : Path) (dir : Location) (access : Access)
    (name : String) : Prop where
  usable : p.Usable
  parent : fs.find p.above = .ok (dir, .directory access)
  last : p.pieces.getLast? = some name
  there : (fs.directoryAt? dir).isSome
  mayEnter : access.allows .enter = true
  ordinary : name ≠ "." ∧ name ≠ ".."
  short : name.length ≤ nameLimit

theorem namesEntry_of_slot {special : String → SystemError} {s : Slot}
    (h : fs.slot special p = .ok s) :
    ∃ dir access name, fs.NamesEntry p dir access name ∧
      s = ⟨dir ++ [name], fs.get? (dir ++ [name]), p.endsWithSlash⟩ := by
  unfold slot at h
  dsimp only at h
  split at h
  · cases h
  · next noNul =>
    split at h
    · cases h
    · next nonempty =>
      split at h
      · cases h
      · next short =>
        have usable : p.Usable :=
          ⟨by simpa using noNul, by simpa using nonempty, Nat.not_le.mp short⟩
        split at h
        · cases h
        · next dir access parent =>
          split at h
          · cases h
          · next name last =>
            split at h
            · cases h
            · next there =>
              split at h
              · cases h
              · next mayEnter =>
                split at h
                · cases h
                · next ordinary =>
                  split at h
                  · cases h
                  · next fits =>
                    cases h
                    refine ⟨dir, access, name, ⟨usable, parent, last, ?_, ?_, ?_, ?_⟩, rfl⟩
                    · simpa [Option.isSome_iff_ne_none] using there
                    · simpa using mayEnter
                    · simpa using ordinary
                    · exact Nat.not_lt.mp fits
        · cases h

theorem slot_of_namesEntry {dir : Location} {access : Access} {name : String}
    (h : fs.NamesEntry p dir access name) (special : String → SystemError) :
    fs.slot special p = .ok ⟨dir ++ [name], fs.get? (dir ++ [name]), p.endsWithSlash⟩ := by
  have noNul : p.text.toList.contains '\x00' = false := by simpa using h.usable.noNul
  have nonempty : p.text.isEmpty = false := by simpa using h.usable.nonempty
  have there : (fs.directoryAt? dir).isNone = false := by simpa using h.there
  have ordinary : (decide (name = ".") || decide (name = "..")) = false := by
    simpa using h.ordinary
  have parent := h.parent
  rw [Path.above] at parent
  simp only [slot, noNul, nonempty, Nat.not_le.mpr h.usable.short, Bool.false_eq_true, if_false,
    parent, h.last, there, h.mayEnter, Bool.not_true, ordinary, Nat.not_lt.mpr h.short]

/-! ## What was opened for writing -/

theorem ne_nil_of_vacant {loc : Location} (h : fs.get? loc = none) : loc ≠ [] := by
  rintro rfl
  cases h

/-- A file that was put somewhere and then written is there. -/
theorem get?_pour_putFile {loc : Location} (h : loc ≠ []) (access : Access) (content : Content) :
    ((fs.putFile loc .empty access).pour (.file fs.next) content).get? loc =
      some (.file ⟨fs.next, content, access⟩) := by
  have there : (fs.putFile loc .empty access).get? loc = some (.file ⟨fs.next, .empty, access⟩) :=
    get?_put_self h
  rw [pour, get?_fill, there]
  simp [Node.refill]

theorem sameBut_pour_putFile (loc : Location) (access : Access) (content : Content) :
    fs.SameBut ((fs.putFile loc .empty access).pour (.file fs.next) content) loc :=
  (sameBut_putFile loc .empty access).trans (sameBut_pour _ content loc)

theorem extends_pour_putFile {loc : Location} (vacant : fs.get? loc = none) (access : Access)
    (content : Content) :
    fs.Extends ((fs.putFile loc .empty access).pour (.file fs.next) content) := by
  refine (sameBut_pour_putFile loc access content).extends vacant ?_
  rw [directoryAt?, get?_pour_putFile (ne_nil_of_vacant vacant)]

/-- Where a file was opened for writing there is something, whatever is written then. -/
theorem not_absent_of_openOutput {mode : Nat} {outlet : Outlet} {opened : FileSystem}
    (h : fs.openOutput p mode = .ok (outlet, opened)) (content : Content) :
    ¬ (opened.pour outlet content).Absent p := by
  have there (shown : FileSystem) (extended : fs.Extends shown) {place : Place}
      (arrived : fs.arrive { follow := true, creating := true } p = .ok place)
      (filled : ∀ loc, place = .vacant loc → ∃ f, shown.get? loc = some (.file f)) :
      ¬ shown.Absent p := by
    obtain ⟨usable, walks⟩ := arrive_eq_ok_iff.mp arrived
    obtain ⟨loc, node, found⟩ := walks.exists_found extended rfl filled
    intro absent
    refine absent loc node (stat_eq_ok_iff.mpr ⟨usable, ?_⟩)
    rw [startOf, extended.cwd]
    exact found
  unfold openOutput at h
  split at h
  · cases h
  · next arrived =>
    split at h
    · cases h
      exact there _ (extends_pour _ content) arrived nofun
    · cases h
  · next arrived =>
    cases h
    exact there _ (extends_pour _ content) arrived nofun
  · cases h
  · next loc arrived =>
    split at h
    · cases h
      have vacant : fs.get? loc = none := (arrive_eq_ok_iff.mp arrived).2.get?_eq_none rfl
      refine there _ (extends_pour_putFile vacant _ content) arrived ?_
      rintro _ ⟨⟩
      exact ⟨_, get?_pour_putFile (ne_nil_of_vacant vacant) _ content⟩
    · cases h

theorem not_absent_of_write {content : Content} {written : FileSystem}
    (h : fs.write p content = .ok written) : ¬ written.Absent p := by
  unfold write at h
  split at h
  · cases h
  · next opening =>
    split at h
    · cases h
    · cases h
      exact not_absent_of_openOutput opening content

/-! ## Making a file where nothing was -/

/-- Where a file lands that is opened at a path with nothing there. -/
structure Landing (fs : FileSystem) (p : Path) (dir : Location) (name : String) : Prop where
  usable : p.Usable
  plain : p.endsWithSlash = false
  mayWrite : fs.mayAt dir .write = true
  lands : ∃ access, fs.Lands linkLimit (fs.startOf p) p.pieces dir name access

theorem landing_of_openOutput {mode : Nat} {outlet : Outlet} {opened : FileSystem}
    (h : fs.openOutput p mode = .ok (outlet, opened)) (absent : fs.Absent p) :
    ∃ dir name access, fs.Landing p dir name ∧ outlet = .file fs.next ∧
      opened = fs.putFile (dir ++ [name]) .empty access := by
  unfold openOutput at h
  cases arrived : fs.arrive { follow := true, creating := true } p with
  | error fault =>
    rw [arrived] at h
    cases h
  | ok place =>
    obtain ⟨usable, walks⟩ := arrive_eq_ok_iff.mp arrived
    obtain ⟨dir, name, access, rfl, plain, lands⟩ := walks.lands rfl fun loc node found =>
      absent loc node (stat_eq_ok_iff.mpr ⟨usable, found⟩)
    rw [arrived] at h
    dsimp only at h
    split at h
    · next mayWrite =>
      cases h
      rw [List.dropLast_concat] at mayWrite
      exact ⟨dir, name, _, ⟨usable, plain, mayWrite, access, lands⟩, rfl, rfl⟩
    · cases h

/-- Whatever leads to the last name of a path leads to the directory where a file lands. -/
theorem find_above_of_lands {dir : Location} {name : String} {access : Access} (usable : p.Usable)
    (lands : fs.Lands linkLimit (fs.startOf p) p.pieces dir name access) :
    fs.find p.above = .ok (dir, .directory access) := by
  have more : p.pieces ≠ [] := by
    intro none_there
    have last := lands.last
    rw [none_there] at last
    cases last
  have parent := lands.parent { follow := true, directory := p.above.endsWithSlash } rfl rfl
  have start : fs.startOf p.above = fs.startOf p := by
    rw [startOf, startOf, p.isAbsolute_above]
  refine stat_eq_ok_iff.mpr ⟨usable.above more, ?_⟩
  rw [start, p.pieces_above]
  split
  · exact parent
  · exact .stay lands.enters parent

theorem find_of_extends (h : fs.Extends other) {loc : Location} {access : Access}
    (found : fs.find p = .ok (loc, .directory access)) :
    other.find p = .ok (loc, .directory access) := by
  obtain ⟨shown, again, same⟩ := exists_stat_of_extends h found
  obtain rfl := Node.eq_directory_of_bare same
  exact again

end FileSystem
end ReleaseBuilder
