/-
# Other files beside one that is created

A file that is opened for writing, and whatever is written to it, is found at the path it was opened
at. All other files are found where they were before, with what they held.
-/

import ReleaseBuilder.Proofs.FileSystem.Writing

namespace ReleaseBuilder.FileSystem

variable {fs other : FileSystem} {p : Path}

/-! ## Walks that end at a file -/

/-- Where a walk ends at a file, or at a vacant place for a file that is to be made, one that only
looks ends at the file that stands there once at least the same is shown. -/
theorem Walks.finds_file (h : fs.Extends other) {links : Nat} {arrival : Arrival}
    {here : Location} {names : List String} {place : Place}
    (walks : Walks fs links arrival here names place) {loc : Location} {f : File}
    (ends : (place = .vacant loc ∧ arrival.creating = true) ∨ ∃ g, place = .found loc (.file g))
    (there : other.get? loc = some (.file f)) :
    Walks other links { arrival with creating := false } here names (.found loc (.file f)) := by
  -- The walk is the same up to its end, where the file stands now.
  induction walks with
  | arrived =>
      rcases ends with ⟨vacant, -⟩ | ⟨g, found⟩
      · cases vacant
      · cases found
  | stay mayEnter goesOn ih => exact .stay (mayEnter.of_extends h) (ih ends)
  | up mayEnter goesOn ih => exact .up (mayEnter.of_extends h) (ih ends)
  | vacant passes nothing =>
      rcases ends with ⟨vacant, creating⟩ | ⟨g, found⟩
      · cases vacant
        exact .node ((passes.of_extends h).looking rfl) there rfl nofun
          (passes.creating rfl creating)
      · cases found
  | link passes isLink still plain =>
      rcases ends with ⟨vacant, -⟩ | ⟨g, found⟩
      · cases vacant
      · cases found
  | detour passes isLink followed goesOn ih =>
      obtain ⟨shown, isShown, same⟩ := h.get? _ _ isLink
      obtain rfl := Node.eq_link_of_bare same
      exact .detour ((passes.of_extends h).looking rfl) isShown followed (ih ends)
  | descend passes isDirectory goesOn ih =>
      obtain ⟨shown, isShown, same⟩ := h.get? _ _ isDirectory
      obtain rfl := Node.eq_directory_of_bare same
      exact .descend ((passes.of_extends h).looking rfl) isShown (ih ends)
  | node passes isNode noDirectory noLink plain =>
      rcases ends with ⟨vacant, -⟩ | ⟨g, found⟩
      · cases vacant
      · cases found
        exact .node ((passes.of_extends h).looking rfl) there rfl nofun plain

theorem get?_of_find {loc : Location} {node : Node} (found : fs.find p = .ok (loc, node))
    (noDirectory : node.isDirectory = false) : fs.get? loc = some node :=
  (stat_eq_ok_iff.mp found).2.get?_of_found rfl noDirectory

/-- A file is found again where at least the same is shown, with what it holds by then. -/
theorem find_file_of_extends (h : fs.Extends other) {loc : Location} {f g : File}
    (found : fs.find p = .ok (loc, .file f)) (there : other.get? loc = some (.file g)) :
    other.find p = .ok (loc, .file g) := by
  obtain ⟨usable, walks⟩ := stat_eq_ok_iff.mp found
  refine stat_eq_ok_iff.mpr ⟨usable, ?_⟩
  rw [startOf, h.cwd]
  exact walks.finds_file h (.inr ⟨f, rfl⟩) there

/-- What a path arrives at that is opened for writing is found at the path. -/
theorem find_of_arrive (h : fs.Extends other) {place : Place} {loc : Location} {f : File}
    (arrived : fs.arrive { follow := true, creating := true } p = .ok place)
    (ends : place = .vacant loc ∨ ∃ g, place = .found loc (.file g))
    (there : other.get? loc = some (.file f)) : other.find p = .ok (loc, .file f) := by
  obtain ⟨usable, walks⟩ := arrive_eq_ok_iff.mp arrived
  refine stat_eq_ok_iff.mpr ⟨usable, ?_⟩
  rw [startOf, h.cwd]
  exact walks.finds_file h (ends.imp_left fun vacant => ⟨vacant, rfl⟩) there

/-! ## Opening a file -/

/-- Pouring into a file changes no other one. -/
theorem get?_pour_of_ne {loc : Location} {f : File} {number : Nat}
    (there : fs.get? loc = some (.file f)) (different : f.number ≠ number) (content : Content) :
    (fs.pour (.file number) content).get? loc = some (.file f) := by
  rw [pour, get?_fill, there]
  simp [Node.refill, different]

/-- What a file that was opened for writing is: one that was there, or a new one at a vacant
place. -/
inductive Opens (fs : FileSystem) (p : Path) : Nat → FileSystem → Prop
  | existing {loc : Location} {f : File}
      (arrived : fs.arrive { follow := true, creating := true } p = .ok (.found loc (.file f))) :
      Opens fs p f.number fs
  | fresh {loc : Location} (access : Access)
      (arrived : fs.arrive { follow := true, creating := true } p = .ok (.vacant loc)) :
      Opens fs p fs.next (fs.putFile loc .empty access)

theorem opens_of_openOutput {mode number : Nat} {opened : FileSystem}
    (h : fs.openOutput p mode = .ok (.file number, opened)) : fs.Opens p number opened := by
  unfold openOutput at h
  split at h
  · cases h
  · next arrived =>
    split at h
    · cases h
      exact .existing arrived
    · cases h
  · cases h
  · cases h
  · next arrived =>
    split at h
    · cases h
      exact .fresh _ arrived
    · cases h

section

variable {number : Nat} {opened : FileSystem}

/-- Whatever is written to a file that was opened, at least the same is shown as before. -/
theorem Opens.extends (h : fs.Opens p number opened) (content : Content) :
    fs.Extends (opened.pour (.file number) content) := by
  cases h with
  | existing arrived => exact extends_pour _ content
  | fresh access arrived =>
    exact extends_pour_putFile ((arrive_eq_ok_iff.mp arrived).2.get?_eq_none rfl) access content

theorem Opens.cwd_pour (h : fs.Opens p number opened) (content : Content) :
    (opened.pour (.file number) content).cwd = fs.cwd := by
  cases h <;> rfl

/-- What was written is found at the path. -/
theorem Opens.find (h : fs.Opens p number opened) (content : Content) :
    ∃ loc access, (opened.pour (.file number) content).find p =
      .ok (loc, .file ⟨number, content, access⟩) := by
  have extended := h.extends content
  cases h with
  | @existing loc f arrived =>
    have there : fs.get? loc = some (.file f) :=
      (arrive_eq_ok_iff.mp arrived).2.get?_of_found rfl rfl
    have filled : (fs.pour (.file f.number) content).get? loc =
        some (.file ⟨f.number, content, f.access⟩) := by
      rw [pour, get?_fill, there]
      simp [Node.refill]
    exact ⟨loc, f.access, find_of_arrive extended arrived (.inr ⟨f, rfl⟩) filled⟩
  | @fresh loc access arrived =>
    have vacant : fs.get? loc = none := (arrive_eq_ok_iff.mp arrived).2.get?_eq_none rfl
    exact ⟨loc, access, find_of_arrive extended arrived (.inl rfl)
      (get?_pour_putFile (ne_nil_of_vacant vacant) access content)⟩

/-- Another file is found as it was. -/
theorem Opens.find_other (h : fs.Opens p number opened) {q : Path} {loc : Location} {f : File}
    (found : fs.find q = .ok (loc, .file f)) (different : f.number ≠ number) (content : Content) :
    (opened.pour (.file number) content).find q = .ok (loc, .file f) := by
  have there := get?_of_find found rfl
  refine find_file_of_extends (h.extends content) found (get?_pour_of_ne ?_ different content)
  cases h with
  | existing arrived => exact there
  | @fresh vacantLoc access arrived =>
    have vacant : fs.get? vacantLoc = none := (arrive_eq_ok_iff.mp arrived).2.get?_eq_none rfl
    have away : loc ≠ vacantLoc := by
      rintro rfl
      cases there.symm.trans vacant
    rw [get?_putFile_of_ne away]
    exact there

end

/-- A device is there already. -/
theorem opened_of_device {mode : Nat} {device : Device} {opened : FileSystem}
    (h : fs.openOutput p mode = .ok (.device device, opened)) : opened = fs := by
  unfold openOutput at h
  split at h
  · cases h
  · split at h <;> cases h
  · cases h
    rfl
  · cases h
  · split at h <;> cases h

/-- Whatever is written to what was opened, at least the same is shown as before. -/
theorem extends_of_openOutput {mode : Nat} {outlet : Outlet} {opened : FileSystem}
    (h : fs.openOutput p mode = .ok (outlet, opened)) (content : Content) :
    fs.Extends (opened.pour outlet content) := by
  cases outlet with
  | file number => exact (opens_of_openOutput h).extends content
  | device d =>
    rw [opened_of_device h]
    exact extends_pour _ content

/-- What is created was opened for writing, and has no content. -/
theorem openOutput_of_create {outlet : Outlet} {opened : FileSystem}
    (h : fs.create p = .ok (outlet, opened)) :
    ∃ before, fs.openOutput p Access.fileMode = .ok (outlet, before) ∧
      opened = before.pour outlet .empty := by
  unfold create at h
  split at h
  · cases h
  · next outlet before opening =>
    cases h
    exact ⟨before, opening, rfl⟩

theorem opens_of_create {number : Nat} {opened : FileSystem}
    (h : fs.create p = .ok (.file number, opened)) :
    ∃ before, fs.Opens p number before ∧ opened = before.pour (.file number) .empty := by
  obtain ⟨before, opening, rfl⟩ := openOutput_of_create h
  exact ⟨before, opens_of_openOutput opening, rfl⟩

/-- What holds of whatever is created can be found out by creating it. -/
theorem forall_create_iff {P : Outlet → FileSystem → Prop}
    [∀ outlet opened, Decidable (P outlet opened)] :
    (∀ outlet opened, fs.create p = .ok (outlet, opened) → P outlet opened) ↔
      (fs.create p).toOption.all fun pair => decide (P pair.1 pair.2) := by
  cases fs.create p with
  | error fault => simp [Except.toOption]
  | ok pair => simp [Except.toOption, Prod.ext_iff]

theorem exists_create_iff {outlet : Outlet} :
    (∃ opened, fs.create p = .ok (outlet, opened)) ↔
      (fs.create p).toOption.map Prod.fst = some outlet := by
  cases fs.create p with
  | error fault => simp [Except.toOption]
  | ok pair => simp [Except.toOption, Prod.ext_iff]

end ReleaseBuilder.FileSystem
