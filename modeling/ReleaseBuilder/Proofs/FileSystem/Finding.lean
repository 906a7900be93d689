/-
# What is found beside what is written

When a file is opened and written, the paths that lead to it find it. All others lead where they led
before, and find nothing where they found nothing: a new file makes no way to anything but itself,
and another content of a file that was there makes none at all.
-/

import ReleaseBuilder.Proofs.FileSystem.Denoting
import ReleaseBuilder.Proofs.FileSystem.Reading

namespace ReleaseBuilder

theorem Node.eq_of_refill {number : Nat} {content : Content} {node other : Node}
    (h : node.refill number content = other) (different : other.isNumber number = false) :
    node = other := by
  cases node with
  | file f =>
    by_cases same : f.number = number
    · rw [refill, if_pos same] at h
      subst h
      simp [isNumber, same] at different
    · rwa [refill, if_neg same] at h
  | directory access | link target | device d => exact h

namespace FileSystem

variable {fs : FileSystem} {p q : Path}

/-! ## Writing -/

/-- Whatever does not take what is written was there before. -/
theorem get?_of_pour {outlet : Outlet} {content : Content} {loc : Location} {node : Node}
    (there : (fs.pour outlet content).get? loc = some node)
    (apart : ∀ f, node = .file f → outlet ≠ .file f.number) : fs.get? loc = some node := by
  cases outlet with
  | device d => exact there
  | file number =>
    rw [pour, get?_fill] at there
    obtain ⟨before, isBefore, filled⟩ := Option.map_eq_some_iff.mp there
    rw [isBefore, Node.eq_of_refill filled]
    cases node with
    | file f =>
      have different := apart f rfl
      simpa [Node.isNumber, eq_comm] using different
    | directory access | link target | device d => rfl

/-! ## Opening -/

section

variable {mode : Nat} {outlet : Outlet} {opened : FileSystem} {loc : Location} {node : Node}

/-- What was not opened was there before. -/
theorem get?_of_openOutput (h : fs.openOutput p mode = .ok (outlet, opened))
    (there : opened.get? loc = some node) (apart : ∀ f, node = .file f → outlet ≠ .file f.number) :
    fs.get? loc = some node := by
  cases outlet with
  | device d =>
    rw [← opened_of_device h]
    exact there
  | file number =>
    cases opens_of_openOutput h with
    | existing arrived => exact there
    | @fresh made access arrived =>
      have vacant : fs.get? made = none := (arrive_eq_ok_iff.mp arrived).2.get?_eq_none rfl
      have away : loc ≠ made := by
        rintro rfl
        have new : (fs.putFile loc .empty access).get? loc =
            some (.file ⟨fs.next, .empty, access⟩) :=
          get?_put_self (ne_nil_of_vacant vacant)
        cases there.symm.trans new
        exact apart _ rfl rfl
      rwa [get?_putFile_of_ne away] at there

/-- A path that does not lead to what was opened leads where it led before. -/
theorem find_of_openOutput (h : fs.openOutput p mode = .ok (outlet, opened)) {content : Content}
    (found : (opened.pour outlet content).find q = .ok (loc, node))
    (apart : ∀ f, node = .file f → outlet ≠ .file f.number) : fs.find q = .ok (loc, node) := by
  refine find_of_sameWays (sameWays_pour h content) found ?_
  cases isDirectory : node.isDirectory with
  | true => exact .inl rfl
  | false =>
    exact .inr (get?_of_openOutput h (get?_of_pour (get?_of_find found isDirectory) apart) apart)

end

/-- What a path shows to a walk is the same where it leads to the same, up to what a walk does not
see. -/
theorem map_bare_find?_eq {other : FileSystem}
    (forth : ∀ loc node, fs.find q = .ok (loc, node) →
      ∃ shown, other.find q = .ok (loc, shown) ∧ shown.bare = node.bare)
    (back : ∀ loc node, other.find q = .ok (loc, node) →
      ∃ shown, fs.find q = .ok (loc, shown) ∧ shown.bare = node.bare) :
    (other.find? q).map (·.2.bare) = (fs.find? q).map (·.2.bare) := by
  apply Option.ext
  intro bare
  simp only [Option.map_eq_some_iff, Prod.exists, find?_eq_some_iff]
  constructor
  · rintro ⟨loc, node, found, rfl⟩
    obtain ⟨shown, again, same⟩ := back loc node found
    exact ⟨loc, shown, again, same⟩
  · rintro ⟨loc, node, found, rfl⟩
    obtain ⟨shown, again, same⟩ := forth loc node found
    exact ⟨loc, shown, again, same⟩

/-- Whatever is written, a path shows the same to a walk. -/
theorem map_bare_find?_pour (fs : FileSystem) (outlet : Outlet) (content : Content) (q : Path) :
    ((fs.pour outlet content).find? q).map (·.2.bare) = (fs.find? q).map (·.2.bare) :=
  map_bare_find?_eq (fun _ _ => exists_stat_of_extends (extends_pour outlet content))
    (fun _ _ => exists_stat_of_extends (pour_extends outlet content))

/-- A path that does not lead to what was created shows the same as before. -/
theorem map_bare_find?_of_create {outlet : Outlet} {opened : FileSystem}
    (created : fs.create p = .ok (outlet, opened))
    (apart : ∀ loc f, opened.find q = .ok (loc, .file f) → outlet ≠ .file f.number) :
    (opened.find? q).map (·.2.bare) = (fs.find? q).map (·.2.bare) := by
  obtain ⟨before, opening, rfl⟩ := openOutput_of_create created
  refine map_bare_find?_eq (fun _ _ => exists_stat_of_extends (extends_of_openOutput opening _)) ?_
  intro loc node found
  refine ⟨node, find_of_openOutput opening found ?_, rfl⟩
  rintro f rfl
  exact apart loc f found

end FileSystem

end ReleaseBuilder
