/-
# What a file holds that is being written

A file that is written holds the same wherever it stands, and as long as it is open also where it
stands no more. Octets that are put where its content ends are added to it, so whoever writes one
piece behind the other, and is the only one who writes, leaves all pieces in their order.
-/

import ReleaseBuilder.Proofs.FileSystem.Creating

namespace ReleaseBuilder.FileSystem

variable {fs : FileSystem} {number : Nat} {content : Content}

/-- The files that stand somewhere or may be open. -/
def known (fs : FileSystem) : List File :=
  fs.nodes.filterMap (·.2.file?) ++ fs.loose

/-- Wherever the file of a number is known, it has some content. -/
def Holds (fs : FileSystem) (number : Nat) (content : Content) : Prop :=
  ∀ f ∈ fs.known, f.number = number → f.content = content

/-- From one moment to another, nobody has given the file of a number another content. -/
def Keeps (number : Nat) (before after : FileSystem) : Prop :=
  ∀ content, before.Holds number content → after.Holds number content

theorem Keeps.refl (number : Nat) (fs : FileSystem) : Keeps number fs fs := fun _ held => held

theorem file?_eq_find?_known (fs : FileSystem) (number : Nat) :
    fs.file? number = fs.known.find? (·.number = number) := by
  rw [file?, known, List.find?_append]

theorem mem_known_of_get? {loc : Location} {f : File} (there : fs.get? loc = some (.file f)) :
    f ∈ fs.known := by
  unfold get? at there
  split at there
  · cases there
  · obtain ⟨front, back, whole, -⟩ := List.lookup_eq_some_iff.mp there
    refine List.mem_append_left _ (List.mem_filterMap.mpr ⟨(loc, .file f), ?_, rfl⟩)
    rw [whole]
    exact List.mem_append_cons_self

theorem known_fill (fs : FileSystem) (number : Nat) (content : Content) :
    (fs.fill number content).known =
      fs.known.map fun f => if f.number = number then { f with content } else f := by
  have standing (node : Node) : (node.refill number content).file? =
      node.file?.map fun f => if f.number = number then { f with content } else f := by
    cases node with
    | file f =>
      rw [Node.refill]
      split <;> simp [Node.file?, *]
    | directory access | link target | device d => rfl
  simp only [known, fill, List.map_append, List.filterMap_map, List.map_filterMap,
    Function.comp_def, standing]

/-- A file that has just been written holds what was written. -/
theorem holds_fill (fs : FileSystem) (number : Nat) (content : Content) :
    (fs.fill number content).Holds number content := by
  intro f member same
  rw [known_fill] at member
  obtain ⟨g, -, rfl⟩ := List.mem_map.mp member
  by_cases isNumber : g.number = number
  · simp [isNumber]
  · simp [isNumber] at same

theorem Holds.content_eq {p : Path} {loc : Location} {f : File} (held : fs.Holds f.number content)
    (found : fs.find p = .ok (loc, .file f)) : f.content = content :=
  held f (mem_known_of_get? (get?_of_find found rfl)) rfl

/-- A file that has just been created is empty. -/
theorem holds_of_create {p : Path} {opened : FileSystem}
    (created : fs.create p = .ok (.file number, opened)) : opened.Holds number .empty := by
  obtain ⟨before, -, rfl⟩ := opens_of_create created
  exact holds_fill before number .empty

/-- Octets that are put behind what a file holds are added to it. -/
theorem Holds.overwrite {written : ByteArray} (held : fs.Holds number (.octets written))
    (octets : ByteArray) :
    (fs.overwrite (.file number) written.size octets).Holds number
      (.octets (written ++ octets)) := by
  rw [FileSystem.overwrite, file?_eq_find?_known]
  cases found : fs.known.find? (·.number = number) with
  | some f =>
    have isNumber : f.number = number := by simpa using List.find?_some found
    have content := held f (List.mem_of_find?_eq_some found) isNumber
    simpa [content, Content.data, Content.overwritten] using holds_fill fs number _
  | none =>
    -- A file that nobody knows holds anything.
    intro f member same
    rw [known_fill] at member
    obtain ⟨g, isKnown, rfl⟩ := List.mem_map.mp member
    have different : g.number ≠ number := by simpa using List.find?_eq_none.mp found g isKnown
    simp [different] at same

end ReleaseBuilder.FileSystem
