/-
# The visible entries of a directory

A directory is planned by its visible entries, in the order of what their names show as. A name that
is a text shows as that text, so different ones show differently and the order is strict. Any other
name shows as a text that is not spelled as the name is, and may share it with another one.
-/

import ReleaseBuilder.Archive.Plan
import ReleaseBuilder.Proofs.FileSystem.Paths
import ReleaseBuilder.Proofs.Text.Order

namespace ReleaseBuilder.Archive

variable {entries : List String}

/-- A name with a full stop in front is hidden, and it shows as one that is. -/
theorem isVisible_widen (entry : String) : isVisible (Text.widen entry) = isVisible entry := by
  rw [isVisible, isVisible, Bool.eq_iff_iff, bne_iff_ne, bne_iff_ne, ne_eq, ne_eq,
    Text.head?_widen (by decide)]

theorem isVisible_iff {entry : String} : isVisible entry ↔ entry.toList.head? ≠ some '.' := by
  rw [isVisible, bne_iff_ne]

theorem isVisible_narrow (name : String) : isVisible (Text.narrow name) = isVisible name := by
  rw [← isVisible_widen, Text.widen_narrow]

/-- The visible entries of a directory in the order in which they are planned. -/
def visibleEntries (entries : List String) : List String :=
  (entries.filter isVisible).mergeSort fun a b => decide (Text.widen a ≤ Text.widen b)

/-- What the visible entries show as, in order. -/
def visibleNames (entries : List String) : List String :=
  (visibleEntries entries).map Text.widen

theorem visibleMembers_eq (dir : Path) (entries : List String) :
    visibleMembers dir entries = (visibleEntries entries).map (entryIn dir) := by
  have visible : (fun member : Member => isVisible member.name) ∘ entryIn dir = isVisible :=
    funext isVisible_widen
  rw [visibleMembers, List.filter_map, visible, visibleEntries]
  refine Eq.symm (List.map_mergeSort ?_)
  exact fun _ _ _ _ => rfl

@[simp] theorem names_visibleMembers (output dir : Path) (entries : List String) :
    Plan.names ⟨output, dir, visibleMembers dir entries⟩ = visibleNames entries := by
  rw [Plan.names, visibleMembers_eq, List.map_map, visibleNames]
  rfl

/-! ## Which they are -/

@[simp] theorem mem_visibleEntries {entry : String} :
    entry ∈ visibleEntries entries ↔ entry ∈ entries ∧ isVisible entry := by
  rw [visibleEntries, (List.mergeSort_perm _ _).mem_iff, List.mem_filter]

theorem nodup_visibleEntries (different : entries.Nodup) : (visibleEntries entries).Nodup :=
  (List.mergeSort_perm _ _).nodup_iff.mpr (different.sublist List.filter_sublist)

theorem mem_visibleNames {name : String} :
    name ∈ visibleNames entries ↔ ∃ entry ∈ entries, isVisible entry ∧ Text.widen entry = name := by
  simp only [visibleNames, List.mem_map, mem_visibleEntries, and_assoc]

theorem visibleMembers_ne_nil_iff {dir : Path} :
    visibleMembers dir entries ≠ [] ↔ ∃ entry ∈ entries, isVisible entry := by
  rw [visibleMembers_eq, ne_eq, List.map_eq_nil_iff]
  simp only [← mem_visibleEntries]
  exact ⟨List.exists_mem_of_ne_nil _, fun ⟨_, member⟩ => List.ne_nil_of_mem member⟩

/-! ## In which order they stand -/

theorem octets_lt_of_le_of_ne {a b : String} (le : a ≤ b) (ne : a ≠ b) :
    Text.octets a < Text.octets b :=
  Text.octets_lt_of_lt (String.not_le.mp fun ge => ne (String.le_antisymm le ge))

theorem sorted_visibleNames (entries : List String) :
    (visibleNames entries).Pairwise fun a b => a ≤ b := by
  have transitive : ∀ a b c : String, decide (Text.widen a ≤ Text.widen b) = true →
      decide (Text.widen b ≤ Text.widen c) = true →
      decide (Text.widen a ≤ Text.widen c) = true := fun a b c ab bc =>
    decide_eq_true (String.le_trans (of_decide_eq_true ab) (of_decide_eq_true bc))
  have total : ∀ a b : String, (decide (Text.widen a ≤ Text.widen b) ||
      decide (Text.widen b ≤ Text.widen a)) = true := fun a b => by
    rw [Bool.or_eq_true, decide_eq_true_iff, decide_eq_true_iff]
    exact String.le_total _ _
  rw [visibleNames, List.pairwise_map]
  exact (List.pairwise_mergeSort transitive total _).imp of_decide_eq_true

theorem ascending_visibleNames (entries : List String) :
    (visibleNames entries).Pairwise fun a b => Text.octets a ≤ Text.octets b := by
  refine (sorted_visibleNames entries).imp fun {a b} le => ?_
  by_cases same : a = b
  · rw [same]
    exact List.le_refl _
  · exact List.le_of_lt (octets_lt_of_le_of_ne le same)

/-! ## Names that are texts -/

/-- Every visible entry has a name that is a text. -/
def Spelled (entries : List String) : Prop :=
  ∀ entry ∈ entries, isVisible entry → ∃ name, entry = Text.narrow name

/-- A name is a text exactly if what it shows as is spelled as the name is. -/
theorem narrow_widen_iff {entry : String} :
    Text.narrow (Text.widen entry) = entry ↔ ∃ name, entry = Text.narrow name := by
  constructor
  · exact fun same => ⟨_, same.symm⟩
  · rintro ⟨name, rfl⟩
    rw [Text.widen_narrow]

theorem map_narrow_visibleNames_iff :
    (visibleNames entries).map Text.narrow = visibleEntries entries ↔ Spelled entries := by
  conv => lhs; rhs; rw [← List.map_id (visibleEntries entries)]
  rw [visibleNames, List.map_map, List.map_inj_left, Spelled]
  simp only [mem_visibleEntries, Function.comp_def, id_eq, narrow_widen_iff, and_imp]

theorem mem_visibleNames_of_spelled (spelled : Spelled entries) {name : String} :
    name ∈ visibleNames entries ↔ Text.narrow name ∈ entries ∧ isVisible name := by
  rw [mem_visibleNames]
  constructor
  · rintro ⟨entry, member, visible, rfl⟩
    obtain ⟨name, rfl⟩ := spelled entry member visible
    rw [isVisible_widen, Text.widen_narrow]
    exact ⟨member, visible⟩
  · rintro ⟨member, visible⟩
    exact ⟨_, member, (isVisible_narrow name).trans visible, Text.widen_narrow name⟩

/-- Different names that are texts show differently. -/
theorem pairwise_visibleNames (different : entries.Nodup) (spelled : Spelled entries) :
    (visibleNames entries).Pairwise fun a b => Text.octets a < Text.octets b := by
  have distinct : (visibleNames entries).Nodup := by
    have spelledApart : ((visibleNames entries).map Text.narrow).Nodup := by
      rw [map_narrow_visibleNames_iff.mpr spelled]
      exact nodup_visibleEntries different
    exact (List.pairwise_map.mp spelledApart).imp fun apart same => apart (congrArg _ same)
  exact ((sorted_visibleNames entries).and distinct).imp fun ⟨le, ne⟩ =>
    octets_lt_of_le_of_ne le ne

end ReleaseBuilder.Archive
