/-
# The plan of a directory

A directory is planned by the names in it that have no full stop in front, in the order of their
octets. If these are texts, the set of them is all that the plan depends on: neither the order in
which the directory lists them nor what else is in it makes a difference.
-/

import Mathlib.Data.List.Sort
import ReleaseBuilder.Proofs.Archive.Collecting

namespace ReleaseBuilder.Archive

variable {files others : FileSystem} {output dir : Path} {loc : Location} {access : Access}
  {plan : Plan}

/-- A directory has an entry of a name that has no full stop in front. -/
def Shows (files : FileSystem) (loc : Location) (name : String) : Prop :=
  (files.get? (loc ++ [Text.narrow name])).isSome ∧ name.toList.head? ≠ some '.'

instance (files : FileSystem) (loc : Location) (name : String) : Decidable (Shows files loc name) :=
  inferInstanceAs (Decidable (_ ∧ _))

/-- The entries of a directory that have no full stop in front have names that are texts. -/
def Legible (files : FileSystem) (loc : Location) : Prop :=
  ∀ entry, (files.get? (loc ++ [entry])).isSome → entry.toList.head? ≠ some '.' →
    ∃ name, entry = Text.narrow name

theorem Legible.spelled (legible : Legible files loc) : Spelled (files.namesIn loc) :=
  fun entry member visible =>
    legible entry (FileSystem.mem_namesIn.mp member) (isVisible_iff.mp visible)

theorem mem_visibleNames_namesIn (legible : Legible files loc) {name : String} :
    name ∈ visibleNames (files.namesIn loc) ↔ Shows files loc name := by
  rw [mem_visibleNames_of_spelled legible.spelled, FileSystem.mem_namesIn, isVisible_iff, Shows]

/-- The names that are planned are told by which they are. -/
theorem visibleNames_congr {entries others : List String} (different : entries.Nodup)
    (othersDifferent : others.Nodup) (spelled : Spelled entries) (othersSpelled : Spelled others)
    (same : ∀ name, name ∈ visibleNames entries ↔ name ∈ visibleNames others) :
    visibleNames entries = visibleNames others := by
  let Before (a b : String) : Prop := Text.octets a < Text.octets b
  have : Std.Irrefl Before := ⟨fun a => List.lt_irrefl _⟩
  have : Std.Antisymm Before := ⟨fun a b ab ba => absurd ab (List.lt_asymm ba)⟩
  exact List.Pairwise.eq_of_mem_iff (r := Before) (pairwise_visibleNames different spelled)
    (pairwise_visibleNames othersDifferent othersSpelled) same

/-- A plan has one member for each name that a directory shows, in the order of their octets. -/
structure Lists (files : FileSystem) (loc : Location) (output dir : Path) (plan : Plan) : Prop where
  toOutput : plan.output = output
  inDir : plan.dir = dir
  members : ∀ member, member ∈ plan.members ↔
    ∃ name, Shows files loc name ∧ member = ⟨dir.join (.ofText name), name⟩
  ascending : plan.members.Pairwise fun a b => Text.octets a.name < Text.octets b.name

theorem visibleMembers_of_spelled {entries : List String} (spelled : Spelled entries) (dir : Path) :
    visibleMembers dir entries = (visibleNames entries).map (memberIn dir) := by
  rw [visibleMembers_eq, visibleNames, List.map_map]
  refine List.map_congr_left fun entry member => ?_
  obtain ⟨there, visible⟩ := mem_visibleEntries.mp member
  obtain ⟨name, rfl⟩ := spelled entry there visible
  rw [Function.comp_apply, Text.widen_narrow, entryIn, memberIn, Path.ofText, Text.widen_narrow]

theorem lists_visibleMembers (legible : Legible files loc) (output dir : Path) :
    Lists files loc output dir ⟨output, dir, visibleMembers dir (files.namesIn loc)⟩ where
  toOutput := rfl
  inDir := rfl
  members := by
    intro member
    rw [visibleMembers_of_spelled legible.spelled]
    simp only [List.mem_map, mem_visibleNames_namesIn legible]
    exact exists_congr fun name => and_congr_right fun _ => eq_comm
  ascending := by
    rw [visibleMembers_of_spelled legible.spelled, List.pairwise_map]
    exact pairwise_visibleNames (files.nodup_namesIn loc) legible.spelled

theorem visibleMembers_namesIn_ne_nil_iff (legible : Legible files loc) :
    visibleMembers dir (files.namesIn loc) ≠ [] ↔ ∃ name, Shows files loc name := by
  rw [visibleMembers_of_spelled legible.spelled, ne_eq, List.map_eq_nil_iff]
  simp only [← mem_visibleNames_namesIn legible]
  exact ⟨List.exists_mem_of_ne_nil _, fun ⟨_, member⟩ => List.ne_nil_of_mem member⟩

theorem ofDirectory_of_shows (legible : Legible files loc)
    (found : files.find dir = .ok (loc, .directory access))
    (readable : access.allows .read = true) (shows_some : ∃ name, Shows files loc name)
    (output : Path) :
    ∃ plan, Plan.ofDirectory files output dir = .ok plan ∧ Lists files loc output dir plan := by
  rw [ofDirectory_of_find found readable,
    if_neg ((visibleMembers_namesIn_ne_nil_iff legible).mpr shows_some)]
  exact ⟨_, rfl, lists_visibleMembers legible output dir⟩

theorem ofDirectory_of_shows_none (legible : Legible files loc)
    (found : files.find dir = .ok (loc, .directory access))
    (readable : access.allows .read = true) (shows_none : ∀ name, ¬ Shows files loc name)
    (output : Path) : Plan.ofDirectory files output dir = .error (.missingArtifact dir) := by
  have none_visible : visibleMembers dir (files.namesIn loc) = [] := by
    by_contra visible
    obtain ⟨name, isShown⟩ := (visibleMembers_namesIn_ne_nil_iff legible).mp visible
    exact shows_none name isShown
  rw [ofDirectory_of_find found readable, if_pos none_visible]

theorem ofDirectory_congr {otherLoc : Location} {otherAccess : Access}
    (legible : Legible files loc) (otherLegible : Legible others otherLoc)
    (found : files.find dir = .ok (loc, .directory access))
    (readable : access.allows .read = true)
    (otherFound : others.find dir = .ok (otherLoc, .directory otherAccess))
    (otherReadable : otherAccess.allows .read = true)
    (same : ∀ name, Shows others otherLoc name ↔ Shows files loc name) (output : Path) :
    Plan.ofDirectory others output dir = Plan.ofDirectory files output dir := by
  have names : visibleNames (others.namesIn otherLoc) = visibleNames (files.namesIn loc) :=
    visibleNames_congr (others.nodup_namesIn _) (files.nodup_namesIn _) otherLegible.spelled
      legible.spelled fun name => by
        rw [mem_visibleNames_namesIn otherLegible, mem_visibleNames_namesIn legible, same]
  rw [ofDirectory_of_find found readable, ofDirectory_of_find otherFound otherReadable,
    visibleMembers_of_spelled legible.spelled, visibleMembers_of_spelled otherLegible.spelled,
    names]

/-- What is no directory is missing. A readable directory whose names are texts is planned by the
names that it shows, if there are any, and is missing otherwise. Wherever it shows the same names,
in whatever order it lists them and whatever it has besides, it is planned in the same way. -/
theorem ofDirectory_by_shown_names (files : FileSystem) (output dir : Path) :
    ((∀ loc access, files.find dir ≠ .ok (loc, .directory access)) →
      Plan.ofDirectory files output dir = .error (.missingArtifact dir)) ∧
    ∀ loc access, files.find dir = .ok (loc, .directory access) → access.allows .read = true →
      Legible files loc →
      ((∃ name, Shows files loc name) →
        ∃ plan, Plan.ofDirectory files output dir = .ok plan ∧
          Lists files loc output dir plan) ∧
      ((∀ name, ¬ Shows files loc name) →
        Plan.ofDirectory files output dir = .error (.missingArtifact dir)) ∧
      ∀ others otherLoc otherAccess,
        others.find dir = .ok (otherLoc, .directory otherAccess) →
        otherAccess.allows .read = true → Legible others otherLoc →
        (∀ name, Shows others otherLoc name ↔ Shows files loc name) →
        Plan.ofDirectory others output dir = Plan.ofDirectory files output dir := by
  refine ⟨fun missing => ofDirectory_of_not_directory missing output, ?_⟩
  intro loc access found readable legible
  refine ⟨?_, ?_, ?_⟩
  · exact fun shows_some => ofDirectory_of_shows legible found readable shows_some output
  · exact fun shows_none => ofDirectory_of_shows_none legible found readable shows_none output
  · intro others otherLoc otherAccess otherFound otherReadable otherLegible same
    exact ofDirectory_congr legible otherLegible found readable otherFound otherReadable same output

/-- The directory of `filesWithOption` in another order, with a hidden directory in it. -/
def filesInOtherOrder : FileSystem where
  nodes := [
    (["bin", "-h"], .file ⟨1, .ofText "d", ⟨0o644, .user⟩⟩),
    (["bin", ".git"], .directory ⟨0o755, .user⟩),
    (["bin", "bkc"], .file ⟨0, .ofText "c", ⟨0o755, .user⟩⟩),
    (["bin"], .directory ⟨0o755, .user⟩)]
  next := 2

theorem ofDirectory_in_other_order :
    filesInOtherOrder.namesIn ["bin"] ≠ filesWithOption.namesIn ["bin"] ∧
    ∃ plan,
      Plan.ofDirectory filesWithOption ⟨"out.tar.gz"⟩ ⟨"bin"⟩ = .ok plan ∧
      Plan.ofDirectory filesInOtherOrder ⟨"out.tar.gz"⟩ ⟨"bin"⟩ = .ok plan ∧
      Lists filesWithOption ["bin"] ⟨"out.tar.gz"⟩ ⟨"bin"⟩ plan := by
  have names : filesWithOption.namesIn ["bin"] = ["bkc", "-h"] := by decide
  have otherNames : filesInOtherOrder.namesIn ["bin"] = ["-h", ".git", "bkc"] := by decide
  have binary : Text.narrow "bkc" = "bkc" := by decide +kernel
  have option : Text.narrow "-h" = "-h" := by decide +kernel
  refine ⟨by decide, ?_⟩
  have found : filesWithOption.find ⟨"bin"⟩ = .ok (["bin"], .directory ⟨0o755, .user⟩) := rfl
  have otherFound : filesInOtherOrder.find ⟨"bin"⟩ = .ok (["bin"], .directory ⟨0o755, .user⟩) := rfl
  have legible : Legible filesWithOption ["bin"] := by
    intro entry there visible
    rw [← FileSystem.mem_namesIn, names, List.mem_pair] at there
    rcases there with rfl | rfl
    · exact ⟨_, binary.symm⟩
    · exact ⟨_, option.symm⟩
  have otherLegible : Legible filesInOtherOrder ["bin"] := by
    intro entry there visible
    rw [← FileSystem.mem_namesIn, otherNames, List.mem_cons, List.mem_pair] at there
    rcases there with rfl | rfl | rfl
    · exact ⟨_, option.symm⟩
    · exact absurd rfl visible
    · exact ⟨_, binary.symm⟩
  obtain ⟨shown, -, congruent⟩ :=
    (ofDirectory_by_shown_names filesWithOption ⟨"out.tar.gz"⟩ ⟨"bin"⟩).2 _ _ found (by decide)
      legible
  obtain ⟨plan, planned, lists⟩ := shown ⟨"bkc", by decide +kernel⟩
  refine ⟨plan, planned, ?_, lists⟩
  rw [congruent filesInOtherOrder _ _ otherFound (by decide) otherLegible ?_, planned]
  intro name
  rw [Shows, Shows, ← FileSystem.mem_namesIn, ← FileSystem.mem_namesIn, names, otherNames]
  refine and_congr_left fun visible => ?_
  have unhidden : Text.narrow name ≠ ".git" := by
    intro hidden
    have shown : name = Text.widen ".git" := by rw [← hidden, Text.widen_narrow]
    exact visible (by rw [shown]; decide +kernel)
  simp [unhidden, or_comm]

end ReleaseBuilder.Archive
