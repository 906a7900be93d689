/-
# What writing an archive leaves

An archive that is written directly is there if it was written, and if it could not be written
nothing is there that was not there before: neither when the file could not be opened, nor when
a member could not be packed. Nothing but what its path denotes is changed in either case.
-/

import ReleaseBuilder.Archive.Packing
import ReleaseBuilder.Proofs.FileSystem.Denoting

namespace ReleaseBuilder.Archive.Plan

open FileSystem

variable {files : FileSystem} {plan : Plan}

/-- What writing a plan comes to, once the file of the archive could be opened. -/
theorem write_of_openOutput {outlet : Outlet} {opened : FileSystem}
    (h : files.openOutput plan.output Access.fileMode = .ok (outlet, opened)) :
    ∃ entries failed, plan.write files =
      match failed with
      | none => (.ok (), opened.pour outlet (.tarball entries))
      | some failure =>
        (.error failure, ((opened.pour outlet (.tarball entries)).remove plan.output).toOption.getD
          (opened.pour outlet (.tarball entries))) := by
  rw [write, create, h]
  dsimp only
  generalize gather _ _ _ plan.members = gathered
  rw [pour_pour]
  exact ⟨gathered.1, gathered.2, rfl⟩

/-- A plan that could not be written leaves nothing where nothing was. -/
theorem absent_of_write {failure : Failure} (failed : (plan.write files).1 = .error failure)
    (absent : files.Absent plan.output) : (plan.write files).2.Absent plan.output := by
  cases opening : files.openOutput plan.output Access.fileMode with
  | error fault =>
    have unopened : plan.write files = (.error (.io fault), files) := by
      rw [write, create, opening]
    rw [unopened]
    exact absent
  | ok pair =>
    obtain ⟨outlet, opened⟩ := pair
    obtain ⟨entries, unpacked, written⟩ := write_of_openOutput opening
    rw [written] at failed ⊢
    cases unpacked with
    | none => cases failed
    | some failure =>
      obtain ⟨cleared, removed, gone⟩ :=
        absent_of_remove_openOutput opening absent (.tarball entries)
      dsimp only
      rw [removed]
      exact gone

/-- A plan that was written is there. -/
theorem not_absent_of_write (done : (plan.write files).1 = .ok ()) :
    ¬ (plan.write files).2.Absent plan.output := by
  cases opening : files.openOutput plan.output Access.fileMode with
  | error fault =>
    rw [write, create, opening] at done
    cases done
  | ok pair =>
    obtain ⟨outlet, opened⟩ := pair
    obtain ⟨entries, unpacked, written⟩ := write_of_openOutput opening
    rw [written] at done ⊢
    cases unpacked with
    | none => exact not_absent_of_openOutput opening (.tarball entries)
    | some failure => cases done

/-- Writing the archive of a plan, and taking it away again if a member cannot be packed, changes
nothing but what the path of the archive denotes. -/
theorem sameBesides_write (files : FileSystem) (plan : Plan) :
    files.SameBesides plan.output (plan.write files).2 := by
  cases opening : files.openOutput plan.output Access.fileMode with
  | error fault =>
    rw [write, create, opening]
    exact .refl files plan.output
  | ok pair =>
    obtain ⟨outlet, opened⟩ := pair
    obtain ⟨entries, unpacked, written⟩ := write_of_openOutput opening
    have poured := sameBesides_pour opening (.tarball entries)
    rw [written]
    cases unpacked with
    | none => exact poured
    | some failure =>
      dsimp only
      cases removed : (opened.pour outlet (.tarball entries)).remove plan.output with
      | error fault => exact poured
      | ok cleared => exact sameBesides_remove opening removed

end ReleaseBuilder.Archive.Plan
