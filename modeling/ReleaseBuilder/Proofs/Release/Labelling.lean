/-
# What the file name of an archive tells

The file name of an archive is the product, the version and the platform with marks between them. A
product and a version may have any of these marks in them, but the names of systems and of hardware
have none. So the name is told apart from its back: in front of its ending the hardware stands
behind the last full stop, the system behind the one before it, and the product and the version are
what is left. Where the product ends and the version begins is not told.
-/

import ReleaseBuilder.Proofs.FileSystem.Paths
import ReleaseBuilder.Release.Run

namespace ReleaseBuilder

/-! ## Names of platforms -/

theorem OperatingSystem.name_inj {s t : OperatingSystem} (same : s.name = t.name) : s = t := by
  revert same
  cases s <;> cases t <;> decide

theorem Hardware.name_inj {h k : Hardware} (same : h.name = k.name) : h = k := by
  revert same
  cases h <;> cases k <;> decide

theorem OperatingSystem.fullStop_notMem_name (s : OperatingSystem) : '.' ∉ s.name.toList := by
  cases s <;> decide

theorem Hardware.fullStop_notMem_name (h : Hardware) : '.' ∉ h.name.toList := by
  cases h <;> decide

/-- A platform at the back of a text is told by the text, and so is what stands in front of it. -/
theorem Platform.append_name_inj {front front' : String} {p p' : Platform} :
    front ++ "." ++ p.name = front' ++ "." ++ p'.name ↔ p = p' ∧ front = front' := by
  constructor
  · intro same
    have marked (front : String) (p : Platform) : (front ++ "." ++ p.name).toList =
        (front.toList ++ '.' :: p.system.name.toList) ++ '.' :: p.hardware.name.toList := by
      simp [name]
    have texts := congrArg String.toList same
    rw [marked, marked] at texts
    obtain ⟨rest, hardware⟩ := Text.eq_of_last_mark p.hardware.fullStop_notMem_name
      p'.hardware.fullStop_notMem_name texts
    obtain ⟨fronts, system⟩ := Text.eq_of_last_mark p.system.fullStop_notMem_name
      p'.system.fullStop_notMem_name rest
    obtain ⟨s, h⟩ := p
    obtain ⟨s', h'⟩ := p'
    obtain rfl : s = s' := OperatingSystem.name_inj (String.toList_inj.mp system)
    obtain rfl : h = h' := Hardware.name_inj (String.toList_inj.mp hardware)
    exact ⟨rfl, String.toList_inj.mp fronts⟩
  · rintro ⟨rfl, rfl⟩
    rfl

/-! ## File names of archives -/

namespace Archive

variable {product product' version version' : String} {platform platform' : Platform}

/-- The file name tells the platform, and the product and the version as one text. -/
theorem fileName_eq_iff :
    fileName product version platform = fileName product' version' platform' ↔
      platform = platform' ∧ product ++ "-" ++ version = product' ++ "-" ++ version' := by
  rw [fileName, fileName, String.append_left_inj, Platform.append_name_inj]

/-- The file name starts as the product does. -/
theorem isAbsolute_fileName (product version : String) (platform : Platform) :
    (Path.mk (fileName product version platform)).isAbsolute = (Path.mk product).isAbsolute := by
  cases first : product.toList <;> simp [Path.isAbsolute, fileName, first]

/-- Two archives share a file name exactly if they are for the same platform and product and
version, with a dash between them, are the same text. So for one product they share it only if both
the version and the platform are the same, and the archives of one release go to the same path only
then. -/
theorem fileName_tells_apart (product version product' version' : String)
    (platform platform' : Platform) :
    (fileName product version platform = fileName product' version' platform' ↔
      platform = platform' ∧ product ++ "-" ++ version = product' ++ "-" ++ version') ∧
    (fileName product version platform = fileName product version' platform' ↔
      version = version' ∧ platform = platform') ∧
    ∀ r : Release, r.archivePath platform version = r.archivePath platform' version' ↔
      version = version' ∧ platform = platform' := by
  have ofProduct (product : String) :
      fileName product version platform = fileName product version' platform' ↔
        version = version' ∧ platform = platform' := by
    rw [fileName_eq_iff, String.append_right_inj, and_comm]
  refine ⟨fileName_eq_iff, ofProduct product, fun r => ?_⟩
  -- Either both file names are absolute or neither is, because the product is the same.
  have alike : (Path.ofText (fileName r.settings.product version platform)).isAbsolute =
      (Path.ofText (fileName r.settings.product version' platform')).isAbsolute := by
    rw [Path.isAbsolute_ofText, Path.isAbsolute_ofText, isAbsolute_fileName, isAbsolute_fileName]
  rw [Release.archivePath, Release.archivePath, Path.join_inj alike, Path.ofText_inj]
  exact ofProduct r.settings.product

/-- Where the product ends is not told. -/
example : fileName "bkc-2" "1.0" ⟨.linux, .x64⟩ = fileName "bkc" "2-1.0" ⟨.linux, .x64⟩ := by
  decide

end Archive

end ReleaseBuilder
