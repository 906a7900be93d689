/-
# Texts and their octets

A text is shown again as it is once it has been spelled octet by octet, so texts that are spelled
alike are the same. An ASCII character spells itself and stands nowhere else in a spelling, which is
why a path can be cut at its separators before it is spelled or behind it.
-/

import ReleaseBuilder.Proofs.Text.Parts
import ReleaseBuilder.Proofs.Text.Utf8
import ReleaseBuilder.Text.Narrow

namespace ReleaseBuilder.Text

theorem toNat_ofOctet (octet : UInt8) : (ofOctet octet).toNat = octet.toNat := by
  have small := octet.toNat_lt
  exact toNat_ofNat_of_valid (.inl (by omega))

theorem octetOf_ofOctet (octet : UInt8) : octetOf (ofOctet octet) = octet := by
  have small := octet.toNat_lt
  rw [octetOf, toNat_ofOctet, if_pos (by omega), UInt8.ofNat_toNat]

/-- An ASCII character stands for the octet of its number, and no other does. -/
theorem toNat_octetOf_le {c : Char} (ascii : (octetOf c).toNat ≤ 0x7F) :
    c.toNat = (octetOf c).toNat := by
  unfold octetOf at ascii ⊢
  split at ascii
  · next small =>
    rw [if_pos small, UInt8.toNat_ofNat']
    omega
  · exact absurd ascii (by decide)

/-- How characters are spelled, a character for each octet. -/
def spelling (cs : List Char) : List Char :=
  (cs.flatMap String.utf8EncodeChar).map ofOctet

theorem toList_narrow (s : String) : (narrow s).toList = spelling s.toList := by
  rw [narrow, String.toList_ofList, spelling]

theorem narrow_ofList (cs : List Char) :
    narrow (String.ofList cs) = String.ofList (spelling cs) := by
  rw [narrow, String.toList_ofList, spelling]

/-- What is spelled as a text shows as the text. -/
@[simp] theorem widen_narrow (s : String) : widen (narrow s) = s := by
  have spelled : (narrow s).toList.map octetOf = s.toList.flatMap String.utf8EncodeChar := by
    rw [toList_narrow, spelling, List.map_map]
    exact (List.map_congr_left fun octet _ => octetOf_ofOctet octet).trans (List.map_id _)
  rw [widen, spelled, readings_flatMap, List.map_map]
  exact (congrArg String.ofList (List.map_id _)).trans String.ofList_toList

@[simp] theorem narrow_inj {s t : String} : narrow s = narrow t ↔ s = t := by
  refine ⟨fun same => ?_, congrArg narrow⟩
  rw [← widen_narrow s, same, widen_narrow]

theorem narrow_dot : narrow "." = "." := by decide +kernel

/-- A narrow text begins with an ASCII character exactly if it shows as one that does. -/
theorem head?_widen {mark : Char} (ascii : mark.toNat ≤ 0x7F) (s : String) :
    (widen s).toList.head? = some mark ↔ s.toList.head? = some mark := by
  rw [widen, String.toList_ofList, List.head?_map]
  cases s.toList with
  | nil => exact Iff.rfl
  | cons c cs =>
    have first := head?_readings ascii (octetOf c) (cs.map octetOf)
    rw [List.map_cons, List.head?_cons, Option.some.injEq, Option.map_eq_some_iff]
    constructor
    · rintro ⟨reading, isFirst, shown⟩
      cases reading with
      | none =>
        have gap : '\uFFFD' = mark := shown
        exact absurd ascii (by rw [← gap]; decide)
      | some d =>
        obtain rfl : d = mark := shown
        have value := first.mp isFirst
        exact Char.toNat_inj.mp ((toNat_octetOf_le (by omega)).trans value)
    · rintro rfl
      have value : (octetOf c).toNat = c.toNat := by
        rw [octetOf, if_pos (by omega), UInt8.toNat_ofNat']
        omega
      exact ⟨_, first.mpr value, rfl⟩

/-! ## ASCII characters in a spelling -/

section Ascii

variable {mark : Char}

theorem spelling_append (cs ds : List Char) : spelling (cs ++ ds) = spelling cs ++ spelling ds := by
  rw [spelling, List.flatMap_append, List.map_append, spelling, spelling]

theorem spelling_cons (c : Char) (cs : List Char) :
    spelling (c :: cs) = spelling [c] ++ spelling cs :=
  spelling_append [c] cs

theorem spelling_ascii (ascii : mark.toNat ≤ 0x7F) : spelling [mark] = [mark] := by
  have alone : String.utf8EncodeChar mark = [UInt8.ofNat mark.toNat] := if_pos ascii
  have same : ofOctet (UInt8.ofNat mark.toNat) = mark := by
    rw [ofOctet, UInt8.toNat_ofNat', Nat.mod_eq_of_lt (by omega), Char.ofNat_toNat]
  rw [spelling, List.flatMap_singleton, alone, List.map_singleton, same]

/-- A character that is not ASCII has no ASCII character in its spelling. -/
theorem lt_toNat_of_mem_spelling {c d : Char} (wide : 0x7F < c.toNat) (member : d ∈ spelling [c]) :
    0x7F < d.toNat := by
  rw [spelling, List.flatMap_singleton, List.mem_map] at member
  obtain ⟨octet, member, rfl⟩ := member
  rw [toNat_ofOctet]
  have notAlone : ¬ c.val.toNat ≤ 127 := Nat.not_le.mpr wide
  simp only [String.utf8EncodeChar, if_neg notAlone] at member
  split at member
  · simp only [List.mem_cons, List.not_mem_nil, or_false] at member
    rcases member with rfl | rfl <;> rw [UInt8.toNat_ofNat'] <;> omega
  · split at member
    · simp only [List.mem_cons, List.not_mem_nil, or_false] at member
      rcases member with rfl | rfl | rfl <;> rw [UInt8.toNat_ofNat'] <;> omega
    · simp only [List.mem_cons, List.not_mem_nil, or_false] at member
      rcases member with rfl | rfl | rfl | rfl <;> rw [UInt8.toNat_ofNat'] <;> omega

theorem mem_spelling_singleton (ascii : mark.toNat ≤ 0x7F) (c : Char) :
    mark ∈ spelling [c] ↔ mark = c := by
  by_cases wide : 0x7F < c.toNat
  · constructor
    · intro member
      exact absurd (lt_toNat_of_mem_spelling wide member) (Nat.not_lt.mpr ascii)
    · rintro rfl
      exact absurd wide (Nat.not_lt.mpr ascii)
  · rw [spelling_ascii (Nat.not_lt.mp wide), List.mem_singleton]

theorem mem_spelling (ascii : mark.toNat ≤ 0x7F) (cs : List Char) :
    mark ∈ spelling cs ↔ mark ∈ cs := by
  induction cs with
  | nil => exact Iff.rfl
  | cons c cs ih =>
    rw [spelling_cons, List.mem_append, mem_spelling_singleton ascii, ih, List.mem_cons]

theorem head?_spelling (ascii : mark.toNat ≤ 0x7F) (cs : List Char) :
    (spelling cs).head? = some mark ↔ cs.head? = some mark := by
  cases cs with
  | nil => exact Iff.rfl
  | cons c cs =>
    obtain ⟨first, others, spelled⟩ : ∃ first others, spelling [c] = first :: others := by
      refine List.exists_cons_of_ne_nil ?_
      simp [spelling, String.utf8EncodeChar_ne_nil]
    have alone : first = mark ↔ c = mark := by
      by_cases wide : 0x7F < c.toNat
      · have wideToo : 0x7F < first.toNat :=
          lt_toNat_of_mem_spelling wide (by rw [spelled]; exact List.mem_cons_self)
        constructor
        · rintro rfl
          exact absurd wideToo (Nat.not_lt.mpr ascii)
        · rintro rfl
          exact absurd wide (Nat.not_lt.mpr ascii)
      · rw [spelling_ascii (Nat.not_lt.mp wide)] at spelled
        obtain ⟨rfl, -⟩ := List.cons.inj spelled
        exact Iff.rfl
    rw [spelling_cons, spelled, List.cons_append, List.head?_cons, List.head?_cons,
      Option.some.injEq, Option.some.injEq, alone]

theorem spelling_intercalate (ascii : mark.toNat ≤ 0x7F) (parts : List (List Char)) :
    spelling ([mark].intercalate parts) = [mark].intercalate (parts.map spelling) := by
  induction parts with
  | nil => rfl
  | cons part parts ih =>
    by_cases last : parts = []
    · subst last
      rw [List.intercalate_singleton, List.map_singleton, List.intercalate_singleton]
    · rw [List.intercalate_cons_of_ne_nil last, List.map_cons,
        List.intercalate_cons_of_ne_nil (by simpa using last), spelling_append, spelling_append,
        spelling_ascii ascii, ih]

/-- A text can be cut at an ASCII character before it is spelled or behind it. -/
theorem splitOn_spelling (ascii : mark.toNat ≤ 0x7F) (cs : List Char) :
    (spelling cs).splitOn mark = (cs.splitOn mark).map spelling := by
  have whole : [mark].intercalate (cs.splitOn mark) = cs := List.intercalate_splitOn mark
  conv => lhs; rw [← whole]
  rw [spelling_intercalate ascii]
  refine List.splitOn_intercalate mark ?_ ?_
  · intro part member
    obtain ⟨plain, there, rfl⟩ := List.mem_map.mp member
    rw [mem_spelling ascii]
    exact not_mem_of_mem_splitOn there
  · simp

end Ascii

end ReleaseBuilder.Text
