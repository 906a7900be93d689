/-
# Reading octets as a text

A sequence of octets reads as a text exactly if it is what that text is spelled with. The reading
goes octet by octet, and what it knows of a character that is still open is which octets may follow
and which number they would give.
-/

import ReleaseBuilder.Proofs.Text.Order

namespace ReleaseBuilder.Text

/-! ## One character -/

/-- These octets complete an open character, which then has this number. -/
inductive Completes : OpenChar → List UInt8 → Nat → Prop
  | last {least greatest bits : Nat} {octet : UInt8} (low : least ≤ octet.toNat)
      (high : octet.toNat ≤ greatest) :
      Completes ⟨1, least, greatest, bits⟩ [octet] (bits * 64 + (octet.toNat - 0x80))
  | more {owed least greatest bits number : Nat} {octet : UInt8} {octets : List UInt8}
      (low : least ≤ octet.toNat) (high : octet.toNat ≤ greatest)
      (goesOn : Completes ⟨owed + 1, 0x80, 0xBF, bits * 64 + (octet.toNat - 0x80)⟩ octets number) :
      Completes ⟨owed + 2, least, greatest, bits⟩ (octet :: octets) number

theorem foldl_step_of_completes {state : OpenChar} {octets : List UInt8} {number : Nat}
    (h : Completes state octets number) (seen : List (Option Char)) :
    octets.foldl Reading.step ⟨seen, some state⟩ = ⟨some (Char.ofNat number) :: seen, none⟩ := by
  induction h with
  | last low high => simp [Reading.step, low, high]
  | more low high goesOn ih => simpa [Reading.step, low, high] using ih

/-! ## First octets -/

theorem ofOctet_of_two {b : Nat} (low : 0xC2 ≤ b) (high : b ≤ 0xDF) :
    Lead.ofOctet b = .opening ⟨1, 0x80, 0xBF, b - 0xC0⟩ := by
  rw [Lead.ofOctet, if_neg (by omega), if_neg (by omega), if_pos high]

theorem ofOctet_of_three {b : Nat} (low : 0xE0 ≤ b) (high : b ≤ 0xEF) :
    Lead.ofOctet b = .opening
      ⟨2, if b = 0xE0 then 0xA0 else 0x80, if b = 0xED then 0x9F else 0xBF, b - 0xE0⟩ := by
  rw [Lead.ofOctet, if_neg (by omega), if_neg (by omega), if_neg (by omega)]
  by_cases first : b = 0xE0
  · subst first
    rfl
  · by_cases surrogate : b = 0xED
    · subst surrogate
      rfl
    · rw [if_neg first, if_neg surrogate, if_pos high, if_neg first, if_neg surrogate]

theorem ofOctet_of_four {b : Nat} (low : 0xF0 ≤ b) (high : b ≤ 0xF4) :
    Lead.ofOctet b = .opening
      ⟨3, if b = 0xF0 then 0x90 else 0x80, if b = 0xF4 then 0x8F else 0xBF, b - 0xF0⟩ := by
  obtain rfl | rfl | rfl | rfl | rfl : b = 0xF0 ∨ b = 0xF1 ∨ b = 0xF2 ∨ b = 0xF3 ∨ b = 0xF4 := by
    omega
  all_goals rfl

/-- An octet that opens a character is one of these. -/
theorem bounds_of_opening {b : Nat} {state : OpenChar} (h : Lead.ofOctet b = .opening state) :
    0xC2 ≤ b ∧ b ≤ 0xDF ∨ 0xE0 ≤ b ∧ b ≤ 0xEF ∨ 0xF0 ≤ b ∧ b ≤ 0xF4 := by
  simp only [Lead.ofOctet] at h
  repeat' split at h
  all_goals first | cases h; omega | cases h

theorem one_le_owed {b : Nat} {state : OpenChar} (h : Lead.ofOctet b = .opening state) :
    1 ≤ state.owed := by
  rcases bounds_of_opening h with ⟨low, high⟩ | ⟨low, high⟩ | ⟨low, high⟩
  · rw [ofOctet_of_two low high] at h
    cases h
    exact (by decide : 1 ≤ 1)
  · rw [ofOctet_of_three low high] at h
    cases h
    exact (by decide : 1 ≤ 2)
  · rw [ofOctet_of_four low high] at h
    cases h
    exact (by decide : 1 ≤ 3)

/-! ## Numbers and octets -/

theorem toNat_ofNat_of_valid {n : Nat} (h : n.isValidChar) : (Char.ofNat n).val.toNat = n := by
  rw [Char.ofNat, dif_pos h]
  rfl

theorem utf8EncodeChar_of_two {a b : UInt8} {n : Nat}
    (number : n = (a.toNat - 0xC0) * 64 + (b.toNat - 0x80)) (lowA : 0xC2 ≤ a.toNat)
    (highA : a.toNat ≤ 0xDF) (lowB : 0x80 ≤ b.toNat) (highB : b.toNat ≤ 0xBF) :
    String.utf8EncodeChar (Char.ofNat n) = [a, b] := by
  have value := toNat_ofNat_of_valid (n := n) (.inl (by omega))
  simp only [String.utf8EncodeChar, value]
  rw [if_neg (by omega), if_pos (by omega)]
  simp only [List.cons.injEq, and_true, ← UInt8.toNat_inj, UInt8.toNat_ofNat']
  omega

theorem utf8EncodeChar_of_three {a b c : UInt8} {n : Nat}
    (number : n = ((a.toNat - 0xE0) * 64 + (b.toNat - 0x80)) * 64 + (c.toNat - 0x80))
    (lowA : 0xE0 ≤ a.toNat) (highA : a.toNat ≤ 0xEF)
    (lowB : 0x80 ≤ b.toNat) (highB : b.toNat ≤ 0xBF)
    (long : a.toNat = 0xE0 → 0xA0 ≤ b.toNat) (scalar : a.toNat = 0xED → b.toNat ≤ 0x9F)
    (lowC : 0x80 ≤ c.toNat) (highC : c.toNat ≤ 0xBF) :
    String.utf8EncodeChar (Char.ofNat n) = [a, b, c] := by
  have valid : n.isValidChar := by
    unfold Nat.isValidChar
    omega
  have value := toNat_ofNat_of_valid valid
  simp only [String.utf8EncodeChar, value]
  rw [if_neg (by omega), if_neg (by omega), if_pos (by omega)]
  simp only [List.cons.injEq, and_true, ← UInt8.toNat_inj, UInt8.toNat_ofNat']
  omega

theorem utf8EncodeChar_of_four {a b c d : UInt8} {n : Nat}
    (number : n = (((a.toNat - 0xF0) * 64 + (b.toNat - 0x80)) * 64 + (c.toNat - 0x80)) * 64 +
      (d.toNat - 0x80))
    (lowA : 0xF0 ≤ a.toNat) (highA : a.toNat ≤ 0xF4)
    (lowB : 0x80 ≤ b.toNat) (highB : b.toNat ≤ 0xBF)
    (long : a.toNat = 0xF0 → 0x90 ≤ b.toNat) (small : a.toNat = 0xF4 → b.toNat ≤ 0x8F)
    (lowC : 0x80 ≤ c.toNat) (highC : c.toNat ≤ 0xBF)
    (lowD : 0x80 ≤ d.toNat) (highD : d.toNat ≤ 0xBF) :
    String.utf8EncodeChar (Char.ofNat n) = [a, b, c, d] := by
  have valid : n.isValidChar := by
    unfold Nat.isValidChar
    omega
  have value := toNat_ofNat_of_valid valid
  simp only [String.utf8EncodeChar, value]
  rw [if_neg (by omega), if_neg (by omega), if_neg (by omega)]
  simp only [List.cons.injEq, and_true, ← UInt8.toNat_inj, UInt8.toNat_ofNat']
  omega

theorem ite_le_iff {p : Prop} [Decidable p] {low least n : Nat} (le : low ≤ least) :
    (if p then least else low) ≤ n ↔ low ≤ n ∧ (p → least ≤ n) := by
  by_cases h : p <;> simp [h]
  omega

theorem le_ite_iff {p : Prop} [Decidable p] {high most n : Nat} (le : most ≤ high) :
    n ≤ (if p then most else high) ↔ n ≤ high ∧ (p → n ≤ most) := by
  by_cases h : p <;> simp [h]
  omega

/-- Octets that complete an open character spell the character of their number. -/
theorem utf8EncodeChar_of_completes {first : UInt8} {others : List UInt8} {state : OpenChar}
    {number : Nat} (opened : Lead.ofOctet first.toNat = .opening state)
    (h : Completes state others number) :
    String.utf8EncodeChar (Char.ofNat number) = first :: others := by
  rcases bounds_of_opening opened with ⟨low, high⟩ | ⟨low, high⟩ | ⟨low, high⟩
  · rw [ofOctet_of_two low high] at opened
    cases opened
    cases h with
    | last lowB highB => exact utf8EncodeChar_of_two rfl low high lowB highB
  · rw [ofOctet_of_three low high] at opened
    cases opened
    cases h with
    | more lowB highB h =>
      rw [ite_le_iff (by decide)] at lowB
      rw [le_ite_iff (by decide)] at highB
      cases h with
      | last lowC highC =>
        exact utf8EncodeChar_of_three rfl low high lowB.1 highB.1 lowB.2 highB.2 lowC highC
  · rw [ofOctet_of_four low high] at opened
    cases opened
    cases h with
    | more lowB highB h =>
      rw [ite_le_iff (by decide)] at lowB
      rw [le_ite_iff (by decide)] at highB
      cases h with
      | more lowC highC h =>
        cases h with
        | last lowD highD =>
          exact utf8EncodeChar_of_four rfl low high lowB.1 highB.1 lowB.2 highB.2 lowC highC
            lowD highD

theorem exists_octet {n : Nat} (small : n < 256) : ∃ octet : UInt8, octet.toNat = n :=
  ⟨UInt8.ofNat n, by rw [UInt8.toNat_ofNat']; omega⟩

/-- Every character that is not spelled by itself is opened by some octet and completed by
others. -/
theorem exists_completes {n : Nat} (valid : n.isValidChar) (long : 0x7F < n) :
    ∃ (first : UInt8) (others : List UInt8) (state : OpenChar),
      Lead.ofOctet first.toNat = .opening state ∧ Completes state others n := by
  unfold Nat.isValidChar at valid
  rcases (by omega : n ≤ 0x7FF ∨ 0x7FF < n ∧ n ≤ 0xFFFF ∨ 0xFFFF < n) with two | three | four
  · obtain ⟨a, valueA⟩ := exists_octet (show n / 64 + 0xC0 < 256 by omega)
    obtain ⟨b, valueB⟩ := exists_octet (show n % 64 + 0x80 < 256 by omega)
    have number : (a.toNat - 0xC0) * 64 + (b.toNat - 0x80) = n := by omega
    rw [← number]
    exact ⟨a, [b], _, ofOctet_of_two (by omega) (by omega), .last (by omega) (by omega)⟩
  · obtain ⟨a, valueA⟩ := exists_octet (show n / 4096 + 0xE0 < 256 by omega)
    obtain ⟨b, valueB⟩ := exists_octet (show n / 64 % 64 + 0x80 < 256 by omega)
    obtain ⟨c, valueC⟩ := exists_octet (show n % 64 + 0x80 < 256 by omega)
    have number : ((a.toNat - 0xE0) * 64 + (b.toNat - 0x80)) * 64 + (c.toNat - 0x80) = n := by
      omega
    rw [← number]
    refine ⟨a, [b, c], _, ofOctet_of_three (by omega) (by omega), .more ?_ ?_ ?_⟩
    · exact (ite_le_iff (by decide)).mpr ⟨by omega, by omega⟩
    · exact (le_ite_iff (by decide)).mpr ⟨by omega, by omega⟩
    · exact .last (by omega) (by omega)
  · obtain ⟨a, valueA⟩ := exists_octet (show n / 262144 + 0xF0 < 256 by omega)
    obtain ⟨b, valueB⟩ := exists_octet (show n / 4096 % 64 + 0x80 < 256 by omega)
    obtain ⟨c, valueC⟩ := exists_octet (show n / 64 % 64 + 0x80 < 256 by omega)
    obtain ⟨d, valueD⟩ := exists_octet (show n % 64 + 0x80 < 256 by omega)
    have number : (((a.toNat - 0xF0) * 64 + (b.toNat - 0x80)) * 64 + (c.toNat - 0x80)) * 64 +
        (d.toNat - 0x80) = n := by
      omega
    rw [← number]
    refine ⟨a, [b, c, d], _, ofOctet_of_four (by omega) (by omega), .more ?_ ?_ (.more ?_ ?_ ?_)⟩
    · exact (ite_le_iff (by decide)).mpr ⟨by omega, by omega⟩
    · exact (le_ite_iff (by decide)).mpr ⟨by omega, by omega⟩
    · omega
    · omega
    · exact .last (by omega) (by omega)

/-! ## Whole texts -/

theorem whole_iff {b : Nat} {c : Char} :
    Lead.ofOctet b = .whole c ↔ b ≤ 0x7F ∧ c = Char.ofNat b := by
  constructor
  · intro h
    simp only [Lead.ofOctet] at h
    split at h
    · next small =>
      cases h
      exact ⟨small, rfl⟩
    · repeat' split at h
      all_goals cases h
  · rintro ⟨small, rfl⟩
    exact if_pos small

section Steps

variable {octet : UInt8} {octets : List UInt8} {state : OpenChar} {c : Char}
  {seen : List (Option Char)}

theorem step_of_whole (h : Lead.ofOctet octet.toNat = .whole c) :
    Reading.step ⟨seen, none⟩ octet = ⟨some c :: seen, none⟩ := by
  simp only [Reading.step, Reading.start, h]

theorem step_of_opening (h : Lead.ofOctet octet.toNat = .opening state) :
    Reading.step ⟨seen, none⟩ octet = ⟨seen, some state⟩ := by
  simp only [Reading.step, Reading.start, h]

theorem step_of_never (h : Lead.ofOctet octet.toNat = .never) :
    Reading.step ⟨seen, none⟩ octet = ⟨none :: seen, none⟩ := by
  simp only [Reading.step, Reading.start, h]

/-- The octets that spell a character are read as that character. -/
theorem foldl_step_utf8EncodeChar (c : Char) (seen : List (Option Char)) :
    (String.utf8EncodeChar c).foldl Reading.step ⟨seen, none⟩ = ⟨some c :: seen, none⟩ := by
  by_cases short : c.toNat ≤ 0x7F
  · have spelled : String.utf8EncodeChar c = [UInt8.ofNat c.toNat] := if_pos short
    have value : (UInt8.ofNat c.toNat).toNat = c.toNat := by
      rw [UInt8.toNat_ofNat']
      omega
    rw [spelled, List.foldl_cons, List.foldl_nil]
    exact step_of_whole (whole_iff.mpr ⟨by omega, by rw [value, Char.ofNat_toNat]⟩)
  · obtain ⟨first, others, state, opened, completes⟩ :=
      exists_completes c.valid (Nat.lt_of_not_le short)
    have same : Char.ofNat c.val.toNat = c := Char.ofNat_toNat c
    have spelled := utf8EncodeChar_of_completes opened completes
    rw [same] at spelled
    rw [spelled, List.foldl_cons, step_of_opening opened, foldl_step_of_completes completes, same]

theorem foldl_step_flatMap (cs : List Char) (seen : List (Option Char)) :
    (cs.flatMap String.utf8EncodeChar).foldl Reading.step ⟨seen, none⟩ =
      ⟨(cs.map some).reverse ++ seen, none⟩ := by
  induction cs generalizing seen with
  | nil => rfl
  | cons c cs ih => simp [foldl_step_utf8EncodeChar, ih]

theorem readings_flatMap (cs : List Char) :
    readings (cs.flatMap String.utf8EncodeChar) = cs.map some := by
  rw [readings, foldl_step_flatMap]
  simp [Reading.finish]

/-! ## Gaps -/

/-- A reading without gaps. -/
def Reading.Gapless (r : Reading) : Prop := ∀ c ∈ r.finish, c.isSome

theorem seen_suffix_step (r : Reading) (octet : UInt8) : r.seen <:+ (r.step octet).seen := by
  have started : ∀ r : Reading, r.seen <:+ (r.start octet.toNat).seen := fun r => by
    unfold Reading.start
    split
    · exact List.suffix_cons _ _
    · exact List.suffix_refl _
    · exact List.suffix_cons _ _
  unfold Reading.step
  simp only
  split
  · exact started r
  · split
    · split
      · exact List.suffix_cons _ _
      · exact List.suffix_refl _
    · exact (List.suffix_cons _ _).trans (started ⟨none :: r.seen, none⟩)

theorem seen_suffix_foldl (r : Reading) (octets : List UInt8) :
    r.seen <:+ (octets.foldl Reading.step r).seen := by
  induction octets generalizing r with
  | nil => exact List.suffix_refl _
  | cons octet octets ih => exact (seen_suffix_step r octet).trans (ih _)

/-- What has been seen stays in its place. -/
theorem exists_finish_foldl {r : Reading} {reading : Option Char}
    (known : reading :: seen <:+ r.seen) (octets : List UInt8) :
    ∃ later, (octets.foldl Reading.step r).finish = seen.reverse ++ reading :: later := by
  obtain ⟨later, kept⟩ := known.trans (seen_suffix_foldl r octets)
  unfold Reading.finish
  split
  · exact ⟨later.reverse, by simp [← kept]⟩
  · exact ⟨later.reverse ++ [none], by simp [← kept]⟩

/-- An open character is completed, or a gap takes its place. -/
theorem completes_or_gap (owes : 1 ≤ state.owed) (octets : List UInt8) :
    (∃ others rest number, octets = others ++ rest ∧ Completes state others number) ∨
      ∃ later, (octets.foldl Reading.step ⟨seen, some state⟩).finish =
        seen.reverse ++ none :: later := by
  induction octets generalizing state with
  | nil => exact .inr ⟨[], by simp [Reading.finish]⟩
  | cons octet octets ih =>
    obtain ⟨owed, least, greatest, bits⟩ := state
    by_cases fits : least ≤ octet.toNat ∧ octet.toNat ≤ greatest
    · match owed, owes with
      | 1, _ => exact .inl ⟨[octet], octets, _, rfl, .last fits.1 fits.2⟩
      | owed + 2, _ =>
        have goesOn : Reading.step ⟨seen, some ⟨owed + 2, least, greatest, bits⟩⟩ octet =
            ⟨seen, some ⟨owed + 1, 0x80, 0xBF, bits * 64 + (octet.toNat - 0x80)⟩⟩ := by
          simp [Reading.step, fits]
        rw [List.foldl_cons, goesOn]
        refine (ih (Nat.le_add_left 1 owed)).imp_left ?_
        rintro ⟨others, rest, number, split, completes⟩
        exact ⟨octet :: others, rest, number, by rw [split]; rfl, .more fits.1 fits.2 completes⟩
    · have broken : Reading.step ⟨seen, some ⟨owed, least, greatest, bits⟩⟩ octet =
          Reading.start ⟨none :: seen, none⟩ octet.toNat := by
        simp [Reading.step, fits]
      have kept := seen_suffix_step ⟨none :: seen, none⟩ octet
      rw [List.foldl_cons, broken]
      exact .inr (exists_finish_foldl kept octets)

theorem not_gapless_of_finish {r : Reading} {front later : List (Option Char)}
    (gap : r.finish = front ++ none :: later) : ¬ r.Gapless := fun gapless =>
  absurd (gapless none (by simp [gap])) (by simp)

/-- Octets that are read without a gap begin with those that spell a character. -/
theorem exists_utf8EncodeChar_append
    (gapless : ((octet :: octets).foldl Reading.step ⟨seen, none⟩).Gapless) :
    ∃ c rest, octet :: octets = String.utf8EncodeChar c ++ rest := by
  cases lead : Lead.ofOctet octet.toNat with
  | whole c =>
    obtain ⟨small, rfl⟩ := whole_iff.mp lead
    refine ⟨Char.ofNat octet.toNat, octets, ?_⟩
    have value := toNat_ofNat_of_valid (n := octet.toNat) (.inl (by omega))
    simp [String.utf8EncodeChar, value, small]
  | opening state =>
    rw [List.foldl_cons, step_of_opening lead] at gapless
    rcases completes_or_gap (one_le_owed lead) octets with completed | ⟨later, gap⟩
    · obtain ⟨others, rest, number, rfl, completes⟩ := completed
      exact ⟨_, rest, by rw [utf8EncodeChar_of_completes lead completes]; rfl⟩
    · exact absurd gapless (not_gapless_of_finish gap)
  | never =>
    rw [List.foldl_cons, step_of_never lead] at gapless
    obtain ⟨later, gap⟩ :=
      @exists_finish_foldl seen ⟨none :: seen, none⟩ none (List.suffix_refl _) octets
    exact absurd gapless (not_gapless_of_finish gap)

/-- The first reading is an ASCII character exactly if the first octet is its number. -/
theorem head?_readings {mark : Char} (ascii : mark.toNat ≤ 0x7F) (octet : UInt8)
    (octets : List UInt8) :
    (readings (octet :: octets)).head? = some (some mark) ↔ octet.toNat = mark.toNat := by
  have first {r : Reading} {reading : Option Char} (known : r.seen = [reading])
      (octets : List UInt8) : (octets.foldl Reading.step r).finish.head? = some reading := by
    obtain ⟨later, finished⟩ :=
      @exists_finish_foldl [] r reading (known ▸ List.suffix_refl _) octets
    rw [finished]
    rfl
  rw [readings, List.foldl_cons]
  cases lead : Lead.ofOctet octet.toNat with
  | whole c =>
    obtain ⟨small, rfl⟩ := whole_iff.mp lead
    have value : (Char.ofNat octet.toNat).toNat = octet.toNat :=
      toNat_ofNat_of_valid (.inl (by omega))
    rw [step_of_whole lead, first rfl, Option.some.injEq, Option.some.injEq, ← Char.toNat_inj,
      value]
  | opening state =>
    have wide : 0x7F < octet.toNat := by
      rcases bounds_of_opening lead with ⟨low, -⟩ | ⟨low, -⟩ | ⟨low, -⟩ <;> omega
    refine iff_of_false (fun isMark => ?_) (by omega)
    rw [step_of_opening lead] at isMark
    rcases completes_or_gap (one_le_owed lead) octets with completed | ⟨later, gap⟩
    · obtain ⟨others, rest, number, rfl, completes⟩ := completed
      rw [List.foldl_append, foldl_step_of_completes completes, first rfl] at isMark
      -- An ASCII character is spelled by itself, and the octet that opens one is not ASCII.
      have alone : String.utf8EncodeChar mark = [UInt8.ofNat mark.toNat] := if_pos ascii
      have spelled := utf8EncodeChar_of_completes lead completes
      rw [Option.some.inj (Option.some.inj isMark), alone] at spelled
      have value := congrArg UInt8.toNat (List.cons.inj spelled).1
      rw [UInt8.toNat_ofNat'] at value
      omega
    · rw [gap] at isMark
      cases isMark
  | never =>
    have wide : 0x7F < octet.toNat := Nat.lt_of_not_le fun small => by
      rw [whole_iff.mpr ⟨small, rfl⟩] at lead
      cases lead
    rw [step_of_never lead, first rfl]
    exact iff_of_false (by simp) (by omega)

end Steps

/-- What is read without a gap is spelled with the octets that were read. -/
theorem flatMap_of_gapless {octets : List UInt8} {seen : List (Option Char)}
    (gapless : (octets.foldl Reading.step ⟨seen, none⟩).Gapless) :
    ∃ cs : List Char, octets = cs.flatMap String.utf8EncodeChar := by
  match octets with
  | [] => exact ⟨[], rfl⟩
  | octet :: more =>
    obtain ⟨c, rest, split⟩ := exists_utf8EncodeChar_append gapless
    have shorter : rest.length < (octet :: more).length := by
      have spelled := List.length_pos_iff.mpr (String.utf8EncodeChar_ne_nil (c := c))
      rw [split, List.length_append]
      omega
    rw [split, List.foldl_append, foldl_step_utf8EncodeChar] at gapless
    obtain ⟨cs, spelled⟩ := flatMap_of_gapless gapless
    exact ⟨c :: cs, by rw [split, spelled]; rfl⟩
termination_by octets.length
decreasing_by exact shorter

theorem loop_eq_append (octets : ByteArray) (place : Nat) (front : List UInt8) :
    ByteArray.toList.loop octets place front =
      front.reverse ++ octets.data.toList.drop place := by
  rw [ByteArray.toList.loop]
  split
  · next inside =>
    have within : place < octets.data.toList.length := by simpa using inside
    have here : octets.data.toList.drop place =
        octets.get! place :: octets.data.toList.drop (place + 1) := by
      rw [List.drop_eq_getElem_cons within, ByteArray.get!, getElem!_pos octets.data place inside]
      rfl
    rw [loop_eq_append octets (place + 1), here]
    simp
  · next outside =>
    have behind : octets.data.toList.length ≤ place := by simpa using outside
    rw [List.drop_of_length_le behind, List.append_nil]
termination_by octets.size - place

theorem toList_eq_data_toList (octets : ByteArray) : octets.toList = octets.data.toList := by
  rw [ByteArray.toList, loop_eq_append]
  rfl

/-- Octets are read as a text exactly if they are what the text is spelled with. -/
theorem decode?_eq_some_iff {octets : ByteArray} {s : String} :
    decode? octets = some s ↔ octets = encode s := by
  have all_some (cs : List Char) : (cs.map some).all Option.isSome ∧
      (cs.map some).filterMap id = cs := by simp
  constructor
  · intro read
    rw [decode?, toList_eq_data_toList] at read
    split at read
    · next gapless =>
      obtain ⟨cs, spelled⟩ := flatMap_of_gapless (List.all_eq_true.mp gapless)
      rw [spelled, readings_flatMap, (all_some cs).2] at read
      cases read
      refine ByteArray.ext (Array.toList_inj.mp ?_)
      rw [spelled, ← Text.octets, octets_eq_flatMap, String.toList_ofList]
    · cases read
  · rintro rfl
    rw [decode?, toList_eq_data_toList, ← octets, octets_eq_flatMap, readings_flatMap]
    simp

end ReleaseBuilder.Text
