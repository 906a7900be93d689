/-
# Parts of a text

What is left of a text without the blanks around it, what stands behind the last place where
another text occurs in it or behind its last mark, and what stands between the marks that divide it.
Each is told by how the whole is put together from its parts.
-/

import ReleaseBuilder.Text.Blank
import ReleaseBuilder.Text.Search

namespace ReleaseBuilder.Text

variable {cs core needle tail : List Char}

/-! ## Without the blanks around it -/

/-- A text with no blank at either end. -/
structure Bare (cs : List Char) : Prop where
  front : ∀ c, cs.head? = some c → isBlank c = false
  back : ∀ c, cs.getLast? = some c → isBlank c = false

/-- The first text is the second one with blanks around it, which is bare. -/
structure Trimmed (cs core : List Char) : Prop where
  around : ∃ front back, cs = front ++ core ++ back ∧
    (∀ c ∈ front, isBlank c) ∧ ∀ c ∈ back, isBlank c
  bare : Bare core

theorem Trimmed.subset (h : Trimmed cs core) : core ⊆ cs := by
  obtain ⟨⟨front, back, rfl, -, -⟩, -⟩ := h
  exact List.subset_append_of_subset_left back (List.subset_append_right front core)

theorem trimFront_append {front : List Char} (blank : ∀ c ∈ front, isBlank c) (cs : List Char) :
    trimFront (front ++ cs) = trimFront cs :=
  List.dropWhile_append_of_pos blank

theorem trimBack_append {back : List Char} (cs : List Char) (blank : ∀ c ∈ back, isBlank c) :
    trimBack (cs ++ back) = trimBack cs := by
  rw [trimBack, List.reverse_append, List.dropWhile_append_of_pos fun c member =>
    blank c (List.mem_reverse.mp member), trimBack]

theorem trimFront_of_bare (h : Bare cs) (behind : List Char) (filled : cs ≠ []) :
    trimFront (cs ++ behind) = cs ++ behind := by
  obtain ⟨c, rest, rfl⟩ := List.exists_cons_of_ne_nil filled
  have first : isBlank c = false := h.front c rfl
  rw [trimFront, List.cons_append, List.dropWhile_cons_of_neg (by simp [first])]

theorem trimBack_of_last (last : ∀ c, cs.getLast? = some c → isBlank c = false) :
    trimBack cs = cs := by
  rcases List.eq_nil_or_concat cs with rfl | ⟨front, c, rfl⟩
  · rfl
  · have filled : isBlank c = false := last c (by simp)
    rw [trimBack, List.concat_eq_append, List.reverse_concat,
      List.dropWhile_cons_of_neg (by simp [filled]), List.reverse_cons, List.reverse_reverse]

theorem Trimmed.eq (h : Trimmed cs core) : trimBoth cs = core := by
  obtain ⟨⟨front, back, rfl, blankFront, blankBack⟩, bare⟩ := h
  rw [trimBoth, List.append_assoc, trimFront_append blankFront]
  by_cases filled : core = []
  · subst filled
    have gone : trimFront ([] ++ back) = [] := by
      rw [List.nil_append, ← List.append_nil back, trimFront_append blankBack]
      rfl
    rw [gone]
    rfl
  · rw [trimFront_of_bare bare back filled, trimBack_append core blankBack,
      trimBack_of_last bare.back]

theorem isBlank_of_mem_takeWhile {c : Char} (h : c ∈ cs.takeWhile isBlank) : isBlank c :=
  List.all_eq_true.mp List.all_takeWhile c h

theorem isBlank_head?_dropWhile {c : Char} (h : (cs.dropWhile isBlank).head? = some c) :
    isBlank c = false := by
  have first := List.head?_dropWhile_not isBlank cs
  rwa [h] at first

/-- What is dropped at the back is blank, and what stays has no blank there. -/
theorem exists_back (cs : List Char) :
    ∃ back, cs = trimBack cs ++ back ∧ (∀ c ∈ back, isBlank c) ∧
      ∀ c, (trimBack cs).getLast? = some c → isBlank c = false := by
  refine ⟨(cs.reverse.takeWhile isBlank).reverse, ?_, fun c member => ?_, fun c last => ?_⟩
  · rw [trimBack, ← List.reverse_append, List.takeWhile_append_dropWhile, List.reverse_reverse]
  · exact isBlank_of_mem_takeWhile (List.mem_reverse.mp member)
  · rw [trimBack, List.getLast?_reverse] at last
    exact isBlank_head?_dropWhile last

theorem trimmed_trimBoth (cs : List Char) : Trimmed cs (trimBoth cs) := by
  have front : cs = cs.takeWhile isBlank ++ trimFront cs := List.takeWhile_append_dropWhile.symm
  obtain ⟨back, split, blankBack, last⟩ := exists_back (trimFront cs)
  refine ⟨⟨cs.takeWhile isBlank, back, ?_, fun c => isBlank_of_mem_takeWhile, blankBack⟩,
    fun c first => ?_, last⟩
  · rw [List.append_assoc, trimBoth, ← split, ← front]
  · have firstToo : (trimFront cs).head? = some c := by
      rw [split, List.head?_append, ← trimBoth, first, Option.some_or]
    exact isBlank_head?_dropWhile firstToo

theorem trimmed_iff : Trimmed cs core ↔ trimBoth cs = core :=
  ⟨Trimmed.eq, fun same => same ▸ trimmed_trimBoth cs⟩

/-- The first text is the second one with blanks behind it, and the second does not end in one. -/
structure TrimmedBack (cs core : List Char) : Prop where
  behind : ∃ back, cs = core ++ back ∧ ∀ c ∈ back, isBlank c
  last : ∀ c, core.getLast? = some c → isBlank c = false

theorem trimmedBack_iff : TrimmedBack cs core ↔ trimBack cs = core := by
  constructor
  · rintro ⟨⟨back, rfl, blank⟩, last⟩
    rw [trimBack_append core blank, trimBack_of_last last]
  · rintro rfl
    obtain ⟨back, split, blank, last⟩ := exists_back cs
    exact ⟨⟨back, split, blank⟩, last⟩

theorem trimEnd_eq_iff {s t : String} : trimEnd s = t ↔ TrimmedBack s.toList t.toList := by
  rw [trimmedBack_iff, trimEnd, ← String.toList_inj, String.toList_ofList]

/-! ## Behind the last occurrence -/

/-- The tail stands behind the last place where the needle occurs: behind none it is shorter. The
places may overlap. -/
structure BehindLast (needle cs tail : List Char) : Prop where
  occurs : needle ++ tail <:+ cs
  shortest : ∀ other, needle ++ other <:+ cs → tail.length ≤ other.length

theorem BehindLast.unique {other : List Char} (h : BehindLast needle cs tail)
    (h' : BehindLast needle cs other) : tail = other := by
  have sameLength : tail.length = other.length :=
    Nat.le_antisymm (h.shortest other h'.occurs) (h'.shortest tail h.occurs)
  have suffix : needle ++ tail <:+ needle ++ other :=
    List.suffix_of_suffix_length_le h.occurs h'.occurs (by simp [sameLength])
  exact List.append_cancel_left (suffix.eq_of_length (by simp [sameLength]))

theorem afterLast?_eq_none_iff : afterLast? needle cs = none ↔ ¬ needle <:+: cs := by
  induction cs with
  | nil => simp [afterLast?]
  | cons c rest ih =>
    rw [afterLast?, List.infix_cons_iff, not_or, ← ih, ← List.isPrefixOf_iff_prefix]
    cases afterLast? needle rest with
    | some tail => simp
    | none => simp

theorem behindLast_of_afterLast? (found : afterLast? needle cs = some tail) :
    BehindLast needle cs tail := by
  induction cs with
  | nil =>
    rw [afterLast?] at found
    split at found
    · next empty =>
      cases found
      obtain rfl : needle = [] := by simpa using empty
      exact ⟨List.suffix_refl [], fun other _ => Nat.zero_le _⟩
    · cases found
  | cons c rest ih =>
    rw [afterLast?] at found
    split at found
    · next later =>
      cases found
      have behind := ih later
      refine ⟨behind.occurs.trans (List.suffix_cons c rest), fun other occurs => ?_⟩
      rcases List.suffix_cons_iff.mp occurs with whole | within
      · have lengths := congrArg List.length whole
        have shorter := behind.occurs.length_le
        simp only [List.length_append, List.length_cons] at lengths shorter
        omega
      · exact behind.shortest other within
    · next nowhere =>
      split at found
      · next here =>
        cases found
        have split := List.prefix_iff_eq_append.mp (List.isPrefixOf_iff_prefix.mp here)
        refine ⟨⟨[], split⟩, fun other occurs => ?_⟩
        rcases List.suffix_cons_iff.mp occurs with whole | within
        · have same : (c :: rest).drop needle.length = other := by rw [← whole, List.drop_left]
          exact Nat.le_of_eq (congrArg List.length same)
        · have occursLater : needle <:+: rest :=
            (List.prefix_append needle other).isInfix.trans within.isInfix
          exact absurd occursLater (afterLast?_eq_none_iff.mp nowhere)
      · cases found

theorem afterLast?_eq_some_iff : afterLast? needle cs = some tail ↔ BehindLast needle cs tail := by
  refine ⟨behindLast_of_afterLast?, fun behind => ?_⟩
  cases found : afterLast? needle cs with
  | none =>
    have occurs : needle <:+: cs :=
      (List.prefix_append needle tail).isInfix.trans behind.occurs.isInfix
    exact absurd occurs (afterLast?_eq_none_iff.mp found)
  | some other => rw [(behindLast_of_afterLast? found).unique behind]

/-! ## Behind the last mark -/

/-- What stands behind a character and does not have it stands behind its last place. -/
theorem behindLast_of_notMem {c : Char} (front : List Char) (absent : c ∉ tail) :
    BehindLast [c] (front ++ c :: tail) tail where
  occurs := List.suffix_append front (c :: tail)
  shortest other occurs := by
    refine Nat.le_of_not_lt fun shorter => ?_
    have behind : tail <:+ front ++ c :: tail :=
      (List.suffix_cons c tail).trans (List.suffix_append front (c :: tail))
    have within : c :: other <:+ tail :=
      List.suffix_of_suffix_length_le occurs behind shorter
    exact absent (within.subset List.mem_cons_self)

/-- There is one way only to divide a text at its last mark. -/
theorem eq_of_last_mark {c : Char} {front front' back back' : List Char} (absent : c ∉ back)
    (absent' : c ∉ back') (same : front ++ c :: back = front' ++ c :: back') :
    front = front' ∧ back = back' := by
  have behind := behindLast_of_notMem front absent
  rw [same] at behind
  obtain rfl := behind.unique (behindLast_of_notMem front' absent')
  exact ⟨List.append_cancel_right same, rfl⟩

/-! ## Between marks -/

theorem intercalate_concat {c : Char} {front : List (List Char)} (last : List Char)
    (h : front ≠ []) :
    [c].intercalate (front ++ [last]) = [c].intercalate front ++ c :: last := by
  induction front with
  | nil => exact absurd rfl h
  | cons piece rest ih =>
      by_cases short : rest = []
      · subst short
        simp
      · rw [List.cons_append, List.intercalate_cons_of_ne_nil (by simp),
          List.intercalate_cons_of_ne_nil short, ih short, List.append_assoc _ _ (c :: last)]

/-- No piece of a split has a character that was split on. -/
theorem not_mem_of_mem_splitOn {c : Char} {cs piece : List Char} (h : piece ∈ cs.splitOn c) :
    c ∉ piece := by
  induction cs generalizing piece with
  | nil =>
      rw [List.splitOn_nil, List.mem_singleton] at h
      subst h
      exact List.not_mem_nil
  | cons x cs ih =>
      rw [List.splitOn_cons_eq_if_modifyHead] at h
      split at h
      · rcases List.mem_cons.mp h with rfl | later
        · exact List.not_mem_nil
        · exact ih later
      · next other =>
        obtain ⟨first, rest, split⟩ := List.exists_cons_of_ne_nil (List.splitOn_ne_nil c cs)
        rw [split, List.modifyHead_cons] at h
        rcases List.mem_cons.mp h with rfl | later
        · rw [List.mem_cons, not_or]
          refine ⟨?_, ih (by rw [split]; exact List.mem_cons_self)⟩
          rintro rfl
          exact other (BEq.refl _)
        · exact ih (by rw [split]; exact List.mem_cons_of_mem _ later)

end ReleaseBuilder.Text
