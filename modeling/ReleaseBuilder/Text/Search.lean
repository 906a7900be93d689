/-
# Searching a text

The three searches that a release needs: whether a text holds another one, what
stands after the last place where it does, and the two sides of the first
occurrence of a character.
-/

namespace ReleaseBuilder.Text

/-- Whether `needle` occurs somewhere in the characters. -/
def occursIn (needle : List Char) : List Char → Bool
  | [] => needle.isEmpty
  | c :: rest => needle.isPrefixOf (c :: rest) || occursIn needle rest

/-- What follows the last occurrence of `needle`, overlapping occurrences included. The
empty text occurs last at the very end. -/
def afterLast? (needle : List Char) : List Char → Option (List Char)
  | [] => if needle.isEmpty then some [] else none
  | c :: rest =>
    match afterLast? needle rest with
    | some tail => some tail
    | none => if needle.isPrefixOf (c :: rest) then some ((c :: rest).drop needle.length) else none

/-- The characters before and after the first occurrence of `mark`. -/
def splitFirst? (mark : Char) : List Char → Option (List Char × List Char)
  | [] => none
  | c :: rest =>
    if c = mark then some ([], rest)
    else (splitFirst? mark rest).map fun (front, back) => (c :: front, back)

/-- Whether a text holds another one. -/
def contains (text needle : String) : Bool :=
  occursIn needle.toList text.toList

/-- ASCII letters in lower case, all other characters as they are. -/
def lowerAscii (s : String) : String :=
  String.ofList (s.toList.map Char.toLower)

theorem occursIn_iff_isInfix {needle cs : List Char} : occursIn needle cs ↔ needle <:+: cs := by
  induction cs with
  | nil => simp [occursIn]
  | cons c rest ih =>
    rw [occursIn, Bool.or_eq_true, ih, List.isPrefixOf_iff_prefix, List.infix_cons_iff]

/-- A text holds another one in some spelling with capital letters exactly if it holds it once
its letters are lowered. -/
theorem contains_lowerAscii_iff {text needle : String} :
    contains (lowerAscii text) needle ↔
      ∃ letters, letters <:+: text.toList ∧ letters.map Char.toLower = needle.toList := by
  rw [contains, lowerAscii, occursIn_iff_isInfix, String.toList_ofList, List.infix_map_iff]
  simp only [eq_comm]

theorem splitFirst?_eq_none_iff {mark : Char} {cs : List Char} :
    splitFirst? mark cs = none ↔ mark ∉ cs := by
  induction cs with
  | nil => simp [splitFirst?]
  | cons c rest ih =>
    by_cases h : c = mark
    · simp [splitFirst?, h]
    · rw [splitFirst?, if_neg h, Option.map_eq_none_iff, ih]
      simp [Ne.symm h]

/-- The mark and its two sides give back the text, and the front holds no mark. -/
theorem eq_append_of_splitFirst? {mark : Char} {cs front back : List Char}
    (h : splitFirst? mark cs = some (front, back)) :
    cs = front ++ mark :: back ∧ mark ∉ front := by
  induction cs generalizing front with
  | nil => simp [splitFirst?] at h
  | cons c rest ih =>
    by_cases hc : c = mark
    · simp only [splitFirst?, hc, if_true, Option.some.injEq, Prod.mk.injEq] at h
      obtain ⟨rfl, rfl⟩ := h
      simp [hc]
    · simp only [splitFirst?, hc, if_false, Option.map_eq_some_iff, Prod.mk.injEq] at h
      obtain ⟨⟨front', back'⟩, found, rfl, rfl⟩ := h
      obtain ⟨whole, absent⟩ := ih found
      exact ⟨by simp [whole], by simp [absent, Ne.symm hc]⟩

/-- A text is split at a mark that has no other one before it. -/
theorem splitFirst?_append {mark : Char} {front : List Char} (absent : mark ∉ front)
    (back : List Char) : splitFirst? mark (front ++ mark :: back) = some (front, back) := by
  induction front with
  | nil => simp [splitFirst?]
  | cons c front ih =>
    rw [List.mem_cons, not_or] at absent
    obtain ⟨other, later⟩ := absent
    rw [List.cons_append, splitFirst?, if_neg (Ne.symm other), ih later]
    rfl

/-- What follows the mark is shorter than the whole. -/
theorem length_lt_of_splitFirst? {mark : Char} {cs front back : List Char}
    (h : splitFirst? mark cs = some (front, back)) : back.length < cs.length := by
  rw [(eq_append_of_splitFirst? h).1, List.length_append, List.length_cons]
  omega

end ReleaseBuilder.Text
