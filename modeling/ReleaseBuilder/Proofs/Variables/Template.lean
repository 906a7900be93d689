/-
# Where the references of a template stand

A template is literal text with references to known variables in between, each of them the leftmost
one behind the reference before it. Expansion puts the values in place of the references and leaves
the literal text alone. The same comes out of a scan that goes from one percent sign to the next.
-/

import Mathlib.Logic.Relation
import ReleaseBuilder.Variables.Template

namespace ReleaseBuilder.Variables

variable {lookup : String → Option String} {text rest last : List Char} {name value : String}

/-- At a place of a text stands a percent sign, and a name between it and the next one. -/
structure NameAt (text : List Char) (place : Nat) (name : String) (rest : List Char) : Prop where
  shape : text.drop place = '%' :: (name.toList ++ '%' :: rest)
  plain : '%' ∉ name.toList
  filled : name ≠ ""

/-- At a place of a text starts a reference to a known variable. -/
def KnownAt (lookup : String → Option String) (text : List Char) (place : Nat) : Prop :=
  ∃ name rest, NameAt text place name rest ∧ (lookup name).isSome

theorem nameAt_cons_succ {c : Char} {place : Nat} :
    NameAt (c :: text) (place + 1) name rest ↔ NameAt text place name rest :=
  ⟨fun ⟨shape, plain, filled⟩ => ⟨shape, plain, filled⟩,
    fun ⟨shape, plain, filled⟩ => ⟨shape, plain, filled⟩⟩

theorem knownAt_cons_succ {c : Char} {place : Nat} :
    KnownAt lookup (c :: text) (place + 1) ↔ KnownAt lookup text place := by
  simp only [KnownAt, nameAt_cons_succ]

theorem nameAt_of_splitFirst? {front after : List Char}
    (found : Text.splitFirst? '%' text = some (front, after)) (filled : front ≠ []) :
    NameAt ('%' :: text) 0 (String.ofList front) after := by
  obtain ⟨split, plain⟩ := Text.eq_append_of_splitFirst? found
  refine ⟨?_, by simpa using plain, by simpa using filled⟩
  rw [List.drop_zero, split, String.toList_ofList]

/-- A known reference starts with a percent sign if a known name stands between it and the next
one. -/
theorem knownAt_zero_iff :
    KnownAt lookup ('%' :: text) 0 ↔
      ∃ front after, Text.splitFirst? '%' text = some (front, after) ∧ front ≠ [] ∧
        (lookup (String.ofList front)).isSome := by
  constructor
  · rintro ⟨name, after, ⟨shape, plain, filled⟩, known⟩
    rw [List.drop_zero] at shape
    refine ⟨name.toList, after, ?_, by simpa using filled, by simpa using known⟩
    rw [(List.cons.inj shape).2, Text.splitFirst?_append plain]
  · rintro ⟨front, after, found, filled, known⟩
    exact ⟨_, after, nameAt_of_splitFirst? found filled, known⟩

/-! ## What expansion does at the front of a text -/

theorem expandChars_nil : expandChars lookup [] = [] := by
  rw [expandChars]

/-- A known reference at the front gives way to its value. -/
theorem expandChars_of_nameAt (there : NameAt text 0 name rest) (known : lookup name = some value) :
    expandChars lookup text = value.toList ++ expandChars lookup rest := by
  obtain ⟨shape, plain, filled⟩ := there
  rw [List.drop_zero] at shape
  subst shape
  rw [expandChars, if_pos rfl]
  split
  · next absent =>
    exact absurd (Text.splitFirst?_append plain rest) (by simp [absent])
  · next name' after found =>
    rw [Text.splitFirst?_append plain rest] at found
    cases found
    simp [filled, known]

/-- Where no known reference starts a character stays as it is. -/
theorem expandChars_cons {c : Char} (unknown : ¬ KnownAt lookup (c :: text) 0) :
    expandChars lookup (c :: text) = c :: expandChars lookup text := by
  rw [expandChars]
  split
  · next opening =>
    subst opening
    split
    · rfl
    · next front after found =>
      split
      · rfl
      · next filled =>
        split
        · rfl
        · next value known =>
          refine absurd (knownAt_zero_iff.mpr ⟨front, after, found, ?_, ?_⟩) unknown
          · simpa using filled
          · exact Option.isSome_of_eq_some known
  · rfl

theorem not_knownAt_of_ne {c : Char} (other : c ≠ '%') : ¬ KnownAt lookup (c :: text) 0 := by
  rintro ⟨name, rest, ⟨shape, -, -⟩, -⟩
  rw [List.drop_zero] at shape
  cases shape
  exact other rfl

theorem expandChars_append {front : List Char} (plain : '%' ∉ front) (rest : List Char) :
    expandChars lookup (front ++ rest) = front ++ expandChars lookup rest := by
  induction front with
  | nil => rfl
  | cons c front ih =>
    rw [List.mem_cons, not_or] at plain
    rw [List.cons_append, expandChars_cons (not_knownAt_of_ne (Ne.symm plain.1)), ih plain.2]
    rfl

/-! ## The division of a template -/

/-- Literal text, and a reference behind it with the value of its variable. -/
structure Passage where
  literal : List Char
  name : String
  value : String

/-- A template falls into passages and a last literal text. The reference of a passage is the
leftmost known one in what is left of the template, and none is known in the last text. -/
inductive Divided (lookup : String → Option String) :
    List Char → List Passage → List Char → Prop
  | bare {text : List Char} (unknown : ∀ place, ¬ KnownAt lookup text place) :
      Divided lookup text [] text
  | reference {literal rest last : List Char} {name value : String} {passages : List Passage}
      (plain : '%' ∉ name.toList) (filled : name ≠ "") (known : lookup name = some value)
      (leftmost : ∀ place < literal.length,
        ¬ KnownAt lookup (literal ++ '%' :: (name.toList ++ '%' :: rest)) place)
      (goesOn : Divided lookup rest passages last) :
      Divided lookup (literal ++ '%' :: (name.toList ++ '%' :: rest))
        (⟨literal, name, value⟩ :: passages) last

/-- The template that passages and a last text were taken from. -/
def written (passages : List Passage) (last : List Char) : List Char :=
  passages.flatMap (fun p => p.literal ++ '%' :: (p.name.toList ++ ['%'])) ++ last

/-- The passages and the last text with the values in place of the references. -/
def filledIn (passages : List Passage) (last : List Char) : List Char :=
  passages.flatMap (fun p => p.literal ++ p.value.toList) ++ last

theorem Divided.eq_written {passages : List Passage} (h : Divided lookup text passages last) :
    text = written passages last := by
  induction h with
  | bare => rfl
  | reference plain filled known leftmost goesOn ih => simp [written, ih]

/-- A character in front of a template belongs to its first literal text if no known reference
starts with it. -/
theorem Divided.cons {c : Char} {passages : List Passage}
    (h : Divided lookup text passages last) (unknown : ¬ KnownAt lookup (c :: text) 0) :
    ∃ passages' last', Divided lookup (c :: text) passages' last' ∧
      filledIn passages' last' = c :: filledIn passages last := by
  cases h with
  | bare unknownToo =>
    refine ⟨[], c :: text, .bare fun place => ?_, rfl⟩
    cases place with
    | zero => exact unknown
    | succ place => exact fun known => unknownToo place (knownAt_cons_succ.mp known)
  | @reference literal rest last name value passages plain filled known leftmost goesOn =>
    refine ⟨⟨c :: literal, name, value⟩ :: passages, last, ?_, rfl⟩
    rw [← List.cons_append] at unknown ⊢
    refine .reference plain filled known (fun place early => ?_) goesOn
    cases place with
    | zero => exact unknown
    | succ place =>
      exact fun known => leftmost place (Nat.lt_of_succ_lt_succ early) (knownAt_cons_succ.mp known)

/-- Expansion follows a division of the template. -/
theorem exists_divided (lookup : String → Option String) (text : List Char) :
    ∃ passages last, Divided lookup text passages last ∧
      expandChars lookup text = filledIn passages last := by
  match text with
  | [] =>
    refine ⟨[], [], .bare ?_, expandChars_nil⟩
    rintro place ⟨name, rest, ⟨shape, -, -⟩, -⟩
    simp at shape
  | c :: text =>
    by_cases known : KnownAt lookup (c :: text) 0
    · obtain ⟨name, rest, there, isKnown⟩ := known
      obtain ⟨value, found⟩ := Option.isSome_iff_exists.mp isKnown
      have shape : c :: text = '%' :: (name.toList ++ '%' :: rest) := there.shape
      have shorter : rest.length < (c :: text).length := by
        simp [shape]
        omega
      obtain ⟨passages, last, divided, expanded⟩ := exists_divided lookup rest
      refine ⟨⟨[], name, value⟩ :: passages, last, ?_, ?_⟩
      · rw [shape, ← List.nil_append ('%' :: _)]
        exact .reference there.plain there.filled found
          (fun place early => absurd early (Nat.not_lt_zero place)) divided
      · rw [expandChars_of_nameAt there found, expanded]
        simp [filledIn]
    · obtain ⟨passages, last, divided, expanded⟩ := exists_divided lookup text
      obtain ⟨passages', last', dividedToo, longer⟩ := divided.cons known
      exact ⟨passages', last', dividedToo, by rw [expandChars_cons known, expanded, longer]⟩
termination_by text.length
decreasing_by
  · exact shorter
  · exact Nat.lt_succ_self text.length

theorem knownAt_behind (literal rest : List Char) (plain : '%' ∉ name.toList) (filled : name ≠ "")
    (known : lookup name = some value) :
    KnownAt lookup (literal ++ '%' :: (name.toList ++ '%' :: rest)) literal.length :=
  ⟨name, rest, ⟨List.drop_left, plain, filled⟩, Option.isSome_of_eq_some known⟩

/-- A template falls apart in one way only. -/
theorem Divided.unique {passages passages' : List Passage} {last' : List Char}
    (h : Divided lookup text passages last) (h' : Divided lookup text passages' last') :
    passages' = passages ∧ last' = last := by
  induction h generalizing passages' last' with
  | bare unknown =>
    cases h' with
    | bare => exact ⟨rfl, rfl⟩
    | reference plain filled known => exact absurd (knownAt_behind _ _ plain filled known) (unknown _)
  | @reference literal rest last name value passages plain filled known leftmost goesOn ih =>
    generalize same : literal ++ '%' :: (name.toList ++ '%' :: rest) = text at h' leftmost
    have here : KnownAt lookup text literal.length := by
      rw [← same]
      exact knownAt_behind literal rest plain filled known
    cases h' with
    | bare unknown => exact absurd here (unknown _)
    | @reference literal' rest' _ name' value' _ plain' filled' known' leftmost' goesOn' =>
      have notLater : ¬ literal.length < literal'.length := fun less => leftmost' _ less here
      have notEarlier : ¬ literal'.length < literal.length := fun less =>
        leftmost _ less (knownAt_behind literal' rest' plain' filled' known')
      obtain ⟨rfl, reference⟩ := List.append_inj same (by omega)
      have names : some (name.toList, rest) = some (name'.toList, rest') := by
        rw [← Text.splitFirst?_append plain rest, ← Text.splitFirst?_append plain' rest',
          (List.cons.inj reference).2]
      rw [Option.some.injEq, Prod.mk.injEq, String.toList_inj] at names
      obtain ⟨rfl, rfl⟩ := names
      obtain rfl : value = value' := Option.some.inj (known.symm.trans known')
      obtain ⟨rfl, rfl⟩ := ih goesOn'
      exact ⟨rfl, rfl⟩

/-! ## What expansion depends on -/

theorem NameAt.of_append (front : List Char) {place : Nat} (h : NameAt text place name rest) :
    NameAt (front ++ text) (front.length + place) name rest where
  shape := by rw [← List.drop_drop, List.drop_left, h.shape]
  plain := h.plain
  filled := h.filled

section

variable {other : String → Option String}

theorem KnownAt.congr {place : Nat}
    (same : ∀ place name rest, NameAt text place name rest → lookup name = other name)
    (h : KnownAt other text place) : KnownAt lookup text place := by
  obtain ⟨name, rest, there, known⟩ := h
  exact ⟨name, rest, there, same place name rest there ▸ known⟩

theorem Divided.congr {passages : List Passage} (h : Divided lookup text passages last)
    (same : ∀ place name rest, NameAt text place name rest → lookup name = other name) :
    Divided other text passages last := by
  induction h with
  | bare unknown => exact .bare fun place known => unknown place (known.congr same)
  | @reference literal rest last name value passages plain filled known leftmost goesOn ih =>
    have sameName : lookup name = other name := same _ _ _ ⟨List.drop_left, plain, filled⟩
    refine .reference plain filled (sameName ▸ known)
      (fun place early known => leftmost place early (known.congr same)) (ih ?_)
    intro place found behind there
    have whole : literal ++ '%' :: (name.toList ++ '%' :: rest) =
        (literal ++ '%' :: (name.toList ++ ['%'])) ++ rest := by simp
    exact same _ _ _ (whole ▸ there.of_append _)

/-- Expansion looks up only the names between two percent signs that follow one another. -/
theorem expandChars_congr
    (same : ∀ place name rest, NameAt text place name rest → lookup name = other name) :
    expandChars lookup text = expandChars other text := by
  obtain ⟨passages, last, divided, expanded⟩ := exists_divided lookup text
  obtain ⟨passages', last', dividedToo, expandedToo⟩ := exists_divided other text
  obtain ⟨rfl, rfl⟩ := (divided.congr same).unique dividedToo
  rw [expanded, expandedToo]

end

theorem expandChars_of_unknown
    (unknown : ∀ place name rest, NameAt text place name rest → lookup name = none) :
    expandChars lookup text = text := by
  obtain ⟨passages, last, divided, expanded⟩ := exists_divided lookup text
  rw [expanded]
  cases divided with
  | bare => rfl
  | reference plain filled known =>
    have there := unknown _ _ _ ⟨List.drop_left, plain, filled⟩
    rw [known] at there
    cases there

/-! ## The scan -/

/-- Where a scan of a template has got to: what it has put out, and what is still to be looked
at. -/
structure Scan where
  out : List Char
  rest : List Char

namespace Scan

/-- One turn of a scan. It puts out what stands before the next percent sign, and then the value of
the name behind it. Where no known name follows it puts out the percent sign alone, so that the
next one may open a reference. -/
def turn? (lookup : String → Option String) (s : Scan) : Option Scan :=
  (Text.splitFirst? '%' s.rest).map fun (front, after) =>
    match Text.splitFirst? '%' after with
    | none => ⟨s.out ++ front ++ ['%'], after⟩
    | some (name, behind) =>
      match if name.isEmpty then none else lookup (String.ofList name) with
      | some value => ⟨s.out ++ front ++ value.toList, behind⟩
      | none => ⟨s.out ++ front ++ ['%'], after⟩

variable {s t : Scan}

/-- The text that a scan will have put out at its end. -/
def result (lookup : String → Option String) (s : Scan) : List Char :=
  s.out ++ expandChars lookup s.rest

/-- A turn changes nothing about the result, and leaves less to look at. -/
theorem result_of_turn? (turned : s.turn? lookup = some t) :
    t.result lookup = s.result lookup ∧ t.rest.length < s.rest.length := by
  obtain ⟨⟨front, after⟩, found, turned⟩ := Option.map_eq_some_iff.mp turned
  obtain ⟨split, plain⟩ := Text.eq_append_of_splitFirst? found
  have fewer : after.length < s.rest.length := Text.length_lt_of_splitFirst? found
  have kept (unknown : ¬ KnownAt lookup ('%' :: after) 0) :
      s.result lookup = s.out ++ front ++ ['%'] ++ expandChars lookup after := by
    rw [result, split, expandChars_append plain, expandChars_cons unknown]
    simp
  simp only at turned
  split at turned
  · next alone =>
    subst turned
    refine ⟨(kept fun known => ?_).symm, fewer⟩
    obtain ⟨name, behind, closed, -⟩ := knownAt_zero_iff.mp known
    rw [alone] at closed
    cases closed
  · next name behind closed =>
    split at turned
    · next value known =>
      subst turned
      split at known
      · cases known
      · next filled =>
        have there := nameAt_of_splitFirst? closed (by simpa using filled)
        refine ⟨?_, Nat.lt_trans (Text.length_lt_of_splitFirst? closed) fewer⟩
        rw [result, result, split, expandChars_append plain, expandChars_of_nameAt there known]
        simp
    · next unknown =>
      subst turned
      refine ⟨(kept fun known => ?_).symm, fewer⟩
      obtain ⟨front', after', closedToo, filled, known⟩ := knownAt_zero_iff.mp known
      rw [closed] at closedToo
      cases closedToo
      rw [if_neg (by simpa using filled)] at unknown
      rw [unknown] at known
      cases known

/-- A scan comes to its end, and has then put out the result but for what it has no turn for. -/
theorem exists_end (lookup : String → Option String) (s : Scan) :
    ∃ final, Relation.ReflTransGen (fun s t => turn? lookup s = some t) s final ∧
      final.turn? lookup = none ∧ final.out ++ final.rest = s.result lookup := by
  match turned : s.turn? lookup with
  | none =>
    have plain : '%' ∉ s.rest :=
      Text.splitFirst?_eq_none_iff.mp (Option.map_eq_none_iff.mp turned)
    have unchanged : expandChars lookup s.rest = s.rest := by
      rw [← List.append_nil s.rest, expandChars_append plain, expandChars_nil]
    exact ⟨s, .refl, turned, by rw [result, unchanged]⟩
  | some t =>
    obtain ⟨sameResult, fewer⟩ := result_of_turn? turned
    obtain ⟨final, turns, ended, all⟩ := exists_end lookup t
    exact ⟨final, .head turned turns, ended, all.trans sameResult⟩
termination_by s.rest.length

end Scan

/-! ## Expansion -/

/-- Expanding a template puts the values of known variables in place of their references, and keeps
everything else. The template falls into literal texts and known references in one way only, if each
reference is the leftmost known one behind the last, and the values that are put in are not looked
at again. The scan that does it comes to its end for every template. Where no name is known the
template stays as it is, and only the names between two percent signs that follow one another are
looked up. -/
theorem expand_by_division (template : String) (lookup : String → Option String) :
    (∃ passages last, Divided lookup template.toList passages last ∧
        template.toList = written passages last ∧
        (expand template lookup).toList = filledIn passages last ∧
        ∀ passages' last', Divided lookup template.toList passages' last' →
          passages' = passages ∧ last' = last) ∧
      (∃ final, Relation.ReflTransGen (fun s t => Scan.turn? lookup s = some t)
          ⟨[], template.toList⟩ final ∧
        final.turn? lookup = none ∧ final.out ++ final.rest = (expand template lookup).toList) ∧
      ((∀ place name rest, NameAt template.toList place name rest → lookup name = none) →
        expand template lookup = template) ∧
      ∀ other : String → Option String,
        (∀ place name rest, NameAt template.toList place name rest → lookup name = other name) →
          expand template lookup = expand template other := by
  have toList_expand : (expand template lookup).toList = expandChars lookup template.toList :=
    String.toList_ofList
  rw [toList_expand]
  refine ⟨?_, ?_, ?_, ?_⟩
  · obtain ⟨passages, last, divided, expanded⟩ := exists_divided lookup template.toList
    exact ⟨passages, last, divided, divided.eq_written, expanded, fun _ _ => divided.unique⟩
  · exact Scan.exists_end lookup ⟨[], template.toList⟩
  · intro unknown
    rw [expand, expandChars_of_unknown unknown, String.ofList_toList]
  · intro other same
    rw [expand, expand, expandChars_congr same]

end ReleaseBuilder.Variables
