/-
# Pieces of paths

The pieces of a path are what stands between its separators, so putting pieces together and
taking them apart again gives the same pieces. A path can be looked up if it is not empty, has
no NUL and is not too long, and whatever leads to the last of its pieces can be looked up too.
-/

import ReleaseBuilder.FileSystem.Operations
import ReleaseBuilder.Proofs.Text.Narrow

namespace ReleaseBuilder.Path

/-! ## Texts within texts -/

theorem utf8ByteSize_le_of_sublist {cs ds : List Char} (h : cs.Sublist ds) :
    (String.ofList cs).utf8ByteSize ≤ (String.ofList ds).utf8ByteSize := by
  induction h with
  | slnil => exact Nat.le_refl _
  | cons d h ih =>
      rw [String.ofList_cons, String.utf8ByteSize_append]
      exact Nat.le_trans ih (Nat.le_add_left _ _)
  | cons_cons c h ih =>
      rw [String.ofList_cons, String.ofList_cons, String.utf8ByteSize_append,
        String.utf8ByteSize_append]
      exact Nat.add_le_add_left ih _

/-- Leaving out some of the pieces leaves out a part of the text. -/
theorem intercalate_sublist (c : Char) {kept pieces : List (List Char)} (h : kept.Sublist pieces) :
    ([c].intercalate kept).Sublist ([c].intercalate pieces) := by
  induction h with
  | slnil => exact List.Sublist.refl _
  | @cons kept pieces piece h ih =>
      by_cases last : pieces = []
      · subst last
        rw [List.sublist_nil.mp h]
        exact List.nil_sublist _
      · rw [List.intercalate_cons_of_ne_nil last]
        exact ih.trans (List.sublist_append_right _ _)
  | @cons_cons kept pieces piece h ih =>
      by_cases last : pieces = []
      · subst last
        obtain rfl := List.sublist_nil.mp h
        exact List.Sublist.refl _
      · rw [List.intercalate_cons_of_ne_nil last]
        by_cases others : kept = []
        · rw [others, List.intercalate_singleton, List.append_assoc]
          exact List.sublist_append_left _ _
        · rw [List.intercalate_cons_of_ne_nil others]
          exact ih.append_left _

theorem intercalate_filter_splitOn_sublist (c : Char) (keep : List Char → Bool) (cs : List Char) :
    ([c].intercalate ((cs.splitOn c).filter keep)).Sublist cs := by
  have part := intercalate_sublist c (List.filter_sublist (p := keep) (l := cs.splitOn c))
  rwa [List.intercalate_splitOn] at part

/-! ## Taking apart what was put together -/

/-- What can stand between separators. -/
def IsPiece (piece : String) : Prop :=
  piece ≠ "" ∧ '/' ∉ piece.toList

variable {p : Path}

theorem isPiece_of_mem_pieces {piece : String} (h : piece ∈ p.pieces) : IsPiece piece := by
  obtain ⟨cs, member, rfl⟩ := List.mem_map.mp h
  obtain ⟨split, nonempty⟩ := List.mem_filter.mp member
  refine ⟨?_, ?_⟩
  · intro empty
    obtain rfl : cs = [] := by simpa using congrArg String.toList empty
    cases nonempty
  · rw [String.toList_ofList]
    exact Text.not_mem_of_mem_splitOn split

theorem map_toList_pieces :
    p.pieces.map String.toList = (p.text.toList.splitOn '/').filter (!·.isEmpty) := by
  rw [pieces, List.map_map]
  simp [Function.comp_def]

/-- The pieces of a path in front of which another separator is put. -/
theorem pieces_cons_slash (front : List Char) (rest : String) (h : '/' ∉ front) :
    (Path.mk (String.ofList (front ++ ['/']) ++ rest)).pieces =
      (if front.isEmpty then [] else [String.ofList front]) ++ (Path.mk rest).pieces := by
  rw [pieces, pieces, String.toList_append, String.toList_ofList, List.append_assoc,
    List.singleton_append, List.splitOn_append_cons_self_of_not_mem h]
  cases front with
  | nil => rfl
  | cons c cs => rfl

/-- Of pieces none is left out for being empty. -/
theorem filter_map_toList {pieces : List String} (h : ∀ piece ∈ pieces, IsPiece piece) :
    (pieces.map String.toList).filter (!·.isEmpty) = pieces.map String.toList := by
  rw [List.filter_eq_self]
  intro cs member
  obtain ⟨piece, there, rfl⟩ := List.mem_map.mp member
  have nonempty := (h piece there).1
  simpa using nonempty

theorem pieces_intercalate {pieces : List String} (h : ∀ piece ∈ pieces, IsPiece piece) :
    (Path.mk ("/".intercalate pieces)).pieces = pieces := by
  by_cases none_there : pieces = []
  · subst none_there
    decide
  · have split : ("/".intercalate pieces).toList.splitOn '/' = pieces.map String.toList := by
      rw [String.toList_intercalate]
      refine List.splitOn_intercalate '/' ?_ (by simpa using none_there)
      intro cs member
      obtain ⟨piece, there, rfl⟩ := List.mem_map.mp member
      exact (h piece there).2
    rw [Path.pieces, split, filter_map_toList h, List.map_map]
    simp [Function.comp_def]

/-- A separator at the end adds no piece. -/
theorem pieces_intercalate_slash {pieces : List String} (h : ∀ piece ∈ pieces, IsPiece piece)
    (some_there : pieces ≠ []) :
    (Path.mk ("/".intercalate pieces ++ "/")).pieces = pieces := by
  have text : ("/".intercalate pieces ++ "/").toList =
      ['/'].intercalate (pieces.map String.toList ++ [[]]) := by
    rw [Text.intercalate_concat _ (by simpa using some_there), String.toList_append,
      String.toList_intercalate]
    rfl
  have split : ("/".intercalate pieces ++ "/").toList.splitOn '/' =
      pieces.map String.toList ++ [[]] := by
    rw [text]
    refine List.splitOn_intercalate '/' ?_ (by simp)
    intro cs member
    rcases List.mem_append.mp member with member | last
    · obtain ⟨piece, there, rfl⟩ := List.mem_map.mp member
      exact (h piece there).2
    · rw [List.mem_singleton.mp last]
      exact List.not_mem_nil
  rw [Path.pieces, split, List.filter_append, filter_map_toList h, List.map_append, List.map_map]
  simp [Function.comp_def]

/-! ## Paths that are written as texts -/

@[simp] theorem shown_ofText (s : String) : (ofText s).shown = s :=
  Text.widen_narrow s

@[simp] theorem ofText_inj {s t : String} : ofText s = ofText t ↔ s = t := by
  rw [ofText, ofText, mk.injEq, Text.narrow_inj]

/-- The pieces of a text are spelled each by itself. -/
theorem pieces_ofText (s : String) : (ofText s).pieces = (Path.mk s).pieces.map Text.narrow := by
  have cut := @Text.splitOn_spelling '/' (by decide) s.toList
  have filled (part : List Char) : (Text.spelling part).isEmpty = part.isEmpty := by
    cases part with
    | nil => rfl
    | cons c cs => simp [Text.spelling, String.utf8EncodeChar_ne_nil]
  rw [pieces, pieces, ofText, Text.toList_narrow, cut, List.filter_map, List.map_map, List.map_map]
  simp only [Function.comp_def, filled, Text.narrow_ofList]

theorem names_ofText (s : String) : (ofText s).names = (Path.mk s).names.map Text.narrow := by
  have ordinary (piece : String) : Text.narrow piece = "." ↔ piece = "." := by
    conv => lhs; rhs; rw [← Text.narrow_dot]
    exact Text.narrow_inj
  rw [names, names, pieces_ofText, List.filter_map]
  simp only [Function.comp_def, ne_eq, ordinary]

theorem isAbsolute_ofText (s : String) : (ofText s).isAbsolute = (Path.mk s).isAbsolute := by
  rw [isAbsolute, isAbsolute, ofText, Text.toList_narrow, decide_eq_decide,
    Text.head?_spelling (by decide)]

/-! ## Joining -/

/-- A separator keeps the pieces on its two sides apart. -/
theorem pieces_append_slash (front rest : List Char) :
    (Path.mk (String.ofList (front ++ '/' :: rest))).pieces =
      (Path.mk (String.ofList front)).pieces ++ (Path.mk (String.ofList rest)).pieces := by
  simp only [pieces, String.toList_ofList]
  rw [List.splitOn_append_cons_self, List.filter_append, List.map_append]

/-- A separator at the end is there to keep pieces apart, and is none itself. -/
theorem exists_front_of_endsWithSlash (h : p.endsWithSlash = true) :
    ∃ front, p.text.toList = front ++ ['/'] ∧
      (Path.mk (String.ofList front)).pieces = p.pieces := by
  have last : p.text.toList.getLast? = some '/' := by simpa [endsWithSlash] using h
  obtain ⟨front, text⟩ := List.getLast?_eq_some_iff.mp last
  refine ⟨front, text, ?_⟩
  have split := pieces_append_slash front []
  rw [← text, String.ofList_toList] at split
  rw [split]
  exact (List.append_nil _).symm

theorem pieces_join {base rest : Path} (relative : rest.isAbsolute = false) :
    (base.join rest).pieces = base.pieces ++ rest.pieces := by
  rw [join, if_neg (by rw [relative]; decide)]
  split
  · next noSeparator =>
    rcases Bool.or_eq_true_iff.mp noSeparator with empty | slash
    · have none_there : base.text = "" := by simpa using empty
      have no_pieces : base.pieces = [] := by
        rw [pieces, none_there]
        decide
      rw [none_there, String.empty_append, no_pieces, List.nil_append]
    · obtain ⟨front, text, same⟩ := exists_front_of_endsWithSlash slash
      have split := pieces_append_slash front rest.text.toList
      rw [List.append_cons, ← text, String.ofList_append, String.ofList_toList,
        String.ofList_toList, same] at split
      exact split
  · have split := pieces_append_slash base.text.toList rest.text.toList
    rw [List.append_cons, String.ofList_append, String.ofList_append, String.ofList_toList,
      String.ofList_toList] at split
    exact split

theorem names_join {base rest : Path} (relative : rest.isAbsolute = false) :
    (base.join rest).names = base.names ++ rest.names := by
  rw [names, pieces_join relative, List.filter_append, names, names]

theorem isAbsolute_join {base rest : Path} (relative : rest.isAbsolute = false) :
    (base.join rest).isAbsolute = base.isAbsolute := by
  have first : rest.text.toList.head? ≠ some '/' := by simpa [isAbsolute] using relative
  rw [join, if_neg (by rw [relative]; decide)]
  cases text : base.text.toList with
  | nil =>
    have none_there : base.text = "" := by simpa using text
    simp [isAbsolute, none_there, first]
  | cons c cs =>
    split <;> simp [isAbsolute, text]

/-- Of paths that are alike in where they start, what is joined to a directory tells which one it
was. -/
theorem join_inj {base rest rest' : Path} (alike : rest.isAbsolute = rest'.isAbsolute) :
    base.join rest = base.join rest' ↔ rest = rest' := by
  refine ⟨fun same => ?_, fun same => by rw [same]⟩
  rw [join, join, alike] at same
  split at same
  · exact same
  · have texts : rest.text = rest'.text := by
      split at same <;> simpa using same
    exact congrArg Path.mk texts

theorem pieces_of_isPiece (h : IsPiece p.text) : p.pieces = [p.text] := by
  have pieces_there : ∀ piece ∈ [p.text], IsPiece piece := by
    intro piece member
    rwa [List.mem_singleton.mp member]
  have one := pieces_intercalate pieces_there
  rwa [String.intercalate_singleton] at one

/-- A path that is one piece leads along this name only. -/
theorem names_of_isPiece (h : IsPiece p.text) (ordinary : p.text ≠ ".") : p.names = [p.text] := by
  rw [names, pieces_of_isPiece h]
  simp [ordinary]

/-! ## Paths that can be looked up -/

/-- The path is refused for nothing in its text. -/
structure Usable (p : Path) : Prop where
  noNul : '\x00' ∉ p.text.toList
  nonempty : p.text ≠ ""
  short : p.text.length < FileSystem.pathLimit

/-- Where a slot is looked for: along all pieces but the last. -/
def above (p : Path) : Path :=
  ⟨(if p.isAbsolute then "/" else "./") ++ "/".intercalate p.pieces.dropLast⟩

theorem isAbsolute_above (p : Path) : p.above.isAbsolute = p.isAbsolute := by
  unfold above
  cases h : p.isAbsolute <;> simp [isAbsolute]

theorem pieces_above (p : Path) :
    p.above.pieces = (if p.isAbsolute then [] else ["."]) ++ p.pieces.dropLast := by
  have pieces_there : ∀ piece ∈ p.pieces.dropLast, IsPiece piece := fun piece member =>
    isPiece_of_mem_pieces ((List.dropLast_sublist _).subset member)
  unfold above
  cases p.isAbsolute with
  | true =>
    have split := pieces_cons_slash [] ("/".intercalate p.pieces.dropLast) (by decide)
    rw [pieces_intercalate pieces_there] at split
    exact split
  | false =>
    have split := pieces_cons_slash ['.'] ("/".intercalate p.pieces.dropLast) (by decide)
    rw [pieces_intercalate pieces_there] at split
    exact split

/-- The pieces with a separator between any two are a part of the text, with the one at the front
of an absolute path. -/
theorem intercalate_pieces_sublist (p : Path) :
    ((if p.isAbsolute then ['/'] else []) ++
      ['/'].intercalate (p.pieces.map String.toList)).Sublist p.text.toList := by
  rw [map_toList_pieces]
  cases absolute : p.isAbsolute with
  | false => exact intercalate_filter_splitOn_sublist '/' _ p.text.toList
  | true =>
    obtain ⟨rest, text⟩ : ∃ rest, p.text.toList = '/' :: rest := by
      cases text : p.text.toList with
      | nil => simp [isAbsolute, text] at absolute
      | cons c cs =>
        obtain rfl : c = '/' := by simpa [isAbsolute, text] using absolute
        exact ⟨cs, rfl⟩
    have split : ('/' :: rest).splitOn '/' = [] :: rest.splitOn '/' :=
      List.splitOn_append_cons_self_of_not_mem List.not_mem_nil rest
    rw [text, split, List.filter_cons_of_neg (by decide)]
    exact (intercalate_filter_splitOn_sublist '/' _ rest).cons_cons '/'

theorem toList_sublist_of_mem_pieces {piece : String} (h : piece ∈ p.pieces) :
    piece.toList.Sublist p.text.toList := by
  have one := intercalate_sublist '/' ((List.singleton_sublist.mpr h).map String.toList)
  rw [List.map_singleton, List.intercalate_singleton] at one
  exact one.trans ((List.sublist_append_right _ _).trans p.intercalate_pieces_sublist)

/-- Whatever is in front of the last piece is a part of the text. -/
theorem above_sublist {front : List String} {last : String} (h : p.pieces = front ++ [last]) :
    ((if p.isAbsolute then ['/'] else []) ++ ['/'].intercalate (front.map String.toList) ++
      (if front.isEmpty then [] else '/' :: last.toList)).Sublist p.text.toList := by
  refine List.Sublist.trans ?_ p.intercalate_pieces_sublist
  rw [h, List.append_assoc, List.map_append]
  refine List.Sublist.append_left ?_ _
  cases front with
  | nil => exact List.nil_sublist _
  | cons piece rest =>
    rw [List.map_singleton, Text.intercalate_concat _ (by simp)]
    exact List.Sublist.refl _

theorem toList_above (p : Path) :
    p.above.text.toList = (if p.isAbsolute then ['/'] else ['.', '/']) ++
      ['/'].intercalate (p.pieces.dropLast.map String.toList) := by
  unfold above
  rw [String.toList_append, String.toList_intercalate]
  cases p.isAbsolute <;> rfl

/-- What leads to the last piece of a path can be looked up if the path can. -/
theorem Usable.above (h : p.Usable) (more : p.pieces ≠ []) : p.above.Usable := by
  obtain ⟨front, last, split⟩ := List.eq_nil_or_concat p.pieces |>.resolve_left more
  rw [List.concat_eq_append] at split
  have part := above_sublist split
  have front_eq : p.pieces.dropLast = front := by rw [split, List.dropLast_concat]
  have text := p.toList_above
  rw [front_eq] at text
  refine ⟨?_, ?_, ?_⟩
  · intro nul
    rw [text, List.mem_append] at nul
    rcases nul with sign | inFront
    · revert sign
      split <;> decide
    · exact h.noNul (part.subset (List.mem_append_left _ (List.mem_append_right _ inFront)))
  · intro empty
    have nothing := congrArg String.toList empty
    rw [text] at nothing
    revert nothing
    split <;> simp
  · have bound := part.length_le
    have short := h.short
    rw [← String.length_toList] at short
    rw [← String.length_toList, text, List.length_append]
    rw [List.length_append, List.length_append] at bound
    cases front with
    | nil =>
      have sign : (if p.isAbsolute then ['/'] else ['.', '/']).length ≤ 2 := by
        split <;> decide
      exact Nat.lt_of_le_of_lt sign (by decide)
    | cons piece rest =>
      have member : last ∈ p.pieces := by
        rw [split]
        simp
      have letter : 0 < last.toList.length :=
        List.length_pos_iff.mpr fun none_there =>
          (isPiece_of_mem_pieces member).1 (String.toList_eq_nil_iff.mp none_there)
      cases absolute : p.isAbsolute with
      | true =>
        simp only [absolute, if_true] at bound ⊢
        omega
      | false =>
        simp only [absolute, List.isEmpty_cons, Bool.false_eq_true, if_false, List.length_nil,
          List.length_cons] at bound ⊢
        omega

end ReleaseBuilder.Path
