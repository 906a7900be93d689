/-
# Where the version stands

The version is told by the text of the file alone: the first line with the marker, the last place
of the marker on it, and the last two quotes behind that place. Nothing else in the file can change
it, and where one of the three is missing the failure names the first one that is.
-/

import ReleaseBuilder.Release.Version
import ReleaseBuilder.Proofs.FileSystem.Reading
import ReleaseBuilder.Proofs.Text.Lines
import ReleaseBuilder.Proofs.Text.Parts

namespace ReleaseBuilder.Version

open Text

variable {marker source line literal tail : List Char}

/-! ## The marker's line -/

/-- A line that holds the marker once the blanks around the line are gone. -/
def Marked (marker raw : List Char) : Prop :=
  ∃ core, Trimmed raw core ∧ marker <:+: core

/-- The first marked line of a source text, without the blanks around it. A carriage return is
blank, so it makes no difference whether one belongs to the line or to its ending. -/
def MarkerLine (marker source line : List Char) : Prop :=
  ∃ before raw behind, Lines source (before ++ raw :: behind) ∧ Trimmed raw line ∧
    marker <:+: line ∧ ∀ earlier ∈ before, ¬ Marked marker earlier

theorem marked_iff {raw : List Char} : Marked marker raw ↔ occursIn marker (trimBoth raw) := by
  simp only [Marked, trimmed_iff, exists_eq_left', occursIn_iff_isInfix]

theorem markerLine?_eq_some_iff : markerLine? marker source = some line ↔
    MarkerLine marker source line := by
  rw [markerLine?, List.find?_eq_some_iff_append]
  constructor
  · rintro ⟨holds, cores, coresBehind, split, earlier⟩
    obtain ⟨before, rest, lines, rfl, restCores⟩ := List.map_eq_append_iff.mp split
    obtain ⟨raw, behind, rfl, core, -⟩ := List.map_eq_cons_iff.mp restCores
    refine ⟨before, raw, behind, lines_iff.mpr lines, trimmed_iff.mpr core,
      occursIn_iff_isInfix.mp holds, fun other member marked => ?_⟩
    have unmarked := earlier (trimBoth other) (List.mem_map_of_mem member)
    simp [marked_iff.mp marked] at unmarked
  · rintro ⟨before, raw, behind, lines, trimmed, holds, earlier⟩
    refine ⟨occursIn_iff_isInfix.mpr holds, before.map trimBoth, behind.map trimBoth, ?_, ?_⟩
    · rw [lines_iff.mp lines, List.map_append, List.map_cons, trimmed.eq]
    · intro core member
      obtain ⟨other, there, rfl⟩ := List.mem_map.mp member
      simpa using mt marked_iff.mpr (earlier other there)

theorem MarkerLine.unique {other : List Char} (h : MarkerLine marker source line)
    (h' : MarkerLine marker source other) : line = other :=
  Option.some.inj ((markerLine?_eq_some_iff.mpr h).symm.trans (markerLine?_eq_some_iff.mpr h'))

/-- The lines around the first marked one do not matter. -/
theorem markerLine?_eq_of_lines {before behind : List (List Char)} {raw : List Char}
    (lines : Lines source (before ++ raw :: behind)) (marked : Marked marker raw)
    (earlier : ∀ other ∈ before, ¬ Marked marker other) :
    markerLine? marker source = some (trimBoth raw) :=
  markerLine?_eq_some_iff.mpr ⟨before, raw, behind, lines, trimmed_trimBoth raw,
    occursIn_iff_isInfix.mp (marked_iff.mp marked), earlier⟩

/-! ## The literal on it -/

/-- What stands between the last two quotes behind the last marker on a line, without the blanks
around it, unless it is empty. -/
def Literal (marker line literal : List Char) : Prop :=
  ∃ front quoted back, BehindLast marker line (front ++ '"' :: quoted ++ '"' :: back) ∧
    '"' ∉ quoted ∧ '"' ∉ back ∧ Trimmed quoted literal ∧ literal ≠ []

theorem splitOn_quotes (front : List Char) {quoted back : List Char} (noneQuoted : '"' ∉ quoted)
    (noneBack : '"' ∉ back) :
    (front ++ '"' :: quoted ++ '"' :: back).splitOn '"' = front.splitOn '"' ++ [quoted, back] := by
  rw [List.append_assoc, List.cons_append, List.splitOn_append_cons_self,
    List.splitOn_append_cons_self_of_not_mem noneQuoted, List.splitOn_eq_singleton noneBack]

/-- Two marks at least make three pieces, and the text is put together from them. -/
theorem eq_quotes_of_splitOn {pieces : List (List Char)} {quoted back : List Char}
    (split : tail.splitOn '"' = pieces ++ [quoted, back]) (filled : pieces ≠ []) :
    tail = ['"'].intercalate pieces ++ '"' :: quoted ++ '"' :: back := by
  rw [← intercalate_concat quoted filled, ← intercalate_concat back (by simp),
    List.append_assoc, List.singleton_append, ← split, List.intercalate_splitOn]

/-- What is between the last two quotes is looked at, whatever stands before them. -/
theorem lastLiteral?_of_quotes (front : List Char) {quoted back : List Char}
    (noneQuoted : '"' ∉ quoted) (noneBack : '"' ∉ back) :
    lastLiteral? (front ++ '"' :: quoted ++ '"' :: back) =
      if (trimBoth quoted).isEmpty then none else some (trimBoth quoted) := by
  obtain ⟨piece, more, pieces⟩ :=
    List.exists_cons_of_ne_nil (mt List.reverse_eq_nil_iff.mp (List.splitOn_ne_nil '"' front))
  have reversed : ((front ++ '"' :: quoted ++ '"' :: back).splitOn '"').reverse =
      back :: quoted :: piece :: more := by
    rw [splitOn_quotes front noneQuoted noneBack, List.reverse_append, pieces]
    rfl
  rw [lastLiteral?, reversed]

theorem lastLiteral?_eq_some_iff : lastLiteral? tail = some literal ↔
    ∃ front quoted back, tail = front ++ '"' :: quoted ++ '"' :: back ∧
      '"' ∉ quoted ∧ '"' ∉ back ∧ Trimmed quoted literal ∧ literal ≠ [] := by
  constructor
  · intro found
    rw [lastLiteral?] at found
    split at found
    · next back quoted piece more reversed =>
      have split : tail.splitOn '"' = (more.reverse ++ [piece]) ++ [quoted, back] := by
        rw [← List.reverse_reverse (tail.splitOn '"'), reversed]
        simp
      have noneIn : ∀ part ∈ [quoted, back], '"' ∉ part := fun part member =>
        not_mem_of_mem_splitOn (split ▸ List.mem_append_right _ member)
      refine ⟨_, quoted, back, eq_quotes_of_splitOn split (by simp), noneIn quoted (by simp),
        noneIn back (by simp), ?_⟩
      dsimp only at found
      split at found
      · cases found
      · next filled =>
        cases found
        exact ⟨trimmed_trimBoth quoted, by simpa using filled⟩
    · cases found
  · rintro ⟨front, quoted, back, rfl, noneQuoted, noneBack, trimmed, filled⟩
    rw [lastLiteral?_of_quotes front noneQuoted noneBack]
    simp [trimmed.eq, filled]

theorem literalAfter?_eq_some_iff : literalAfter? marker line = some literal ↔
    Literal marker line literal := by
  rw [literalAfter?, Option.bind_eq_some_iff]
  simp only [afterLast?_eq_some_iff, lastLiteral?_eq_some_iff]
  constructor
  · rintro ⟨tail, behind, front, quoted, back, rfl, literal⟩
    exact ⟨front, quoted, back, behind, literal⟩
  · rintro ⟨front, quoted, back, behind, literal⟩
    exact ⟨_, behind, front, quoted, back, rfl, literal⟩

theorem Literal.subset (h : Literal marker line literal) : literal ⊆ line := by
  obtain ⟨front, quoted, back, behind, -, -, trimmed, -⟩ := h
  have within : quoted <:+: marker ++ (front ++ '"' :: quoted ++ '"' :: back) :=
    ⟨marker ++ front ++ ['"'], '"' :: back, by simp⟩
  exact List.Subset.trans trimmed.subset (within.trans behind.occurs.isInfix).subset

theorem Literal.not_quote_mem (h : Literal marker line literal) : '"' ∉ literal := by
  obtain ⟨_, quoted, _, -, noneQuoted, -, trimmed, -⟩ := h
  exact fun member => noneQuoted (trimmed.subset member)

theorem Literal.bare (h : Literal marker line literal) : Bare literal := by
  obtain ⟨_, _, _, -, -, -, trimmed, -⟩ := h
  exact trimmed.bare

theorem Literal.ne_nil (h : Literal marker line literal) : literal ≠ [] := by
  obtain ⟨_, _, _, -, -, -, -, filled⟩ := h
  exact filled

theorem MarkerLine.not_feed_mem (h : MarkerLine marker source line) : '\n' ∉ line := by
  obtain ⟨before, raw, behind, lines, trimmed, -⟩ := h
  exact fun member => lines.whole_of_mem (by simp) (trimmed.subset member)

/-- Behind the last place of the empty text stands nothing. -/
theorem not_literal_of_empty_marker : ¬ Literal [] line literal := by
  rintro ⟨front, quoted, back, behind, -⟩
  have short := behind.shortest [] (List.nil_suffix)
  simp at short

/-! ## The version of the file -/

/-- The version that the file at a path gives for a marker. -/
def Gives (files : FileSystem) (path : Path) (marker version : String) : Prop :=
  ∃ source line, files.read path = .ok (.ofText source) ∧
    MarkerLine marker.toList source.toList line ∧ Literal marker.toList line version.toList

/-- Why the file at a path gives no version for a marker, in the words of the first step that
fails. -/
inductive Lacks (files : FileSystem) (path : Path) (marker : String) : String → Prop
  | unreadable {fault : Fault} (refused : files.read path = .error fault) :
      Lacks files path marker fault.message
  | notText {content : Content} (read : files.read path = .ok content)
      (textless : FileSystem.Textless content) :
      Lacks files path marker "stream did not contain valid UTF-8"
  | noMarker {source : String} (read : files.read path = .ok (.ofText source))
      (absent : ∀ line, ¬ MarkerLine marker.toList source.toList line) :
      Lacks files path marker "no line contains the version marker"
  | noLiteral {source : String} {line : List Char} (read : files.read path = .ok (.ofText source))
      (picked : MarkerLine marker.toList source.toList line)
      (absent : ∀ literal, ¬ Literal marker.toList line literal) :
      Lacks files path marker ("no quoted version in `" ++ String.ofList line ++ "`")

variable {files : FileSystem} {path : Path}

theorem read_eq_ofSource {source : String} (marker : String)
    (read : files.read path = .ok (.ofText source)) :
    Version.read files path marker = ofSource source marker := by
  rw [Version.read, FileSystem.readText_eq_ok_iff.mpr read]

theorem Gives.resolve_eq {version : String} {marker : String}
    (h : Gives files path marker version) : resolve files path marker = .ok version := by
  obtain ⟨source, line, read, picked, literal⟩ := h
  rw [resolve, read_eq_ofSource marker read, ofSource, markerLine?_eq_some_iff.mpr picked]
  simp only [literalAfter?_eq_some_iff.mpr literal, String.ofList_toList]
  rfl

theorem resolve_eq_of_refused {fault : Fault} (marker : String)
    (refused : files.readText path = .error fault) :
    resolve files path marker = .error (.missingVersion path marker fault.message) := by
  rw [resolve, Version.read, refused]
  rfl

theorem Lacks.resolve_eq {marker reason : String} (h : Lacks files path marker reason) :
    resolve files path marker = .error (.missingVersion path marker reason) := by
  cases h with
  | unreadable refused =>
    exact resolve_eq_of_refused marker (FileSystem.readText_eq_error_iff.mpr (.inl refused))
  | notText read textless =>
    exact resolve_eq_of_refused marker
      (FileSystem.readText_eq_error_iff.mpr (.inr ⟨_, read, textless, rfl⟩))
  | noMarker read absent =>
    have nowhere := Option.eq_none_iff_forall_ne_some.mpr fun line =>
      mt markerLine?_eq_some_iff.mp (absent line)
    rw [resolve, read_eq_ofSource marker read, ofSource, nowhere]
    rfl
  | noLiteral read picked absent =>
    have unquoted := Option.eq_none_iff_forall_ne_some.mpr fun literal =>
      mt literalAfter?_eq_some_iff.mp (absent literal)
    rw [resolve, read_eq_ofSource marker read, ofSource, markerLine?_eq_some_iff.mpr picked]
    simp only [unquoted]
    rfl

/-- No file is left without an answer. -/
theorem gives_or_lacks (files : FileSystem) (path : Path) (marker : String) :
    (∃ version, Gives files path marker version) ∨ ∃ reason, Lacks files path marker reason := by
  match read : files.read path with
  | .error fault => exact .inr ⟨_, .unreadable read⟩
  | .ok content =>
    by_cases textless : FileSystem.Textless content
    · exact .inr ⟨_, .notText read textless⟩
    · obtain ⟨source, rfl⟩ := Classical.not_forall_not.mp textless
      by_cases picked : ∃ line, MarkerLine marker.toList source.toList line
      · obtain ⟨line, here⟩ := picked
        by_cases quoted : ∃ literal, Literal marker.toList line literal
        · obtain ⟨literal, there⟩ := quoted
          rw [← String.toList_ofList (l := literal)] at there
          exact .inl ⟨String.ofList literal, source, line, read, here, there⟩
        · exact .inr ⟨_, .noLiteral read here (not_exists.mp quoted)⟩
      · exact .inr ⟨_, .noMarker read (not_exists.mp picked)⟩

theorem resolve_eq_ok_iff {marker version : String} :
    resolve files path marker = .ok version ↔ Gives files path marker version := by
  refine ⟨fun resolved => ?_, Gives.resolve_eq⟩
  rcases gives_or_lacks files path marker with ⟨other, gives⟩ | ⟨reason, lacks⟩
  · rw [gives.resolve_eq, Except.ok.injEq] at resolved
    exact resolved ▸ gives
  · rw [lacks.resolve_eq] at resolved
    cases resolved

theorem resolve_eq_error_iff {marker : String} {failure : Failure} :
    resolve files path marker = .error failure ↔
      ∃ reason, Lacks files path marker reason ∧ failure = .missingVersion path marker reason := by
  constructor
  · intro refused
    rcases gives_or_lacks files path marker with ⟨version, gives⟩ | ⟨reason, lacks⟩
    · rw [gives.resolve_eq] at refused
      cases refused
    · rw [lacks.resolve_eq, Except.error.injEq] at refused
      exact ⟨reason, lacks, refused.symm⟩
  · rintro ⟨reason, lacks, rfl⟩
    exact lacks.resolve_eq

theorem Gives.wellFormed {marker version : String} (h : Gives files path marker version) :
    version ≠ "" ∧ '"' ∉ version.toList ∧ '\n' ∉ version.toList ∧ Bare version.toList := by
  obtain ⟨source, line, read, picked, literal⟩ := h
  refine ⟨fun empty => literal.ne_nil (by rw [empty]; rfl), literal.not_quote_mem,
    fun member => picked.not_feed_mem (literal.subset member), literal.bare⟩

/-- The version is the text between the last two quotes behind the last marker on the first line
with the marker, and where there is none the failure carries the place, the marker and the words of
the step that failed first. A version is never empty, has no quote, no line feed and no blank at
its ends. What stands on other lines than the marker's does not matter as long as no earlier line
gets the marker, and the empty marker gives no version. -/
theorem resolve_by_marker_line (files : FileSystem) (path : Path) (marker : String) :
    (∀ version, resolve files path marker = .ok version ↔ Gives files path marker version) ∧
    (∀ failure, resolve files path marker = .error failure ↔
      ∃ reason, Lacks files path marker reason ∧ failure = .missingVersion path marker reason) ∧
    (∀ version, resolve files path marker = .ok version →
      version ≠ "" ∧ '"' ∉ version.toList ∧ '\n' ∉ version.toList ∧ Bare version.toList) ∧
    (∀ (other : FileSystem) (source changed : String)
        (before behind before' behind' : List (List Char)) (raw : List Char),
      files.read path = .ok (.ofText source) → other.read path = .ok (.ofText changed) →
      Lines source.toList (before ++ raw :: behind) →
      Lines changed.toList (before' ++ raw :: behind') → Marked marker.toList raw →
      (∀ earlier ∈ before ++ before', ¬ Marked marker.toList earlier) →
      resolve other path marker = resolve files path marker) ∧
    (marker = "" → ∀ version, resolve files path marker ≠ .ok version) := by
  refine ⟨fun version => resolve_eq_ok_iff, fun failure => resolve_eq_error_iff,
    fun version resolved => (resolve_eq_ok_iff.mp resolved).wellFormed, ?_, ?_⟩
  · intro other source changed before behind before' behind' raw read readOther lines linesOther
      marked unmarked
    have here := markerLine?_eq_of_lines lines marked fun earlier member =>
      unmarked earlier (List.mem_append_left before' member)
    have hereOther := markerLine?_eq_of_lines linesOther marked fun earlier member =>
      unmarked earlier (List.mem_append_right before member)
    rw [resolve, resolve, read_eq_ofSource marker readOther, read_eq_ofSource marker read, ofSource,
      ofSource, here, hereOther]
  · rintro rfl version resolved
    obtain ⟨source, line, read, picked, literal⟩ := resolve_eq_ok_iff.mp resolved
    exact not_literal_of_empty_marker literal

end ReleaseBuilder.Version
