/-
# Pairs of quotes

Quotes open and close literals in turn, so they are paired from the left, and an odd last one is
left over. The version is taken from between the last two quotes behind the marker. These are a
pair exactly if no quote is left over. Otherwise the version is what stands between the last
literal and the stray quote.
-/

import ReleaseBuilder.Proofs.Release.Version

namespace ReleaseBuilder.Version

open Text

variable {cs : List Char} {literals : List (List Char)} {stray : Option (List Char)}

/-- A text, the literals in it, and what stands between the last of them and a quote that is left
over. -/
inductive Paired : List Char → List (List Char) → Option (List Char) → Prop
  | done {cs : List Char} (plain : '"' ∉ cs) : Paired cs [] none
  | stray {before behind : List Char} (plain : '"' ∉ before) (last : '"' ∉ behind) :
      Paired (before ++ '"' :: behind) [] (some before)
  | pair {before literal rest : List Char} {literals : List (List Char)}
      {stray : Option (List Char)} (plain : '"' ∉ before) (whole : '"' ∉ literal)
      (goesOn : Paired rest literals stray) :
      Paired (before ++ '"' :: (literal ++ '"' :: rest)) (literal :: literals) stray

/-! ## There is one way to pair -/

/-- The quotes of every text can be paired. -/
theorem exists_paired (cs : List Char) : ∃ literals stray, Paired cs literals stray := by
  match opening : splitFirst? '"' cs with
  | none => exact ⟨[], none, .done (splitFirst?_eq_none_iff.mp opening)⟩
  | some (before, behind) =>
    obtain ⟨split, plain⟩ := eq_append_of_splitFirst? opening
    match closing : splitFirst? '"' behind with
    | none =>
      rw [split]
      exact ⟨[], some before, .stray plain (splitFirst?_eq_none_iff.mp closing)⟩
    | some (literal, rest) =>
      obtain ⟨splitBehind, whole⟩ := eq_append_of_splitFirst? closing
      obtain ⟨literals, stray, goesOn⟩ := exists_paired rest
      rw [split, splitBehind]
      exact ⟨literal :: literals, stray, .pair plain whole goesOn⟩
termination_by cs.length
decreasing_by
  exact Nat.lt_trans (length_lt_of_splitFirst? closing) (length_lt_of_splitFirst? opening)

/-- Two texts before the first quote are the same. -/
theorem eq_of_first_quote {before before' behind behind' : List Char} (plain : '"' ∉ before)
    (plain' : '"' ∉ before') (same : before ++ '"' :: behind = before' ++ '"' :: behind') :
    before = before' ∧ behind = behind' := by
  have splits := congrArg (splitFirst? '"') same
  rw [splitFirst?_append plain, splitFirst?_append plain'] at splits
  exact Prod.mk.inj (Option.some.inj splits)

theorem Paired.unique {others : List (List Char)} {other : Option (List Char)}
    (h : Paired cs literals stray) (h' : Paired cs others other) :
    literals = others ∧ stray = other := by
  induction h generalizing others other with
  | @done cs plain =>
    cases h' with
    | done => exact ⟨rfl, rfl⟩
    | stray | pair => simp at plain
  | @stray before behind plain last =>
    generalize same : before ++ '"' :: behind = cs at h'
    cases h' with
    | done absent => simp [← same] at absent
    | stray plain' =>
      obtain ⟨rfl, -⟩ := eq_of_first_quote plain plain' same
      exact ⟨rfl, rfl⟩
    | pair plain' =>
      obtain ⟨-, rfl⟩ := eq_of_first_quote plain plain' same
      simp at last
  | @pair before literal rest literals stray plain whole goesOn ih =>
    generalize same : before ++ '"' :: (literal ++ '"' :: rest) = cs at h'
    cases h' with
    | done absent => simp [← same] at absent
    | stray plain' last =>
      obtain ⟨-, rfl⟩ := eq_of_first_quote plain plain' same
      simp at last
    | pair plain' whole' goesOn' =>
      obtain ⟨-, sameBehind⟩ := eq_of_first_quote plain plain' same
      obtain ⟨rfl, rfl⟩ := eq_of_first_quote whole whole' sameBehind
      obtain ⟨rfl, rfl⟩ := ih goesOn'
      exact ⟨rfl, rfl⟩

/-! ## The last two quotes -/

/-- The last two quotes stand around the last literal, or one of them is left over and they stand
around what is between the last literal and that one. -/
theorem Paired.around_last {last : List Char} (h : Paired cs literals stray)
    (ends : literals.getLast? = some last) :
    ∃ front back, cs = front ++ '"' :: stray.getD last ++ '"' :: back ∧
      '"' ∉ stray.getD last ∧ '"' ∉ back := by
  induction h with
  | done | stray => cases ends
  | @pair before literal rest literals stray plain whole goesOn ih =>
    cases goesOn with
    | done absent =>
      cases ends
      exact ⟨before, rest, by simp, whole, absent⟩
    | @stray between behind plain' absent =>
      cases ends
      exact ⟨before ++ '"' :: literal, behind, by simp, plain', absent⟩
    | @pair before' literal' rest' literals' _ plain' whole' goesOn' =>
      obtain ⟨front, back, split, noneQuoted, noneBack⟩ := ih (by simpa using ends)
      refine ⟨before ++ '"' :: literal ++ '"' :: front, back, ?_, noneQuoted, noneBack⟩
      rw [split]
      simp

/-- Without a pair there are not two quotes. -/
theorem Paired.lastLiteral?_eq_none (h : Paired cs [] stray) : lastLiteral? cs = none := by
  rw [Option.eq_none_iff_forall_ne_some]
  intro literal found
  obtain ⟨front, quoted, back, split, -⟩ := lastLiteral?_eq_some_iff.mp found
  have two : 2 ≤ cs.count '"' := by
    rw [split]
    simp only [List.count_append, List.count_cons_self]
    omega
  cases h with
  | done plain => simp [List.count_eq_zero.mpr plain] at two
  | stray plain last =>
    simp [List.count_eq_zero.mpr plain, List.count_eq_zero.mpr last] at two

theorem Paired.lastLiteral?_eq_some_iff {last literal : List Char} (h : Paired cs literals stray)
    (ends : literals.getLast? = some last) :
    lastLiteral? cs = some literal ↔ Trimmed (stray.getD last) literal ∧ literal ≠ [] := by
  obtain ⟨front, back, rfl, noneQuoted, noneBack⟩ := h.around_last ends
  rw [lastLiteral?_of_quotes front noneQuoted noneBack, trimmed_iff, Option.ite_none_left_eq_some,
    Option.some.injEq]
  constructor
  · rintro ⟨filled, rfl⟩
    exact ⟨rfl, by simpa using filled⟩
  · rintro ⟨rfl, filled⟩
    exact ⟨by simpa using filled, rfl⟩

/-! ## The version -/

variable {files : FileSystem} {path : Path} {marker version : String}

/-- Behind the last marker of the marker's line there is a literal wherever a version is read. The
version is the last literal, without the blanks around it, unless a quote is left over. Then it is
what stands between the last literal and that quote, and so the literal only by chance. -/
theorem version_is_last_literal_iff (resolved : resolve files path marker = .ok version) :
    ∃ source line tail literals last stray,
      files.read path = .ok (.ofText source) ∧
      MarkerLine marker.toList source.toList line ∧ BehindLast marker.toList line tail ∧
      Paired tail (literals ++ [last]) stray ∧
      Trimmed (stray.getD last) version.toList ∧
      (Trimmed last version.toList ↔
        ∀ between, stray = some between → trimBoth between = trimBoth last) := by
  obtain ⟨source, line, read, picked, front, quoted, back, behind, quotes⟩ :=
    resolve_eq_ok_iff.mp resolved
  have found := lastLiteral?_eq_some_iff.mpr ⟨front, quoted, back, rfl, quotes⟩
  obtain ⟨all, stray, paired⟩ := exists_paired (front ++ '"' :: quoted ++ '"' :: back)
  rcases List.eq_nil_or_concat all with rfl | ⟨literals, last, rfl⟩
  · rw [paired.lastLiteral?_eq_none] at found
    cases found
  · rw [List.concat_eq_append] at paired
    obtain ⟨trimmed, -⟩ := (paired.lastLiteral?_eq_some_iff List.getLast?_concat).mp found
    refine ⟨source, line, _, literals, last, stray, read, picked, behind, paired, trimmed, ?_⟩
    cases stray with
    | none => simpa using trimmed
    | some between =>
      rw [Option.getD_some, trimmed_iff] at trimmed
      simp [trimmed_iff, trimmed, eq_comm]

/-- A line with a version, and a comment behind it with one quote. -/
def inchLine : String := "V \"2.3.1\" // 3.5\" disk"

/-- A source file of that line. -/
def inchSource : FileSystem where
  nodes := [(["version"], .file ⟨0, .ofText inchLine, ⟨0o644, .user⟩⟩)]
  next := 1

/-- The version is the comment up to its quote, and not the literal. -/
theorem version_from_comment :
    resolve inchSource ⟨"version"⟩ "V" = .ok "// 3.5" ∧
      ∃ tail, BehindLast "V".toList inchLine.toList tail ∧
        Paired tail ["2.3.1".toList] (some " // 3.5".toList) ∧
        ¬ Trimmed "2.3.1".toList "// 3.5".toList := by
  have read : inchSource.read ⟨"version"⟩ = .ok (.ofText inchLine) := rfl
  have picked : MarkerLine "V".toList inchLine.toList inchLine.toList :=
    markerLine?_eq_some_iff.mp (by decide +kernel)
  have behind : BehindLast "V".toList inchLine.toList " \"2.3.1\" // 3.5\" disk".toList :=
    afterLast?_eq_some_iff.mp (by decide +kernel)
  have paired :
      Paired " \"2.3.1\" // 3.5\" disk".toList ["2.3.1".toList] (some " // 3.5".toList) :=
    @Paired.pair [' '] "2.3.1".toList " // 3.5\" disk".toList [] _ (by decide) (by decide)
      (@Paired.stray " // 3.5".toList " disk".toList (by decide) (by decide))
  have resolved : resolve inchSource ⟨"version"⟩ "V" = .ok "// 3.5" :=
    resolve_eq_ok_iff.mpr ⟨inchLine, _, read, picked, " \"2.3.1".toList, " // 3.5".toList,
      " disk".toList, behind, by decide, by decide, trimmed_iff.mpr (by decide), by decide⟩
  obtain ⟨source, line, tail, literals, last, stray, readToo, pickedToo, behindToo, pairedToo, -,
    last_iff⟩ := version_is_last_literal_iff resolved
  obtain rfl : inchLine = source := Content.ofText_inj (Except.ok.inj (read.symm.trans readToo))
  obtain rfl : inchLine.toList = line := picked.unique pickedToo
  obtain rfl := behind.unique behindToo
  obtain ⟨sameLast, rfl⟩ := paired.unique pairedToo
  obtain rfl : "2.3.1".toList = last := by simpa using congrArg List.getLast? sameLast
  exact ⟨resolved, _, behind, paired, fun taken => absurd (last_iff.mp taken _ rfl) (by decide)⟩

end ReleaseBuilder.Version
