/-
# Documents of plain lines

A document may be nothing but lines that each give a bare name a value. It is then read line by
line, and its entries are those of the lines, in order, as long as no name comes twice.
-/

import ReleaseBuilder.Proofs.Toml.Values
import ReleaseBuilder.Toml.Reading

namespace ReleaseBuilder.Toml

open Expression (assignment? depthLimit dottedKey? dropGaps dropSpacing isBare readAll? simpleKey?
  value?)

/-- A line that gives a name a value. -/
def line (name : String) (text : List Char) : List Char :=
  name.toList ++ ' ' :: '=' :: ' ' :: text

/-- What follows the text of a line: its ending and what is behind it. The last line needs no
ending. -/
inductive Ended : List Char → List Char → Prop
  | last : Ended [] []
  | feed {later : List Char} : Ended ('\n' :: later) later
  | pair {later : List Char} : Ended ('\r' :: '\n' :: later) later

/-- A text of lines, one for each element of a list. -/
inductive Lines {α : Type} (key : α → String) (one : α → List Char → Prop) :
    List α → List Char → Prop
  | nil : Lines key one [] []
  | cons {a : α} {as : List α} {text rest later : List Char} (written : one a text)
      (ended : Ended rest later) (goesOn : Lines key one as later) :
      Lines key one (a :: as) (line (key a) text ++ rest)

/-- A name that needs no quotes. -/
def BareName (name : String) : Prop :=
  name ≠ "" ∧ name.toList.all isBare = true

instance (name : String) : Decidable (BareName name) :=
  inferInstanceAs (Decidable (_ ∧ _))

variable {name : String} {text rest : List Char} {good : Value → Prop}

/-! ## One line -/

/-- What is not read as the beginning of a bare name: a header, a name in quotes, the mark before a
text, or a gap. -/
def openings : List Char := '[' :: '"' :: '\'' :: '\uFEFF' :: gapMarks

theorem notMem_openings_of_isBare {c : Char} (bare : isBare c = true) : c ∉ openings := by
  intro opening
  have noBare : openings.all (fun d => !isBare d) = true := by decide
  simpa [bare] using List.all_eq_true.mp noBare c opening

theorem BareName.exists_cons (bare : BareName name) :
    ∃ c cs, name.toList = c :: cs ∧ c ∉ openings := by
  obtain ⟨filled, all⟩ := bare
  obtain ⟨c, cs, split⟩ := List.exists_cons_of_ne_nil (mt String.toList_eq_nil_iff.mp filled)
  rw [split, List.all_cons, Bool.and_eq_true] at all
  exact ⟨c, cs, split, notMem_openings_of_isBare all.1⟩

theorem dropSpacing_of_notMem {c : Char} (solid : c ∉ gapMarks) :
    dropSpacing (c :: rest) = c :: rest := by
  simp only [gapMarks, List.mem_cons, List.not_mem_nil, or_false, not_or] at solid
  exact List.dropWhile_cons_of_neg (by simp [Quotation.isSpacing, solid])

theorem simpleKey?_of_bare (bare : BareName name) {behind : List Char}
    (ends : ∀ c, behind.head? = some c → isBare c = false) :
    ∃ span, simpleKey? (name.toList ++ behind) = some (⟨name, span⟩, behind) := by
  obtain ⟨c, cs, split, apart⟩ := bare.exists_cons
  have taken : (name.toList ++ behind).takeWhile isBare = name.toList := by
    rw [List.takeWhile_append_of_pos (List.all_eq_true.mp bare.2)]
    cases behind with
    | nil => simp
    | cons d behind =>
      rw [List.takeWhile_cons_of_neg (by simp [ends d rfl]), List.append_nil]
  have plain : simpleKey? (name.toList ++ behind) =
      let key := (name.toList ++ behind).takeWhile isBare
      let rest := (name.toList ++ behind).drop key.length
      if key.isEmpty then none
      else some (⟨String.ofList key, .between (name.toList ++ behind) rest⟩, rest) := by
    rw [Expression.simpleKey?.eq_def, split]
    split
    · next same => exact absurd (List.cons.inj same).1 (by rintro rfl; exact apart (by decide))
    · next same => exact absurd (List.cons.inj same).1 (by rintro rfl; exact apart (by decide))
    · rfl
  have filled : name.toList.isEmpty = false := by rw [split]; rfl
  simp only [taken, List.drop_left, filled, String.ofList_toList] at plain
  exact ⟨_, plain⟩

theorem dottedKey?_of_bare (bare : BareName name) (behind : List Char) :
    ∃ span, dottedKey? (name.toList ++ ' ' :: '=' :: behind) =
      some (([], ⟨name, span⟩), '=' :: behind) := by
  have ends : ∀ c, (' ' :: '=' :: behind).head? = some c → isBare c = false := by
    rintro c ⟨⟩
    decide
  obtain ⟨span, simple⟩ := simpleKey?_of_bare bare ends
  obtain ⟨c, cs, split, apart⟩ := bare.exists_cons
  have atStart : dropSpacing (name.toList ++ ' ' :: '=' :: behind) =
      name.toList ++ ' ' :: '=' :: behind := by
    rw [split, List.cons_append]
    exact dropSpacing_of_notMem fun mark => apart (by simp [openings, mark])
  have keys : Expression.keys? (name.toList ++ ' ' :: '=' :: behind) =
      some ([⟨name, span⟩], '=' :: behind) := by
    rw [Expression.keys?.eq_def, atStart, simple]
    rfl
  refine ⟨span, ?_⟩
  rw [dottedKey?, keys]
  rfl

theorem Ended.closed {later : List Char} (ended : Ended rest later) : Closed rest := by
  cases ended with
  | last => rintro c ⟨⟩
  | feed | pair =>
    rintro c ⟨⟩
    decide

theorem Ended.behindLine? {later : List Char} (ended : Ended rest later) :
    Expression.behindLine? rest = some later := by
  cases ended with
  | last | feed | pair => rfl

theorem Ended.length_le {later : List Char} (ended : Ended rest later) :
    later.length ≤ rest.length := by
  cases ended with
  | last => exact Nat.le_refl _
  | feed => exact Nat.le_succ _
  | pair => exact Nat.le_add_right _ 2

theorem read?_of_line (bare : BareName name) (reads : Reads depthLimit text good)
    {later : List Char} (ended : Ended rest later) :
    ∃ span value, Expression.read? (line name text ++ rest) =
      some (.assignment ⟨[], ⟨name, span⟩, value⟩, rest) ∧ good value := by
  obtain ⟨span, key⟩ := dottedKey?_of_bare bare (' ' :: (text ++ rest))
  obtain ⟨value, isRead, isGood⟩ := reads.read rest ended.closed
  obtain ⟨d, behind, begins, solid, -⟩ := reads.begins
  obtain ⟨c, cs, split, apart⟩ := bare.exists_cons
  refine ⟨span, value, ?_, isGood⟩
  have whole : line name text ++ rest = name.toList ++ ' ' :: '=' :: ' ' :: (text ++ rest) := by
    simp [line]
  have atValue : dropSpacing (' ' :: (text ++ rest)) = text ++ rest := by
    rw [begins, List.cons_append]
    exact dropSpacing_of_notMem solid
  have assignment : assignment? (value? depthLimit) (line name text ++ rest) =
      some (⟨[], ⟨name, span⟩, value⟩, rest) := by
    simp only [assignment?, whole, key, atValue, isRead, Option.map_some]
  have noHeader : ∀ more, line name text ++ rest ≠ '[' :: more := by
    rw [whole, split]
    rintro more same
    exact apart (by simp [openings, (List.cons.inj same).1])
  rw [Expression.read?.eq_def]
  split
  · next same => exact absurd same (noHeader _)
  · next same => exact absurd same (noHeader _)
  · rw [assignment]
    rfl

/-! ## All lines -/

section

variable {α : Type} {key : α → String} {one : α → List Char → Prop} {means : Value → α → Prop}
  {as : List α}

/-- What is read of a line is an assignment to its name. -/
def Assigns (key : α → String) (means : Value → α → Prop) (a : α) (assignment : Assignment) :
    Prop :=
  assignment.path = [] ∧ assignment.key.name = key a ∧ means assignment.value a

theorem readAll?_of_line (bare : BareName name) (reads : Reads depthLimit text good)
    {later : List Char} (ended : Ended rest later) :
    ∃ span value, good value ∧ readAll? (line name text ++ rest) =
      (readAll? later).map (.assignment ⟨[], ⟨name, span⟩, value⟩ :: ·) := by
  obtain ⟨span, value, isRead, isGood⟩ := read?_of_line bare reads ended
  obtain ⟨c, cs, split, apart⟩ := bare.exists_cons
  have atStart : dropGaps (line name text ++ rest) = line name text ++ rest := by
    rw [line, split, List.cons_append, List.cons_append]
    exact dropGaps_cons_of_notMem fun mark => apart (by simp [openings, mark])
  have shorter : later.length < (line name text ++ rest).length := by
    have := ended.length_le
    simp only [line, split, List.cons_append, List.length_cons, List.length_append]
    omega
  refine ⟨span, value, isGood, ?_⟩
  rw [readAll?.eq_def, atStart]
  split
  · next empty => simp [line] at empty
  · simp only [isRead, ended.behindLine?, if_pos shorter]

theorem readAll?_of_lines (bare : ∀ a, BareName (key a))
    (reads : ∀ a text, one a text → Reads depthLimit text fun value => means value a)
    (lines : Lines key one as text) :
    ∃ assignments, readAll? text = some (assignments.map .assignment) ∧
      List.Forall₂ (Assigns key means) as assignments := by
  induction lines with
  | nil => exact ⟨[], by rw [readAll?.eq_def, dropGaps.eq_def]; rfl, .nil⟩
  | @cons a as text rest later written ended goesOn ih =>
    obtain ⟨span, value, isGood, isRead⟩ :=
      readAll?_of_line (bare a) (reads a text written) ended
    obtain ⟨assignments, others, assign⟩ := ih
    refine ⟨⟨[], ⟨key a, span⟩, value⟩ :: assignments, ?_, .cons ⟨rfl, rfl, isGood⟩ assign⟩
    rw [isRead, others]
    rfl

theorem sections_of_assignments (assignments : List Assignment) :
    sections (assignments.map .assignment) = (assignments, []) := by
  induction assignments with
  | nil => rfl
  | cons a assignments ih => rw [List.map_cons, sections, ih]

theorem get?_eq_none {t : Table Value} {name : String} (new : name ∉ t.entries.map (·.1.name)) :
    t.get? name = none := by
  rw [Table.get?, Option.map_eq_none_iff, List.find?_eq_none]
  intro entry member same
  exact new (List.mem_map.mpr ⟨entry, member, of_decide_eq_true same⟩)

/-- An entry is the one of a line. -/
def IsEntry (key : α → String) (means : Value → α → Prop) (a : α) (entry : Key × Value) : Prop :=
  entry.1.name = key a ∧ means entry.2 a

theorem fill_cons_of_new {a : Assignment} {t : Table Value} (plain : a.path = [])
    (new : a.key.name ∉ t.entries.map (·.1.name)) (assignments : List Assignment) :
    ∃ span, Expression.fill t (a :: assignments) =
      Expression.fill { t.push a.key a.value with span } assignments := by
  have assigned : t.assign a.path a.key a.value = some (t.push a.key a.value) := by
    rw [plain, Table.assign, Table.along, Table.add, get?_eq_none new]
    rfl
  rw [Expression.fill, assigned]
  exact ⟨_, rfl⟩

/-- Assignments to new names give a table one entry each. -/
theorem fill_of_assigns {assignments : List Assignment} {t : Table Value}
    (assign : List.Forall₂ (Assigns key means) as assignments)
    (apart : (t.entries.map (·.1.name) ++ as.map key).Nodup) :
    ∃ filled later, Expression.fill t assignments = some filled ∧
      filled.entries = t.entries ++ later ∧ List.Forall₂ (IsEntry key means) as later := by
  induction assign generalizing t with
  | nil => exact ⟨t, [], rfl, by simp, .nil⟩
  | @cons a b as assignments assigns others ih =>
    obtain ⟨plain, named, isGood⟩ := assigns
    -- The name moves from those to come to those that are there, and all stay apart.
    have new : b.key.name ∉ t.entries.map (·.1.name) := by
      rw [named]
      exact fun member => (List.nodup_append.mp apart).2.2 _ member _ (by simp) rfl
    have still : ((t.push b.key b.value).entries.map (·.1.name) ++ as.map key).Nodup := by
      simpa [Table.push, named] using apart
    obtain ⟨span, goesOn⟩ := fill_cons_of_new plain new assignments
    obtain ⟨filled, later, isFilled, entries, isEntry⟩ :=
      ih (t := { t.push b.key b.value with span }) still
    exact ⟨filled, (b.key, b.value) :: later, goesOn.trans isFilled, by simp [entries, Table.push],
      .cons ⟨named, isGood⟩ isEntry⟩

theorem dropMark_of_lines (bare : ∀ a, BareName (key a)) (lines : Lines key one as text) :
    dropMark text = text := by
  cases lines with
  | nil => rfl
  | @cons a =>
    obtain ⟨c, cs, split, apart⟩ := (bare a).exists_cons
    rw [line, split, dropMark.eq_def]
    split
    · next same => exact absurd (List.cons.inj same).1 (by rintro rfl; exact apart (by decide))
    · rfl

/-- Lines are read as a document with one entry for each, in order. -/
theorem read?_of_lines (bare : ∀ a, BareName (key a))
    (reads : ∀ a text, one a text → Reads depthLimit text fun value => means value a)
    (apart : (as.map key).Nodup) {source : String} (lines : Lines key one as source.toList) :
    ∃ document, read? source = some document ∧
      List.Forall₂ (IsEntry key means) as document.entries := by
  obtain ⟨assignments, isRead, assign⟩ := readAll?_of_lines bare reads lines
  obtain ⟨document, later, filled, entries, isEntry⟩ :=
    fill_of_assigns (t := .empty .stated) assign (by simpa [Table.empty] using apart)
  refine ⟨document, ?_, by simpa [entries, Table.empty] using isEntry⟩
  rw [read?, dropMark_of_lines bare lines, isRead]
  simp only [sections_of_assignments, ofSections, filled]
  rfl

end

end ReleaseBuilder.Toml
