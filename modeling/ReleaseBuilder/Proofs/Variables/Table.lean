/-
# A table of variables is a finite map

Every table comes about by changes: it is replaced by what a text prints, one name is given a value,
or another table is laid over it. What it says of a name afterwards is what the last change said
that wrote to the name, and its entries are the names that have a value, in the order of their
octets.
-/

import Mathlib.Data.List.Induction
import ReleaseBuilder.Proofs.Text.Lines
import ReleaseBuilder.Proofs.Text.Order
import ReleaseBuilder.Variables

namespace ReleaseBuilder.Variables

variable {v w : Variables} {name value : String}

/-! ## Looking up -/

theorem lookup_cons_eq (name value key : String) (entries : List (String × String)) :
    ((name, value) :: entries).lookup key =
      if key = name then some value else entries.lookup key := by
  rw [List.lookup_cons]
  by_cases found : key = name
  · simp [found]
  · have apart : (key == name) = false := beq_eq_false_iff_ne.mpr found
    simp only [apart, if_neg found]

theorem lookup_insertEntry (name value key : String) (entries : List (String × String)) :
    (insertEntry name value entries).lookup key =
      if key = name then some value else entries.lookup key := by
  induction entries with
  | nil => exact lookup_cons_eq name value key []
  | cons head rest ih =>
    obtain ⟨other, old⟩ := head
    rw [insertEntry]
    split
    · exact lookup_cons_eq name value key _
    · split
      · next above =>
        have apart : other ≠ name := String.ne_of_lt above
        rw [lookup_cons_eq, lookup_cons_eq, ih]
        by_cases found : key = other
        · rw [if_pos found, if_neg (found ▸ apart), if_pos found]
        · rw [if_neg found, if_neg found]
      · next notBelow notAbove =>
        have same : name = other :=
          String.le_antisymm (String.not_lt.mp notAbove) (String.not_lt.mp notBelow)
        subst same
        rw [lookup_cons_eq, lookup_cons_eq]
        by_cases found : key = name
        · rw [if_pos found, if_pos found]
        · rw [if_neg found, if_neg found, if_neg found]

@[simp] theorem get?_empty (name : String) : empty.get? name = none := rfl

@[simp] theorem get?_insert (v : Variables) (name value key : String) :
    (v.insert name value).get? key = if key = name then some value else v.get? key :=
  lookup_insertEntry name value key v.entries

/-- Of several assignments the last one for a name counts. -/
theorem get?_insertAll (v : Variables) (assignments : List (String × String)) (name : String) :
    (v.insertAll assignments).get? name =
      (Command.assigned? assignments name).or (v.get? name) := by
  induction assignments generalizing v with
  | nil => rfl
  | cons a rest ih =>
    have first : (v.insertAll (a :: rest)).get? name =
        ((v.insert a.1 a.2).insertAll rest).get? name := rfl
    rw [first, ih, get?_insert, Command.assigned?, Command.assigned?, List.reverse_cons,
      List.lookup_append, Option.or_assoc]
    have alone : [a].lookup name = if name = a.1 then some a.2 else none :=
      lookup_cons_eq a.1 a.2 name []
    rw [alone]
    by_cases same : name = a.1
    · rw [if_pos same, if_pos same, Option.some_or]
    · rw [if_neg same, if_neg same, Option.none_or]

/-! ## The entries -/

/-- In the order of the names no name comes twice. -/
theorem nodup_names (v : Variables) : (v.entries.map Prod.fst).Nodup := by
  rw [List.Nodup, List.pairwise_map]
  exact v.ascending.imp fun less => String.ne_of_lt less

theorem pairwise_octets (v : Variables) :
    (v.entries.map Prod.fst).Pairwise fun a b => Text.octets a < Text.octets b := by
  rw [List.pairwise_map]
  exact v.ascending.imp Text.octets_lt_of_lt

/-- Where no name comes twice, looking a name up finds the entry that is there. -/
theorem lookup_eq_some_iff_mem {entries : List (String × String)}
    (distinct : (entries.map Prod.fst).Nodup) :
    entries.lookup name = some value ↔ (name, value) ∈ entries := by
  rw [List.lookup_eq_some_iff]
  constructor
  · rintro ⟨before, after, rfl, -⟩
    simp
  · intro member
    obtain ⟨before, after, rfl⟩ := List.append_of_mem member
    refine ⟨before, after, rfl, fun entry earlier => ?_⟩
    rw [List.map_append, List.nodup_append] at distinct
    have apart := distinct.2.2 entry.1 (List.mem_map_of_mem earlier) name (by simp)
    simpa using Ne.symm apart

theorem mem_entries_iff : (name, value) ∈ v.entries ↔ v.get? name = some value :=
  (lookup_eq_some_iff_mem v.nodup_names).symm

/-- Making the assignments of a table gives each name the value it has there. -/
theorem assigned?_entries (v : Variables) (name : String) :
    Command.assigned? v.entries name = v.get? name := by
  have distinct : (v.entries.reverse.map Prod.fst).Nodup :=
    (v.entries.reverse_perm.map Prod.fst).nodup_iff.mpr v.nodup_names
  refine Option.ext fun value => ?_
  rw [Command.assigned?, lookup_eq_some_iff_mem distinct, List.mem_reverse, mem_entries_iff]

theorem get?_merge (v other : Variables) (name : String) :
    (v.merge other).get? name = (other.get? name).or (v.get? name) := by
  rw [merge, get?_insertAll, assigned?_entries]

/-! ## The last of a list -/

/-- Some element of a list has `P`, and all those behind it have `Q`. -/
def Latest {α : Type} (P Q : α → Prop) (list : List α) : Prop :=
  ∃ before a behind, list = before ++ a :: behind ∧ P a ∧ ∀ b ∈ behind, Q b

theorem not_latest_nil {α : Type} {P Q : α → Prop} : ¬ Latest P Q [] := by
  rintro ⟨before, a, behind, split, -⟩
  simp at split

/-- The last element decides, or it leaves the matter to those before it. -/
theorem latest_concat {α : Type} {P Q : α → Prop} {list : List α} {last : α} :
    Latest P Q (list ++ [last]) ↔ P last ∨ Q last ∧ Latest P Q list := by
  constructor
  · rintro ⟨before, a, behind, split, holds, later⟩
    rcases List.eq_nil_or_concat behind with rfl | ⟨between, b, rfl⟩
    · obtain ⟨-, same⟩ := List.append_inj' split rfl
      cases same
      exact .inl holds
    · rw [List.concat_eq_append] at split later
      rw [← List.cons_append, ← List.append_assoc] at split
      obtain ⟨same, sameLast⟩ := List.append_inj' split rfl
      cases sameLast
      refine .inr ⟨later last (by simp), before, a, between, same, holds, fun c member => ?_⟩
      exact later c (List.mem_append_left _ member)
  · rintro (holds | ⟨goesOn, before, a, behind, rfl, holds, later⟩)
    · exact ⟨list, last, [], rfl, holds, nofun⟩
    · refine ⟨before, a, behind ++ [last], by simp, holds, fun c member => ?_⟩
      rcases List.mem_append.mp member with member | isLast
      · exact later c member
      · exact List.mem_singleton.mp isLast ▸ goesOn

/-! ## Reading lines -/

/-- A line sets a name to a value: the name, which is not empty, stands before its first equals
sign, and the value behind it. -/
def Sets (line : List Char) (name value : String) : Prop :=
  name ≠ "" ∧ '=' ∉ name.toList ∧ line = name.toList ++ '=' :: value.toList

/-- The last of the lines that set a name sets it to this value. -/
def LastSets (lines : List (List Char)) (name value : String) : Prop :=
  Latest (Sets · name value) (fun line => ∀ other, ¬ Sets line name other) lines

theorem ofLine?_eq_some_iff {line : List Char} :
    ofLine? line = some (name, value) ↔ Sets line name value := by
  constructor
  · intro set
    rw [ofLine?] at set
    split at set
    · next front back found =>
      obtain ⟨split, plain⟩ := Text.eq_append_of_splitFirst? found
      split at set
      · cases set
      · next filled =>
        cases set
        refine ⟨?_, ?_, ?_⟩
        · simpa using filled
        · simpa using plain
        · simpa using split
    · cases set
  · rintro ⟨filled, plain, rfl⟩
    rw [ofLine?, Text.splitFirst?_append plain]
    simp [filled]

theorem assigned?_concat (assignments : List (String × String)) (a : String × String)
    (name : String) :
    Command.assigned? (assignments ++ [a]) name =
      if name = a.1 then some a.2 else Command.assigned? assignments name := by
  rw [Command.assigned?, List.reverse_concat]
  exact lookup_cons_eq a.1 a.2 name assignments.reverse

theorem assigned?_filterMap_ofLine? {lines : List (List Char)} :
    Command.assigned? (lines.filterMap ofLine?) name = some value ↔ LastSets lines name value := by
  induction lines using List.reverseRecOn with
  | nil => exact iff_of_false nofun not_latest_nil
  | append_singleton lines line ih =>
    rw [LastSets, latest_concat, ← LastSets, ← ih, List.filterMap_append]
    cases set : ofLine? line with
    | none =>
      have sets_nothing : ∀ other, ¬ Sets line name other := fun other sets => by
        rw [ofLine?_eq_some_iff.mpr sets] at set
        cases set
      simp [set, sets_nothing]
    | some a =>
      obtain ⟨key, content⟩ := a
      have sets_iff : ∀ other, Sets line name other ↔ key = name ∧ content = other := by
        intro other
        rw [← ofLine?_eq_some_iff, set, Option.some.injEq, Prod.mk.injEq]
      simp only [sets_iff, List.filterMap_cons, set, List.filterMap_nil, assigned?_concat]
      by_cases same : name = key
      · simp [same]
      · simp [same, Ne.symm same]

theorem get?_parse {table : String} {lines : List (List Char)}
    (falls : Text.Lines table.toList lines) :
    (parse table).get? name = some value ↔ LastSets lines name value := by
  rw [parse, get?_insertAll, get?_empty, Option.or_none, Text.lines_iff.mp falls]
  exact assigned?_filterMap_ofLine?

/-! ## Changes -/

/-- One change of a table. -/
inductive Change where
  /-- What a text prints takes the place of the table. -/
  | parse (table : String)
  | insert (name value : String)
  | merge (other : Variables)

namespace Change

/-- The table behind a change. -/
def made (v : Variables) : Change → Variables
  | parse table => Variables.parse table
  | insert name value => v.insert name value
  | merge other => v.merge other

/-- Whether a change leaves nothing of the table before it. -/
def replaces : Change → Bool
  | parse _ => true
  | insert _ _ | merge _ => false

/-- A change writes a value to a name. -/
inductive Writes : Change → String → String → Prop
  | parse {table : String} {lines : List (List Char)} {name value : String}
      (falls : Text.Lines table.toList lines) (set : LastSets lines name value) :
      Writes (.parse table) name value
  | insert {name value : String} : Writes (.insert name value) name value
  | merge {other : Variables} {name value : String} (there : other.get? name = some value) :
      Writes (.merge other) name value

/-- What a change writes to a name. -/
def written? (name : String) : Change → Option String
  | parse table => (Variables.parse table).get? name
  | insert key value => if name = key then some value else none
  | merge other => other.get? name

theorem writes_iff {c : Change} : c.Writes name value ↔ c.written? name = some value := by
  constructor
  · intro writes
    cases writes with
    | parse falls set => exact (get?_parse falls).mpr set
    | insert => exact if_pos rfl
    | merge there => exact there
  · intro written
    cases c with
    | parse table =>
      have falls := Text.lines_linesOf table.toList
      exact .parse falls ((get?_parse falls).mp written)
    | insert key content =>
      rw [written?] at written
      split at written
      · next same =>
        cases written
        exact same ▸ .insert
      · cases written
    | merge other => exact .merge written

/-- A change has the say on the names it writes to, and leaves the others alone unless it replaces
the table. -/
theorem get?_made (v : Variables) (c : Change) (name : String) :
    (c.made v).get? name =
      (c.written? name).or (if c.replaces then none else v.get? name) := by
  cases c with
  | parse table => exact (Option.or_none).symm
  | insert key content =>
    rw [made, get?_insert, written?]
    split <;> rfl
  | merge other => exact get?_merge v other name

theorem get?_made_eq_some_iff {c : Change} :
    (c.made v).get? name = some value ↔
      c.Writes name value ∨
        (c.replaces = false ∧ ∀ other, ¬ c.Writes name other) ∧ v.get? name = some value := by
  simp only [get?_made, writes_iff]
  cases c.written? name with
  | none => cases c.replaces <;> simp
  | some content => simp

theorem isSome_get?_made_iff {c : Change} :
    ((c.made v).get? name).isSome ↔
      (∃ value, c.Writes name value) ∨ c.replaces = false ∧ (v.get? name).isSome := by
  simp only [get?_made, writes_iff]
  cases c.written? name with
  | none => cases c.replaces <;> simp
  | some content => simp

end Change

/-- The table behind changes of the empty one. -/
def after (changes : List Change) : Variables :=
  changes.foldl Change.made empty

theorem after_concat (changes : List Change) (c : Change) :
    after (changes ++ [c]) = c.made (after changes) := by
  rw [after, List.foldl_append]
  rfl

theorem get?_after_eq_some_iff {changes : List Change} :
    (after changes).get? name = some value ↔
      Latest (·.Writes name value)
        (fun c => c.replaces = false ∧ ∀ other, ¬ c.Writes name other) changes := by
  induction changes using List.reverseRecOn with
  | nil => exact iff_of_false nofun not_latest_nil
  | append_singleton changes c ih =>
    rw [after_concat, latest_concat, Change.get?_made_eq_some_iff, ih]

theorem isSome_get?_after_iff {changes : List Change} :
    ((after changes).get? name).isSome ↔
      Latest (fun c => ∃ value, c.Writes name value) (·.replaces = false) changes := by
  induction changes using List.reverseRecOn with
  | nil => exact iff_of_false nofun not_latest_nil
  | append_singleton changes c ih =>
    rw [after_concat, latest_concat, Change.isSome_get?_made_iff, ih]

/-! ## The finite map -/

/-- A table is a finite map with ordered names, whatever changes it came about by. A name has the
value that the last change wrote to it, and none if no change did since the table was replaced.
The entries are the names with their values, each once and in ascending order of their octets.
Laying another table over it gives the names of that one their values there and leaves the others
as they are. And a text sets a name by the last of its lines that has the name before its first
equals sign; no line sets the empty name. -/
theorem finite_map_after (changes : List Change) :
    let v := after changes
    (∀ name value, v.get? name = some value ↔
        Latest (·.Writes name value)
          (fun c => c.replaces = false ∧ ∀ other, ¬ c.Writes name other) changes) ∧
      (∀ name, v.get? name = none ↔
        ¬ Latest (fun c => ∃ value, c.Writes name value) (·.replaces = false) changes) ∧
      ((v.entries.map Prod.fst).Pairwise (fun a b => Text.octets a < Text.octets b) ∧
        (v.entries.map Prod.fst).Nodup ∧
        (∀ name value, (name, value) ∈ v.entries ↔ v.get? name = some value) ∧
        v.size = (v.entries.map Prod.fst).length ∧ (v.isEmpty ↔ v.size = 0)) ∧
      (∀ other name, (v.merge other).get? name = (other.get? name).or (v.get? name)) ∧
      ∀ table, ∃ lines, Text.Lines table.toList lines ∧
        (∀ name value, (parse table).get? name = some value ↔ LastSets lines name value) ∧
        (parse table).get? "" = none := by
  intro v
  refine ⟨fun name value => get?_after_eq_some_iff, fun name => ?_, ⟨v.pairwise_octets,
    v.nodup_names, fun name value => mem_entries_iff, ?_, ?_⟩, v.get?_merge, fun table => ?_⟩
  · rw [← Option.not_isSome_iff_eq_none, isSome_get?_after_iff]
  · exact (List.length_map ..).symm
  · rw [isEmpty, List.isEmpty_iff, size, List.length_eq_zero_iff]
  · have falls := Text.lines_linesOf table.toList
    refine ⟨_, falls, fun name value => get?_parse falls, ?_⟩
    rw [Option.eq_none_iff_forall_not_mem]
    intro value there
    obtain ⟨before, line, behind, -, ⟨filled, -⟩, -⟩ := (get?_parse falls).mp there
    exact filled rfl

end ReleaseBuilder.Variables
