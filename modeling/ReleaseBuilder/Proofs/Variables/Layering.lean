/-
# Tables laid over a command

A table that is attached to a command only adds to the command's list of variables, while a table
that is laid over another one replaces what is there. The process of the command sees no difference,
because of several assignments to a name the last one counts, and what a process starts with is
settled by these last assignments. So tables may be put together before they are attached or be
attached one after the other, and to attach a table again changes nothing.
-/

import ReleaseBuilder.Machine.Execution
import ReleaseBuilder.Proofs.Variables.Printing

namespace ReleaseBuilder

/-! ## The variables of a command -/

/-- Of the assignments that a command makes in order, the last one for the name gives it this
value. -/
def Command.Assigns (c : Command) (name value : String) : Prop :=
  Variables.Latest (· = (name, value)) (·.1 ≠ name) c.env

namespace Variables

variable {v : Variables} {c d : Command} {name value : String}

theorem assigned?_eq_some_iff {env : List (String × String)} :
    Command.assigned? env name = some value ↔ Latest (· = (name, value)) (·.1 ≠ name) env := by
  induction env using List.reverseRecOn with
  | nil => exact iff_of_false nofun not_latest_nil
  | append_singleton env last ih =>
    obtain ⟨key, content⟩ := last
    rw [assigned?_concat, latest_concat, ← ih]
    by_cases same : name = key
    · simp [same]
    · simp [same, Ne.symm same]

theorem assigns_iff : c.Assigns name value ↔ c.valueOf? name = some value :=
  assigned?_eq_some_iff.symm

theorem assigned?_append (first second : List (String × String)) (name : String) :
    Command.assigned? (first ++ second) name =
      (Command.assigned? second name).or (Command.assigned? first name) := by
  rw [Command.assigned?, List.reverse_append, List.lookup_append]
  rfl

/-- A table that is attached has the say on its names, and the command on the others. -/
theorem valueOf?_apply (v : Variables) (c : Command) (name : String) :
    (v.apply c).valueOf? name = (v.get? name).or (c.valueOf? name) := by
  show Command.assigned? (c.env ++ v.entries) name = _
  rw [assigned?_append, assigned?_entries]
  rfl

theorem valueOf?_apply_merge (a b : Variables) (c : Command) (name : String) :
    ((a.merge b).apply c).valueOf? name = (b.apply (a.apply c)).valueOf? name := by
  rw [valueOf?_apply, valueOf?_apply, valueOf?_apply, get?_merge, Option.or_assoc]

theorem valueOf?_apply_apply (v : Variables) (c : Command) (name : String) :
    (v.apply (v.apply c)).valueOf? name = (v.apply c).valueOf? name := by
  rw [valueOf?_apply, valueOf?_apply, ← Option.or_assoc, Option.or_self]

end Variables

/-! ## What a process starts with -/

namespace Machine

open Variables

variable {c d : Command}

/-- The order of the names that a process starts with is the order of a table. -/
theorem inOrder_eq_insertEntry (name value : String) (entries : List (String × String)) :
    inOrder name value entries = insertEntry name value entries := by
  induction entries with
  | nil => rfl
  | cons head rest ih =>
    obtain ⟨other, old⟩ := head
    rw [inOrder, insertEntry, ih]
    by_cases same : name = other
    · subst same
      rw [if_pos rfl, if_neg (String.lt_irrefl name), if_neg (String.lt_irrefl name)]
    · rw [if_neg same]
      by_cases below : name < other
      · rw [if_pos below, if_pos below]
      · have above : other < name :=
          String.not_le.mp fun le => same (String.le_antisymm le (String.not_lt.mp below))
        rw [if_neg below, if_neg below, if_pos above]

/-- The table of what a process inherits with the variables of its command laid over it. An
inherited entry without a name is left out. -/
def variablesOf (c : Command) (inherited : List String) : Variables :=
  empty.insertAll (inherited.filterMap entryParts? ++ c.env)

theorem foldl_inOrder (v : Variables) (assignments : List (String × String)) :
    assignments.foldl (fun sorted (name, value) => inOrder name value sorted) v.entries =
      (v.insertAll assignments).entries := by
  induction assignments generalizing v with
  | nil => rfl
  | cons a rest ih =>
    obtain ⟨name, value⟩ := a
    show rest.foldl _ (inOrder name value v.entries) = _
    rw [inOrder_eq_insertEntry]
    exact ih (v.insert name value)

theorem environmentOf_eq (inherited : List String) (filled : c.env ≠ []) :
    environmentOf c inherited = (variablesOf c inherited).entries.map lineFor := by
  rw [environmentOf, if_neg (by simpa using filled)]
  exact congrArg (List.map lineFor) (foldl_inOrder empty _)

theorem get?_variablesOf (c : Command) (inherited : List String) (name : String) :
    (variablesOf c inherited).get? name =
      (c.valueOf? name).or (Command.assigned? (inherited.filterMap entryParts?) name) := by
  rw [variablesOf, get?_insertAll, get?_empty, Option.or_none, assigned?_append]
  rfl

theorem env_eq_nil_iff : c.env = [] ↔ ∀ name, c.valueOf? name = none := by
  constructor
  · intro none name
    rw [Command.valueOf?, none]
    rfl
  · intro unassigned
    rcases List.eq_nil_or_concat c.env with none | ⟨env, last, split⟩
    · exact none
    · have assigned := unassigned last.1
      rw [Command.valueOf?, split, List.concat_eq_append, assigned?_concat, if_pos rfl] at assigned
      cases assigned

/-- What a process starts with is settled by the values that the command gives to names. -/
theorem environmentOf_congr (same : ∀ name, c.valueOf? name = d.valueOf? name)
    (inherited : List String) : environmentOf c inherited = environmentOf d inherited := by
  by_cases none : c.env = []
  · have noneToo : d.env = [] := env_eq_nil_iff.mpr fun name => by
      rw [← same, env_eq_nil_iff.mp none]
    rw [environmentOf, environmentOf, none, noneToo]
  · have someToo : d.env ≠ [] := fun noneToo => none (env_eq_nil_iff.mpr fun name => by
      rw [same, env_eq_nil_iff.mp noneToo])
    have sameTable : variablesOf c inherited = variablesOf d inherited := by
      apply ext_get?
      intro name
      rw [get?_variablesOf, get?_variablesOf, same]
    rw [environmentOf_eq inherited none, environmentOf_eq inherited someToo, sameTable]

end Machine

/-! ## Layers -/

/-- Two commands give their processes the same variables: every name has the same value by their
lists, and whatever is inherited, the processes start with the same environment. -/
structure Command.SameVariables (c d : Command) : Prop where
  assigns : ∀ name value, c.Assigns name value ↔ d.Assigns name value
  environment : ∀ inherited, Machine.environmentOf c inherited = Machine.environmentOf d inherited

namespace Variables

theorem sameVariables_of_valueOf? {c d : Command}
    (same : ∀ name, c.valueOf? name = d.valueOf? name) : c.SameVariables d where
  assigns name value := by rw [assigns_iff, assigns_iff, same]
  environment := Machine.environmentOf_congr same

/-- Attaching a table adds its variables to the list of the command, in the order of their names,
and changes nothing else. A table laid over another one and attached gives the process the same
variables as the two attached one after the other: a name has the value of the upper table, or else
that of the lower one, or else the last one that the command gave it. Attaching a table twice gives
the process the same variables as attaching it once. -/
theorem apply_in_layers (c : Command) (a b : Variables) :
    ((a.apply c).program = c.program ∧ (a.apply c).args = c.args ∧ (a.apply c).dir = c.dir ∧
      ∃ added, (a.apply c).env = c.env ++ added ∧
        ((added.map Prod.fst).Pairwise fun x y => Text.octets x < Text.octets y) ∧
        ∀ name value, (name, value) ∈ added ↔ a.get? name = some value) ∧
    ((a.merge b).apply c).SameVariables (b.apply (a.apply c)) ∧
    (∀ name value, ((a.merge b).apply c).Assigns name value ↔
      b.get? name = some value ∨ b.get? name = none ∧
        (a.get? name = some value ∨ a.get? name = none ∧ c.Assigns name value)) ∧
    (a.apply (a.apply c)).SameVariables (a.apply c) := by
  refine ⟨⟨rfl, rfl, rfl, a.entries, rfl, a.pairwise_octets, fun name value => mem_entries_iff⟩,
    sameVariables_of_valueOf? (valueOf?_apply_merge a b c), fun name value => ?_,
    sameVariables_of_valueOf? (valueOf?_apply_apply a c)⟩
  rw [assigns_iff, assigns_iff, valueOf?_apply, get?_merge, Option.or_eq_some_iff,
    Option.or_eq_some_iff, Option.or_eq_none_iff]
  cases b.get? name <;> simp

example :
    let devenv : Command := { program := "devenv", env := [("LIB", "c"), ("LIB", "d")] }
    Machine.environmentOf ((parse "PATH=a\nINCLUDE=b").apply devenv) ["LIB=i", "TMP=t"] =
      ["INCLUDE=b", "LIB=d", "PATH=a", "TMP=t"] := by
  decide

end Variables

end ReleaseBuilder
