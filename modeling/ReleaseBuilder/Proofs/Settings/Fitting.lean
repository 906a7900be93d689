/-
# What fits a field

Which values fit a field is told by the kind of the field, and what is reported of a value that does
not fit has its place in that value: an array is blamed for its first item that does not fit. The
entries of a document are taken in one after the other, so the first one with an unknown name or a
value that does not fit is reported, whatever comes behind it.
-/

import Mathlib.Data.List.Forall2
import ReleaseBuilder.Proofs.Settings.Kinds

namespace ReleaseBuilder

open Toml (Key Value)

/-! ## Results told by relations -/

/-- A result is told by what may come out and by what may go wrong: one of the two is so, and the
result is accordingly. -/
structure Decides {ε α : Type} (result : Except ε α) (fine : α → Prop) (wrong : ε → Prop) :
    Prop where
  ok : ∀ a, fine a → result = .ok a
  error : ∀ e, wrong e → result = .error e
  total : (∃ a, fine a) ∨ ∃ e, wrong e

namespace Decides

variable {ε α : Type} {result : Except ε α} {fine : α → Prop} {wrong : ε → Prop}

theorem eq_ok_iff (h : Decides result fine wrong) {a : α} : result = .ok a ↔ fine a := by
  refine ⟨fun isOk => ?_, h.ok a⟩
  rcases h.total with ⟨b, isFine⟩ | ⟨e, isWrong⟩
  · rw [h.ok b isFine, Except.ok.injEq] at isOk
    exact isOk ▸ isFine
  · rw [h.error e isWrong] at isOk
    cases isOk

theorem eq_error_iff (h : Decides result fine wrong) {e : ε} : result = .error e ↔ wrong e := by
  refine ⟨fun isError => ?_, h.error e⟩
  rcases h.total with ⟨a, isFine⟩ | ⟨other, isWrong⟩
  · rw [h.ok a isFine] at isError
    cases isError
  · rw [h.error other isWrong, Except.error.injEq] at isError
    exact isError ▸ isWrong

end Decides

/-- The first element of a list that does not fit gives `e`. -/
def First {α ε : Type} (fits : α → Prop) (offends : α → ε → Prop) (list : List α) (e : ε) : Prop :=
  ∃ before a behind, list = before ++ a :: behind ∧ (∀ b ∈ before, fits b) ∧ offends a e

section

variable {α ε : Type} {fits : α → Prop} {offends : α → ε → Prop} {a : α} {rest : List α} {e : ε}

theorem first_of_head (here : offends a e) : First fits offends (a :: rest) e :=
  ⟨[], a, rest, rfl, by simp, here⟩

theorem First.cons (here : fits a) (later : First fits offends rest e) :
    First fits offends (a :: rest) e := by
  obtain ⟨before, b, behind, rfl, fine, there⟩ := later
  refine ⟨a :: before, b, behind, rfl, ?_, there⟩
  simpa using ⟨here, fine⟩

theorem First.head_or_cons (h : First fits offends (a :: rest) e) :
    offends a e ∨ fits a ∧ First fits offends rest e := by
  obtain ⟨before, b, behind, split, fine, there⟩ := h
  cases before with
  | nil =>
    obtain ⟨rfl, rfl⟩ := List.cons.inj split
    exact .inl there
  | cons c before =>
    obtain ⟨rfl, rfl⟩ := List.cons.inj split
    refine .inr ⟨fine a (by simp), before, b, behind, rfl, fun d member => ?_, there⟩
    exact fine d (List.mem_cons_of_mem _ member)

theorem not_first_nil : ¬ First fits offends [] e := by
  rintro ⟨before, a, behind, split, -⟩
  simp at split

end

namespace Settings

/-! ## Values -/

/-- A value is a text. -/
def IsText (value : Value) (s : String) : Prop :=
  ∃ span, value = .string span s

/-- A value is a number that fits in 32 bits. -/
def IsNumber (value : Value) (n : UInt32) : Prop :=
  ∃ span, value = .integer span n.toNat

/-- The items of an array, written in brackets or as tables below headers in double brackets. -/
inductive Items : Value → List Value → Prop
  | array {span : Toml.Span} {items : List Value} : Items (.array span items) items
  | tables {span : Option Toml.Span} {items : List (Toml.Table Value)} :
      Items (.tables span items) (items.map .table)

/-- A table or an array with nothing in it. -/
inductive Bare : Value → Prop
  | table {t : Toml.Table Value} (empty : t.entries = []) : Bare (.table t)
  | array {span : Toml.Span} : Bare (.array span [])

/-- A value spells a mode: by its name, or by a table with the name as the one key and nothing in
what is behind it. -/
inductive Spells : Value → PlatformMode → Prop
  | named {span : Toml.Span} {mode : PlatformMode} : Spells (.string span mode.name) mode
  | keyed {t : Toml.Table Value} {key : Key} {inner : Value} {mode : PlatformMode}
      (alone : t.entries = [(key, inner)]) (named : key.name = mode.name) (bare : Bare inner) :
      Spells (.table t) mode

/-- A value means a content of a kind. -/
def Means : (k : Kind) → Value → k.Content → Prop
  | .text, value, s => IsText value s
  | .path, value, p => ∃ s, IsText value s ∧ p = .ofText s
  | .number, value, n => IsNumber value n
  | .numbers, value, ns => ∃ items, Items value items ∧ List.Forall₂ IsNumber items ns
  | .texts, value, ss => ∃ items, Items value items ∧ List.Forall₂ IsText items ss
  | .mode, value, m => Spells value m

/-- A value fits a kind. -/
def Fits (k : Kind) (value : Value) : Prop :=
  ∃ content, Means k value content

/-! ## Values that do not fit -/

/-- What is reported of a value that should be a text. -/
inductive NoText (expected : Expected) : Value → Misfit → Prop
  | wrongType {value : Value} (other : ∀ s, ¬ IsText value s) :
      NoText expected value (.at value (.wrongType value expected))

/-- What is reported of a value that should be a number of 32 bits. -/
inductive NoNumber : Value → Misfit → Prop
  | wrongType {value : Value} (other : ∀ span n, value ≠ .integer span n) :
      NoNumber value (.at value (.wrongType value .number))
  | outOfRange {span : Toml.Span} {n : Int} (out : n < 0 ∨ UInt32.size ≤ n) :
      NoNumber (.integer span n) ⟨some span, .outOfRange n⟩

/-- What is reported of a value that should be an array of items: that it is none, or what is
reported of the first item that does not fit. -/
inductive NoArray {α : Type} (means : Value → α → Prop) (offends : Value → Misfit → Prop) :
    Value → Misfit → Prop
  | wrongType {value : Value} (other : ∀ items, ¬ Items value items) :
      NoArray means offends value (.at value (.wrongType value .sequence))
  | item {value : Value} {items : List Value} {misfit : Misfit} (holds : Items value items)
      (first : First (fun item => ∃ a, means item a) offends items misfit) :
      NoArray means offends value misfit

/-- What is reported of a value that should have nothing in it. -/
inductive NotBare : Value → Misfit → Prop
  | table {t : Toml.Table Value} (filled : t.entries ≠ []) :
      NotBare (.table t) ⟨t.span, .modeWithContent⟩
  | array {span : Toml.Span} {items : List Value} (filled : items ≠ []) :
      NotBare (.array span items) ⟨some span, .modeWithContent⟩
  | tables {span : Option Toml.Span} {items : List (Toml.Table Value)} :
      NotBare (.tables span items) ⟨span, .modeWithTables⟩
  | plain {value : Value} (noTable : ∀ t, value ≠ .table t)
      (noItems : ∀ items, ¬ Items value items) : NotBare value (.at value (.modeWithValue value))

/-- What is reported of a value that should spell a mode. -/
inductive NoMode : Value → Misfit → Prop
  | wrongType {value : Value} (noText : ∀ s, ¬ IsText value s) (noTable : ∀ t, value ≠ .table t) :
      NoMode value (.at value .noMode)
  | unknown {span : Toml.Span} {name : String} (other : ∀ mode : PlatformMode, name ≠ mode.name) :
      NoMode (.string span name) ⟨some span, .unknownMode name⟩
  | noKey {t : Toml.Table Value} (empty : t.entries = []) : NoMode (.table t) ⟨t.span, .noKey⟩
  | manyKeys {t : Toml.Table Value} (many : 2 ≤ t.entries.length) :
      NoMode (.table t) ⟨t.span, .manyKeys⟩
  | unknownKey {t : Toml.Table Value} {key : Key} {inner : Value}
      (alone : t.entries = [(key, inner)]) (other : ∀ mode : PlatformMode, key.name ≠ mode.name) :
      NoMode (.table t) ⟨some key.span, .unknownMode key.name⟩
  | content {t : Toml.Table Value} {key : Key} {inner : Value} {mode : PlatformMode}
      {misfit : Misfit} (alone : t.entries = [(key, inner)]) (named : key.name = mode.name)
      (filled : NotBare inner misfit) : NoMode (.table t) (misfit.within t.span)

/-- What is reported of a value that does not fit a kind. -/
def Offends : Kind → Value → Misfit → Prop
  | .text => NoText .text
  | .path => NoText .path
  | .number => NoNumber
  | .numbers => NoArray IsNumber NoNumber
  | .texts => NoArray IsText (NoText .text)
  | .mode => NoMode

variable {value : Value} {α : Type}

theorem decides_text (expected : Expected) (value : Value) :
    Decides (text expected value) (IsText value) (NoText expected value) where
  ok := by
    rintro s ⟨span, rfl⟩
    rfl
  error := by
    rintro misfit ⟨other⟩
    cases value with
    | string span s => exact absurd ⟨span, rfl⟩ (other s)
    | integer | float | boolean | moment | array | table | tables => rfl
  total := by
    by_cases isText : ∃ s, IsText value s
    · exact .inl isText
    · exact .inr ⟨_, .wrongType (not_exists.mp isText)⟩

theorem decides_path (value : Value) :
    Decides (path value) (fun p => ∃ s, IsText value s ∧ p = .ofText s) (NoText .path value) where
  ok := by
    rintro p ⟨s, ⟨span, rfl⟩, rfl⟩
    rfl
  error misfit offends := by
    rw [path, (decides_text .path value).error misfit offends]
    rfl
  total := (decides_text .path value).total.imp_left fun ⟨s, isText⟩ => ⟨.ofText s, s, isText, rfl⟩

theorem numberLimit_eq : numberLimit = UInt32.size := rfl

theorem decides_number (value : Value) :
    Decides (number value) (IsNumber value) (NoNumber value) where
  ok := by
    rintro n ⟨span, rfl⟩
    have small : (n.toNat : Int) < numberLimit := Int.ofNat_lt.mpr n.toNat_lt
    rw [number, if_pos ⟨Int.natCast_nonneg _, small⟩, Int.toNat_natCast, UInt32.ofNat_toNat]
  error := by
    rintro misfit (⟨other⟩ | @⟨span, n, out⟩)
    · cases value with
      | integer span n => exact absurd rfl (other span n)
      | string | float | boolean | moment | array | table | tables => rfl
    · have outside : ¬ (0 ≤ n ∧ n < numberLimit) := by
        rw [numberLimit_eq]
        omega
      rw [number, if_neg outside]
  total := by
    cases value with
    | integer span n =>
      by_cases inside : 0 ≤ n ∧ n < UInt32.size
      · obtain ⟨low, high⟩ := inside
        have small : n.toNat < UInt32.size := (Int.toNat_lt low).mpr high
        have same : ((UInt32.ofNat n.toNat).toNat : Int) = n := by
          rw [UInt32.toNat_ofNat_of_lt' small, Int.toNat_of_nonneg low]
        exact .inl ⟨UInt32.ofNat n.toNat, span, by rw [same]⟩
      · exact .inr ⟨_, .outOfRange (by omega)⟩
    | string | float | boolean | moment | array | table | tables =>
      exact .inr ⟨_, .wrongType nofun⟩

section

variable {one : Value → Except Misfit α} {means : Value → α → Prop}
  {offends : Value → Misfit → Prop}

theorem decides_each (h : ∀ value, Decides (one value) (means value) (offends value)) :
    (items : List Value) →
      Decides (each one items) (List.Forall₂ means items)
        (First (fun item => ∃ a, means item a) offends items)
  | [] =>
    { ok := fun as all => by
        cases all
        rfl
      error := fun misfit first => absurd first not_first_nil
      total := .inl ⟨[], .nil⟩ }
  | item :: rest =>
    have ih := decides_each h rest
    { ok := fun as all => by
        cases all with
        | cons here later =>
          rw [each, (h item).ok _ here, ih.ok _ later]
          rfl
      error := fun misfit first => by
        rcases first.head_or_cons with here | ⟨⟨a, here⟩, later⟩
        · rw [each, (h item).error _ here]
        · rw [each, (h item).ok _ here, ih.error _ later]
          rfl
      total := by
        rcases (h item).total with ⟨a, here⟩ | ⟨misfit, here⟩
        · rcases ih.total with ⟨as, later⟩ | ⟨misfit, later⟩
          · exact .inl ⟨a :: as, .cons here later⟩
          · exact .inr ⟨misfit, later.cons ⟨a, here⟩⟩
        · exact .inr ⟨misfit, first_of_head here⟩ }

theorem decides_sequence (h : ∀ value, Decides (one value) (means value) (offends value))
    (value : Value) :
    Decides (sequence one value)
      (fun as => ∃ items, Items value items ∧ List.Forall₂ means items as)
      (NoArray means offends value) where
  ok := by
    rintro as ⟨items, holds, all⟩
    cases holds with
    | array => exact (decides_each h _).ok as all
    | tables => exact (decides_each h _).ok as all
  error := by
    rintro misfit (⟨other⟩ | ⟨holds, first⟩)
    · cases value with
      | array span items => exact absurd .array (other items)
      | tables span items => exact absurd .tables (other _)
      | string | integer | float | boolean | moment | table => rfl
    · cases holds with
      | array => exact (decides_each h _).error misfit first
      | tables => exact (decides_each h _).error misfit first
  total := by
    by_cases isArray : ∃ items, Items value items
    · obtain ⟨items, holds⟩ := isArray
      rcases (decides_each h items).total with ⟨as, all⟩ | ⟨misfit, first⟩
      · exact .inl ⟨as, items, holds, all⟩
      · exact .inr ⟨misfit, .item holds first⟩
    · exact .inr ⟨_, .wrongType (not_exists.mp isArray)⟩

end

/-! ## Modes -/

theorem ofName?_eq_none {name : String} (other : ∀ mode : PlatformMode, name ≠ mode.name) :
    PlatformMode.ofName? name = none := by
  rw [PlatformMode.ofName?.eq_def]
  split
  · exact absurd rfl (other .generic)
  · exact absurd rfl (other .native)
  · rfl

theorem decides_modeNamed (name : String) (span : Toml.Span) :
    Decides (modeNamed name span) (fun mode => name = mode.name)
      (fun misfit => (∀ mode : PlatformMode, name ≠ mode.name) ∧
        misfit = ⟨some span, .unknownMode name⟩) where
  ok := by
    rintro mode rfl
    rw [modeNamed, PlatformMode.ofName?_name]
  error := by
    rintro misfit ⟨other, rfl⟩
    rw [modeNamed, ofName?_eq_none other]
  total := by
    by_cases known : ∃ mode : PlatformMode, name = mode.name
    · exact .inl known
    · exact .inr ⟨_, not_exists.mp known, rfl⟩

theorem decides_checkBare (value : Value) :
    Decides (checkBare value) (fun _ => Bare value) (NotBare value) where
  ok := by
    rintro - (empty | _)
    · rw [checkBare, empty]
      rfl
    · rfl
  error := by
    rintro misfit (filled | filled | _ | ⟨noTable, noItems⟩)
    · rw [checkBare, if_neg (by simpa using filled)]
    · rw [checkBare, if_neg (by simpa using filled)]
    · rfl
    · cases value with
      | table t => exact absurd rfl (noTable t)
      | array span items => exact absurd .array (noItems items)
      | tables span items => exact absurd .tables (noItems _)
      | string | integer | float | boolean | moment => rfl
  total := by
    cases value with
    | table t =>
      by_cases empty : t.entries = []
      · exact .inl ⟨(), .table empty⟩
      · exact .inr ⟨_, .table empty⟩
    | array span items =>
      by_cases empty : items = []
      · exact .inl ⟨(), empty ▸ .array⟩
      · exact .inr ⟨_, .array empty⟩
    | tables span items => exact .inr ⟨_, .tables⟩
    | string | integer | float | boolean | moment => exact .inr ⟨_, .plain nofun nofun⟩

theorem mode_of_alone {t : Toml.Table Value} {key : Key} {inner : Value}
    (alone : t.entries = [(key, inner)]) :
    mode (.table t) = (modeNamed key.name key.span).bind fun m =>
      ((checkBare inner).mapError fun misfit => misfit.within t.span).map fun _ => m := by
  rw [mode, alone]
  rfl

theorem decides_mode (value : Value) : Decides (mode value) (Spells value) (NoMode value) where
  ok := by
    rintro m (_ | ⟨alone, named, bare⟩)
    · exact (decides_modeNamed _ _).ok m rfl
    · rw [mode_of_alone alone, (decides_modeNamed _ _).ok m named,
        Except.bind, (decides_checkBare _).ok () bare]
      rfl
  error := by
    rintro misfit
      (⟨noText, noTable⟩ | other | empty | many | ⟨alone, other⟩ | ⟨alone, named, filled⟩)
    · cases value with
      | string span s => exact absurd ⟨span, rfl⟩ (noText s)
      | table t => exact absurd rfl (noTable t)
      | integer | float | boolean | moment | array | tables => rfl
    · exact (decides_modeNamed _ _).error _ ⟨other, rfl⟩
    · rw [mode, empty]
    · rw [mode]
      split
      · next none => simp [none] at many
      · next one => simp [one] at many
      · rfl
    · rw [mode_of_alone alone, (decides_modeNamed _ _).error _ ⟨other, rfl⟩]
      rfl
    · rw [mode_of_alone alone, (decides_modeNamed _ _).ok _ named, Except.bind,
        (decides_checkBare _).error _ filled]
      rfl
  total := by
    cases value with
    | string span s =>
      rcases (decides_modeNamed s span).total with ⟨m, rfl⟩ | ⟨misfit, other, -⟩
      · exact .inl ⟨m, .named⟩
      · exact .inr ⟨_, .unknown other⟩
    | table t =>
      match alone : t.entries with
      | [] => exact .inr ⟨_, .noKey alone⟩
      | [(key, inner)] =>
        rcases (decides_modeNamed key.name key.span).total with ⟨m, named⟩ | ⟨misfit, other, -⟩
        · rcases (decides_checkBare inner).total with ⟨-, bare⟩ | ⟨misfit, filled⟩
          · exact .inl ⟨m, .keyed alone named bare⟩
          · exact .inr ⟨_, .content alone named filled⟩
        · exact .inr ⟨_, .unknownKey alone other⟩
      | _ :: _ :: _ => exact .inr ⟨_, .manyKeys (by simp [alone])⟩
    | integer | float | boolean | moment | array | tables =>
      exact .inr ⟨_, .wrongType nofun nofun⟩

/-! ## Entries -/

theorem decides_ofValue (k : Kind) (value : Value) :
    Decides (ofValue k value) (Means k value) (Offends k value) :=
  match k with
  | .text => decides_text .text value
  | .path => decides_path value
  | .number => decides_number value
  | .numbers => decides_sequence decides_number value
  | .texts => decides_sequence (decides_text .text) value
  | .mode => decides_mode value

/-- An entry gives a field that it names a value of the field's kind. -/
def FitsEntry (entry : Key × Value) : Prop :=
  ∃ f : Field, entry.1.name = f.name ∧ Fits f.kind entry.2

/-- What is reported of an entry: that its name is none of a field, or what is reported of its
value. What has no place in the value is placed at the key. -/
inductive OffendsEntry : Key × Value → Misfit → Prop
  | unknown {key : Key} {value : Value} (other : ∀ f : Field, key.name ≠ f.name) :
      OffendsEntry (key, value) ⟨some key.span, .unknownField key.name⟩
  | value {key : Key} {value : Value} {f : Field} {misfit : Misfit} (named : key.name = f.name)
      (offends : Offends f.kind value misfit) :
      OffendsEntry (key, value) (misfit.within key.span)

variable {s t : Settings}

theorem take_of_named {key : Key} {f : Field} (s : Settings) (value : Value)
    (named : key.name = f.name) :
    s.take key value =
      ((ofValue f.kind value).map (s.put f)).mapError fun misfit => misfit.within key.span := by
  rw [take, Field.ofName?_eq_some_iff.mpr named, ← set_eq]

theorem decides_take (s : Settings) (key : Key) (value : Value) :
    Decides (s.take key value)
      (fun t => ∃ f c, key.name = f.name ∧ Means f.kind value c ∧ t = s.put f c)
      (OffendsEntry (key, value)) where
  ok := by
    rintro t ⟨f, c, named, means, rfl⟩
    rw [take_of_named s value named, (decides_ofValue _ value).ok c means]
    rfl
  error := by
    rintro misfit (other | ⟨named, offends⟩)
    · have nameless : Field.ofName? key.name = none :=
        Option.eq_none_iff_forall_ne_some.mpr fun f => mt Field.ofName?_eq_some_iff.mp (other f)
      rw [take, nameless]
    · rw [take_of_named s value named, (decides_ofValue _ value).error _ offends]
      rfl
  total := by
    by_cases known : ∃ f : Field, key.name = f.name
    · obtain ⟨f, named⟩ := known
      rcases (decides_ofValue f.kind value).total with ⟨c, means⟩ | ⟨misfit, offends⟩
      · exact .inl ⟨_, f, c, named, means, rfl⟩
      · exact .inr ⟨_, .value named offends⟩
    · exact .inr ⟨_, .unknown (not_exists.mp known)⟩

/-- Entries that fit give the fields that they name their values, one after the other. -/
inductive Gives : Settings → List (Key × Value) → Settings → Prop
  | done {s : Settings} : Gives s [] s
  | entry {s t : Settings} {key : Key} {value : Value} {rest : List (Key × Value)} {f : Field}
      {c : f.kind.Content} (named : key.name = f.name) (means : Means f.kind value c)
      (goesOn : Gives (s.put f c) rest t) : Gives s ((key, value) :: rest) t

theorem decides_takeAll (s : Settings) (entries : List (Key × Value)) :
    Decides (s.takeAll entries) (Gives s entries) (First FitsEntry OffendsEntry entries) := by
  induction entries generalizing s with
  | nil =>
    exact
      { ok := by
          rintro t ⟨⟩
          rfl
        error := fun misfit first => absurd first not_first_nil
        total := .inl ⟨s, .done⟩ }
  | cons head rest ih =>
    obtain ⟨key, value⟩ := head
    have here := decides_take s key value
    refine ⟨?_, ?_, ?_⟩
    · rintro t (_ | ⟨named, means, goesOn⟩)
      rw [takeAll, here.ok _ ⟨_, _, named, means, rfl⟩]
      exact (ih _).ok t goesOn
    · intro misfit first
      rcases first.head_or_cons with offends | ⟨⟨f, named, c, means⟩, later⟩
      · rw [takeAll, here.error misfit offends]
      · rw [takeAll, here.ok _ ⟨f, c, named, means, rfl⟩]
        exact (ih _).error misfit later
    · rcases here.total with ⟨t, f, c, named, means, rfl⟩ | ⟨misfit, offends⟩
      · rcases (ih (s.put f c)).total with ⟨t, goesOn⟩ | ⟨misfit, later⟩
        · exact .inl ⟨t, .entry named means goesOn⟩
        · exact .inr ⟨misfit, later.cons ⟨f, named, c, means⟩⟩
      · exact .inr ⟨misfit, first_of_head offends⟩

theorem exists_gives_iff {entries : List (Key × Value)} :
    (∃ t, Gives s entries t) ↔ ∀ entry ∈ entries, FitsEntry entry := by
  constructor
  · rintro ⟨t, gives⟩
    induction gives with
    | done => simp
    | @entry s t key value rest f c named means goesOn ih =>
      simpa using ⟨⟨f, named, c, means⟩, by simpa using ih⟩
  · intro fit
    induction entries generalizing s with
    | nil => exact ⟨s, .done⟩
    | cons head rest ih =>
      obtain ⟨f, named, c, means⟩ := fit head (by simp)
      obtain ⟨t, goesOn⟩ := ih (s := s.put f c) fun entry member =>
        fit entry (List.mem_cons_of_mem _ member)
      exact ⟨t, .entry named means goesOn⟩

/-- A field that is named holds what one of its entries means, and the others hold what they
held. -/
theorem Gives.get {entries : List (Key × Value)} (h : Gives s entries t) (f : Field) :
    (∃ entry ∈ entries, entry.1.name = f.name ∧ Means f.kind entry.2 (t.get f)) ∨
      (∀ entry ∈ entries, entry.1.name ≠ f.name) ∧ t.get f = s.get f := by
  induction h with
  | done => exact .inr ⟨by simp, rfl⟩
  | @entry s t key value rest g c named means goesOn ih =>
    rcases ih with ⟨entry, member, there⟩ | ⟨unnamed, kept⟩
    · exact .inl ⟨entry, List.mem_cons_of_mem _ member, there⟩
    · by_cases same : f = g
      · subst same
        rw [get_put_self] at kept
        exact .inl ⟨(key, value), by simp, named, kept ▸ means⟩
      · rw [get_put_of_ne _ _ same] at kept
        refine .inr ⟨?_, kept⟩
        have apart : key.name ≠ f.name := fun also => same (Field.name_inj (also.symm.trans named))
        simpa using ⟨apart, by simpa using unnamed⟩

end Settings

end ReleaseBuilder
