/-
# Settings that are written

Settings can be written as lines, one for each field that is chosen, in any order. The text is read
as the usual settings with the chosen fields as they were written, so the order of the lines does
not matter, and every choice of fields and contents can be written.
-/

import Mathlib.Data.List.Nodup
import ReleaseBuilder.Proofs.Settings.File
import ReleaseBuilder.Proofs.Toml.Lines

namespace ReleaseBuilder.Settings

open Toml (Bracketed Decimal Quoted Reads)

/-- How a content of a kind is written: texts, paths and modes between double quotes, numbers in
decimal, lists as arrays. -/
def Written : (k : Kind) → k.Content → List Char → Prop
  | .text, s => Quoted s
  | .path, p => fun text => ∃ s, p = .ofText s ∧ Quoted s text
  | .number, n => Decimal n.toNat
  | .numbers, ns => Bracketed (fun n : UInt32 => Decimal n.toNat) ns
  | .texts, ss => Bracketed Quoted ss
  | .mode, m => Quoted m.name

/-- A content of a kind can be written: a path is one that was written as a text. -/
def Writable : (k : Kind) → k.Content → Prop
  | .path, p => ∃ s, p = .ofText s
  | .text, _ | .number, _ | .numbers, _ | .texts, _ | .mode, _ => True

/-- A source writes what some settings hold in the given fields, a line for each. -/
def Writes (s : Settings) (fields : List Field) (source : String) : Prop :=
  Toml.Lines Field.name (fun f => Written f.kind (s.get f)) fields source.toList

variable {s t : Settings} {fields : List Field}

theorem bareName (f : Field) : Toml.BareName f.name := by
  cases f <;> decide

/-! ## Writing -/

theorem exists_written : (k : Kind) → (c : k.Content) → Writable k c → ∃ text, Written k c text
  | .text, s, _ => Toml.exists_quoted s
  | .path, _, ⟨s, spelled⟩ =>
    have ⟨text, quoted⟩ := Toml.exists_quoted s
    ⟨text, s, spelled, quoted⟩
  | .number, _, _ => ⟨_, rfl⟩
  | .numbers, ns, _ =>
    have exists_decimal (n : UInt32) : ∃ text, Decimal n.toNat text := ⟨_, rfl⟩
    Toml.exists_bracketed exists_decimal ns
  | .texts, ss, _ => Toml.exists_bracketed Toml.exists_quoted ss
  | .mode, m, _ => Toml.exists_quoted m.name

theorem exists_writes (s : Settings) (fields : List Field)
    (writable : ∀ f ∈ fields, Writable f.kind (s.get f)) : ∃ source, Writes s fields source := by
  have exists_lines : ∃ text,
      Toml.Lines Field.name (fun f => Written f.kind (s.get f)) fields text := by
    induction fields with
    | nil => exact ⟨[], .nil⟩
    | cons f fields ih =>
      obtain ⟨here, behind⟩ := List.forall_mem_cons.mp writable
      obtain ⟨text, written⟩ := exists_written f.kind (s.get f) here
      obtain ⟨later, goesOn⟩ := ih behind
      exact ⟨_, .cons written .feed goesOn⟩
  obtain ⟨text, lines⟩ := exists_lines
  exact ⟨String.ofList text, by rwa [Writes, String.toList_ofList]⟩

/-! ## Reading -/

theorem reads_text {depth : Nat} (s : String) {text : List Char} (written : Quoted s text) :
    Reads depth text fun value => IsText value s :=
  Toml.reads_quoted written

theorem reads_number {depth : Nat} (n : UInt32) {text : List Char}
    (written : Decimal n.toNat text) : Reads depth text fun value => IsNumber value n :=
  Toml.reads_decimal written (Nat.lt_trans n.toNat_lt (by decide))

/-- What is written of a content is read as a value that means it. -/
theorem reads_of_written {k : Kind} {c : k.Content} {text : List Char}
    (written : Written k c text) :
    Reads Toml.Expression.depthLimit text fun value => Means k value c := by
  cases k with
  | text => exact reads_text c written
  | path =>
    obtain ⟨s, spelled, quoted⟩ := written
    exact (reads_text s quoted).imp fun value isText => ⟨s, isText, spelled⟩
  | number => exact reads_number c written
  | numbers =>
    refine (Toml.reads_bracketed (fun n _ => reads_number n) written).imp ?_
    rintro value ⟨span, items, rfl, mean⟩
    exact ⟨items, .array, mean⟩
  | texts =>
    refine (Toml.reads_bracketed (fun s _ => reads_text s) written).imp ?_
    rintro value ⟨span, items, rfl, mean⟩
    exact ⟨items, .array, mean⟩
  | mode =>
    refine (Toml.reads_quoted written).imp ?_
    rintro value ⟨span, rfl⟩
    exact .named

/-- Settings with some fields as they are in others. -/
def taking (t s : Settings) (fields : List Field) : Settings :=
  fields.foldl (fun t f => t.put f (s.get f)) t

theorem get_taking (t s : Settings) (fields : List Field) (f : Field) :
    (t.taking s fields).get f = if f ∈ fields then s.get f else t.get f := by
  induction fields generalizing t with
  | nil => simp [taking]
  | cons g fields ih =>
    rw [taking, List.foldl_cons, ← taking, ih]
    by_cases same : f = g
    · subst same
      simp
    · simp [same, get_put_of_ne]

/-- Entries that mean what settings hold give the fields as they are there. -/
theorem gives_taking {entries : List (Toml.Key × Toml.Value)} (t : Settings)
    (mean : List.Forall₂
      (Toml.IsEntry Field.name fun value (f : Field) => Means f.kind value (s.get f))
      fields entries) :
    Gives t entries (t.taking s fields) := by
  induction mean generalizing t with
  | nil => exact .done
  | cons entry others ih => exact .entry entry.1 entry.2 (ih _)

theorem ofToml_of_writes (distinct : fields.Nodup) {source : String}
    (writes : Writes s fields source) : ofToml source = .ok (({} : Settings).taking s fields) := by
  have apart : (fields.map Field.name).Nodup := List.Nodup.map (fun f g => Field.name_inj) distinct
  have reads (f : Field) (text : List Char) (written : Written f.kind (s.get f) text) :
      Reads Toml.Expression.depthLimit text fun value => Means f.kind value (s.get f) :=
    reads_of_written written
  obtain ⟨document, valid, mean⟩ := Toml.read?_of_lines bareName reads apart writes
  exact (decides_ofToml valid).ok _ (gives_taking {} mean)

/-- Whatever fields are chosen, in whatever order, and whatever they hold, paths being such as a
text spells, there is a text that writes them. Every such text is read as the usual settings with
these fields as they were written, and so is every text that writes them in another order. -/
theorem settings_as_written (s : Settings) (fields : List Field) (distinct : fields.Nodup) :
    ((∀ f ∈ fields, Writable f.kind (s.get f)) → ∃ source, Writes s fields source) ∧
    ∀ source, Writes s fields source →
      (∃ t, ofToml source = .ok t ∧
        ∀ f, t.get f = if f ∈ fields then s.get f else ({} : Settings).get f) ∧
      ∀ others other, fields.Perm others → Writes s others other →
        ofToml other = ofToml source := by
  refine ⟨exists_writes s fields, fun source writes => ⟨?_, ?_⟩⟩
  · exact ⟨_, ofToml_of_writes distinct writes, get_taking {} s fields⟩
  · intro others other perm rewritten
    rw [ofToml_of_writes distinct writes, ofToml_of_writes (perm.nodup distinct) rewritten]
    refine congrArg _ (ext_get fun f => ?_)
    rw [get_taking, get_taking, if_congr perm.mem_iff rfl rfl]

/-- Settings with a text that cannot stand as it is, the greatest number and an empty list. -/
def oddSettings : Settings :=
  { product := "\"\\é\x01\n", gnuCandidates := [0, 4294967295], windowsBinaries := [],
    platformMode := .native }

/-- A text that writes four fields of them, with blanks in an array, two kinds of line endings and
none behind the last line. -/
def oddSource : String :=
  "platform_mode = \"native\"\ngnu_candidates = [ 0, 4294967295]\n" ++
    "product = \"\\\"\\\\é\\u0001\\n\"\r\nwindows_binaries = []"

theorem oddSettings_as_written :
    [Field.platformMode, .gnuCandidates, .product, .windowsBinaries].Nodup ∧
    Writes oddSettings [.platformMode, .gnuCandidates, .product, .windowsBinaries] oddSource ∧
    ∃ t, ofToml oddSource = .ok t ∧ t.platformMode = .native ∧
      t.gnuCandidates = [0, 4294967295] ∧ t.product = "\"\\é\x01\n" ∧ t.windowsBinaries = [] ∧
      t.solution = ({} : Settings).solution := by
  have distinct : [Field.platformMode, .gnuCandidates, .product, .windowsBinaries].Nodup := by
    decide
  have native : Quoted "native" ('"' :: ("native".toList ++ ['"'])) :=
    ⟨_, Toml.Quotation.spelling_of_plain (by decide), rfl⟩
  have numbers : Bracketed (fun n : UInt32 => Decimal n.toNat) [0, 4294967295]
      "[ 0, 4294967295]".toList := by
    refine ⟨[' '] ++ (['0'] ++ ([] ++ ',' :: ([' '] ++ ("4294967295".toList ++ [])))), ?_, ?_⟩
    · exact .more rfl rfl rfl (.last rfl (by decide) rfl)
    · decide
  have product : Quoted "\"\\é\x01\n" "\"\\\"\\\\é\\u0001\\n\"".toList := by
    refine ⟨['\\', '"'] ++ (['\\', '\\'] ++ (['é'] ++ ('\\' :: 'u' :: ['0', '0', '0', '1'] ++
      (['\\', 'n'] ++ [])))), ?_, by decide⟩
    rw [(by decide : "\"\\é\x01\n".toList = ['"', '\\', 'é', '\x01', '\n'])]
    exact .cons (.letter (by decide)) (.cons (.letter (by decide))
      (.cons (.plain rfl (by decide) (by decide)) (.cons (.short ⟨rfl, by decide, by decide⟩)
        (.cons (.letter (by decide)) .nil))))
  have binaries : Bracketed Quoted [] "[]".toList := ⟨[], .none rfl, by decide⟩
  have writes : Writes oddSettings [.platformMode, .gnuCandidates, .product, .windowsBinaries]
      oddSource := by
    have split : oddSource.toList =
        Toml.line "platform_mode" ('"' :: ("native".toList ++ ['"'])) ++ ('\n' ::
          (Toml.line "gnu_candidates" "[ 0, 4294967295]".toList ++ ('\n' ::
            (Toml.line "product" "\"\\\"\\\\é\\u0001\\n\"".toList ++ ('\r' :: '\n' ::
              (Toml.line "windows_binaries" "[]".toList ++ [])))))) := by decide
    rw [Writes, split]
    exact .cons native .feed (.cons numbers .feed (.cons product .pair (.cons binaries .last .nil)))
  obtain ⟨⟨t, isRead, holds⟩, -⟩ := (settings_as_written oddSettings _ distinct).2 oddSource writes
  exact ⟨distinct, writes, t, isRead, holds .platformMode, holds .gnuCandidates, holds .product,
    holds .windowsBinaries, holds .solution⟩

end ReleaseBuilder.Settings
