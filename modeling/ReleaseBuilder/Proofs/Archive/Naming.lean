/-
# Names in an archive

A short name is stored tidied: its components are put together again without `.` and without
doubled separators. A name that is too long for that is stored as it was given. Either way it leads
along the same names as the one that was given, and a name that stays below the directory it is
unpacked in is never refused.
-/

import ReleaseBuilder.Proofs.FileSystem.Paths
import ReleaseBuilder.Tarball.MemberName

namespace ReleaseBuilder

/-! ## Pieces of a front -/

namespace Path

/-- A relative path that is not empty has a piece. -/
theorem pieces_ne_nil {p : Path} (relative : p.isAbsolute = false) (filled : p.text ≠ "") :
    p.pieces ≠ [] := by
  have start : p.text.toList.head? ≠ some '/' := by simpa [isAbsolute] using relative
  by_cases slash : '/' ∈ p.text.toList
  · obtain ⟨front, rest, text, none_before⟩ := List.eq_append_cons_of_mem slash
    have nonempty : front ≠ [] := by
      rintro rfl
      exact start (by rw [text]; rfl)
    have split := pieces_cons_slash front (String.ofList rest) none_before
    rw [← String.ofList_append, List.append_assoc, List.singleton_append, ← text,
      String.ofList_toList, if_neg (by simpa using nonempty)] at split
    rw [split]
    exact List.cons_ne_nil _ _
  · rw [pieces_of_isPiece ⟨filled, slash⟩]
    exact List.cons_ne_nil _ _

theorem pieces_of_not_mem_slash {cs : List Char} (h : '/' ∉ cs) :
    (Path.mk (String.ofList cs)).pieces = [] ∨
      ∃ piece, (Path.mk (String.ofList cs)).pieces = [piece] := by
  by_cases empty : String.ofList cs = ""
  · rw [empty]
    exact .inl (by decide)
  · exact .inr ⟨_, pieces_of_isPiece ⟨empty, by rwa [String.toList_ofList]⟩⟩

/-- Of the pieces of a front only the last may have been cut short. -/
theorem mem_pieces_of_prefix {front whole : List Char} (h : front <+: whole) {piece : String}
    (earlier : piece ∈ (Path.mk (String.ofList front)).pieces.dropLast) :
    piece ∈ (Path.mk (String.ofList whole)).pieces := by
  obtain ⟨rest, rfl⟩ := h
  by_cases slash : '/' ∈ front
  · -- Up to the last separator of the front both have the same pieces.
    obtain ⟨after, before, reversed, none_after⟩ :=
      List.eq_append_cons_of_mem (List.mem_reverse.mpr slash)
    obtain rfl : front = before.reverse ++ '/' :: after.reverse := by
      simpa using congrArg List.reverse reversed
    rw [List.append_assoc, List.cons_append, pieces_append_slash, List.mem_append]
    rw [pieces_append_slash] at earlier
    left
    rcases pieces_of_not_mem_slash (mt List.mem_reverse.mp none_after) with none_left | ⟨last, one⟩
    · rw [none_left, List.append_nil] at earlier
      exact (List.dropLast_sublist _).subset earlier
    · rwa [one, List.dropLast_concat] at earlier
  · rcases pieces_of_not_mem_slash slash with none_there | ⟨last, one⟩
    · rw [none_there] at earlier
      cases earlier
    · rw [one] at earlier
      cases earlier

end Path

namespace Tarball

/-! ## Fronts that have room -/

theorem frontWithin_isPrefix (room : Nat) (cs : List Char) : frontWithin room cs <+: cs := by
  induction cs generalizing room with
  | nil => exact List.prefix_rfl
  | cons c rest ih =>
    rw [frontWithin]
    split
    · exact (List.prefix_cons_inj c).mpr (ih _)
    · exact List.nil_prefix

theorem utf8ByteSize_frontWithin_le (room : Nat) (cs : List Char) :
    (String.ofList (frontWithin room cs)).utf8ByteSize ≤ room := by
  induction cs generalizing room with
  | nil => exact Nat.zero_le _
  | cons c rest ih =>
    rw [frontWithin]
    split
    · next fits =>
      have bound := ih (room - c.utf8Size)
      rw [String.ofList_cons, String.utf8ByteSize_append, String.utf8ByteSize_singleton]
      omega
    · exact Nat.zero_le _

theorem head?_frontWithin {room : Nat} {cs : List Char} (roomy : 4 ≤ room) :
    (frontWithin room cs).head? = cs.head? := by
  cases cs with
  | nil => rfl
  | cons c rest =>
    rw [frontWithin, if_pos (Nat.le_trans c.utf8Size_le_four roomy)]
    rfl

/-! ## Tidied names -/

/-- A path without `.` and doubled separators. A lone `.` stays, where nothing else would. -/
def tidied (p : Path) : String :=
  "/".intercalate (if p.names = [] then ["."] else p.names) ++ if p.endsWithSlash then "/" else ""

variable {p : Path}

theorem headerComponents_of_pieces (filled : p.pieces ≠ []) :
    headerComponents p = if p.names = [] then ["."] else p.names := by
  simp [headerComponents, filled]

theorem headerComponents_sublist (p : Path) : (headerComponents p).Sublist p.pieces := by
  rw [headerComponents]
  split
  · next none_left =>
    -- All pieces are `.`, and there is one.
    rw [Bool.and_eq_true, List.isEmpty_iff, Path.names, List.filter_eq_nil_iff] at none_left
    obtain ⟨onlyDots, filled⟩ := none_left
    obtain ⟨piece, member⟩ := List.exists_mem_of_ne_nil p.pieces (by simpa using filled)
    have dot : piece = "." := by simpa using onlyDots piece member
    rw [List.singleton_sublist, ← dot]
    exact member
  · exact List.filter_sublist

theorem tidied_sublist (filled : p.pieces ≠ []) : (tidied p).toList.Sublist p.text.toList := by
  have parts (q : Path) (same : q.pieces = p.pieces) :
      ("/".intercalate (headerComponents p)).toList.Sublist q.text.toList := by
    rw [String.toList_intercalate]
    refine (Path.intercalate_sublist '/' ((headerComponents_sublist p).map String.toList)).trans ?_
    rw [← same]
    exact (List.sublist_append_right _ _).trans q.intercalate_pieces_sublist
  rw [tidied, ← headerComponents_of_pieces filled, String.toList_append]
  split
  · next slash =>
    obtain ⟨front, text, same⟩ := Path.exists_front_of_endsWithSlash slash
    have before := parts _ same
    rw [String.toList_ofList] at before
    rw [text]
    exact before.append (List.Sublist.refl _)
  · simpa using parts p rfl

theorem utf8ByteSize_tidied_le (filled : p.pieces ≠ []) :
    (tidied p).utf8ByteSize ≤ p.text.utf8ByteSize := by
  have bound := Path.utf8ByteSize_le_of_sublist (tidied_sublist filled)
  rwa [String.ofList_toList, String.ofList_toList] at bound

theorem headerComponents_of_last {front : List String} {last : String}
    (split : p.pieces = front ++ [last]) (ordinary : last ≠ ".") :
    headerComponents p = front.filter (· ≠ ".") ++ [last] := by
  have names : p.names = front.filter (· ≠ ".") ++ [last] := by
    rw [Path.names, split, List.filter_append]
    simp [ordinary]
  rw [headerComponents_of_pieces (by simp [split]), names]
  simp

/-- What is looked at of a path for a header. -/
def checked (cut : Bool) (p : Path) : List String :=
  if cut && (headerComponents p).getLast? = some ".." then (headerComponents p).dropLast
  else headerComponents p

/-- If every piece may stand in a header, nothing is found that may not. The last piece of a name
that was cut short may also be a `..`. -/
theorem all_mayStand_checked {cut : Bool} {front : List String} {last : String}
    (split : p.pieces = front ++ [last]) (before : ∀ piece ∈ front, mayStand piece)
    (behind : mayStand last ∨ cut = true ∧ last = "..") : (checked cut p).all mayStand := by
  rw [List.all_eq_true]
  intro component member
  rw [checked] at member
  rcases behind with stands | ⟨rfl, rfl⟩
  · have there : component ∈ headerComponents p := by
      split at member
      · exact (List.dropLast_sublist _).subset member
      · exact member
    have piece := (headerComponents_sublist p).subset there
    rw [split, List.mem_append, List.mem_singleton] at piece
    rcases piece with earlier | rfl
    · exact before component earlier
    · exact stands
  · simp only [headerComponents_of_last split (by decide), List.getLast?_concat,
      List.dropLast_concat, Bool.true_and, decide_true, if_true] at member
    exact before component (List.mem_filter.mp member).1

theorem mayStand_iff {component : String} :
    mayStand component ↔ component ≠ ".." ∧ '\x00' ∉ component.toList := by
  simp [mayStand]

/-- A relative path without NUL that does not lead upwards is told tidied, if there is room. What
was cut short may lead upwards at its end. -/
theorem headerName?_of_relative {cut : Bool} (relative : p.isAbsolute = false)
    (filled : p.text ≠ "") (noNul : '\x00' ∉ p.text.toList) (inside : ".." ∉ p.pieces.dropLast)
    (whole : cut = true ∨ ".." ∉ p.pieces) :
    headerName? cut p =
      if (tidied p).utf8ByteSize ≤ headerRoom then some (tidied p) else none := by
  have some_there := Path.pieces_ne_nil relative filled
  have noNul : ∀ piece ∈ p.pieces, '\x00' ∉ piece.toList := fun piece member nul =>
    noNul ((Path.toList_sublist_of_mem_pieces member).subset nul)
  obtain ⟨front, last, split⟩ := List.eq_nil_or_concat p.pieces |>.resolve_left some_there
  rw [List.concat_eq_append] at split
  have stand : (checked cut p).all mayStand := by
    refine all_mayStand_checked split (fun piece member => ?_) ?_
    · refine mayStand_iff.mpr ⟨?_, noNul piece (by simp [split, member])⟩
      rintro rfl
      rw [split, List.dropLast_concat] at inside
      exact inside member
    · by_cases upwards : last = ".."
      · exact .inr ⟨whole.resolve_right fun none_there => none_there (by simp [split, upwards]),
          upwards⟩
      · exact .inl (mayStand_iff.mpr ⟨upwards, noNul last (by simp [split])⟩)
  have nonempty : (headerComponents p).isEmpty = false := by
    rw [headerComponents_of_pieces some_there]
    split <;> simp_all
  unfold headerName?
  dsimp only
  rw [checked] at stand
  rw [relative, nonempty, stand, tidied, ← headerComponents_of_pieces some_there]
  simp

/-! ## Stored names -/

/-- A name that stays below the directory it is unpacked in: it does not start at the root, is not
empty, goes up nowhere and has no NUL. -/
structure Acceptable (name : String) : Prop where
  relative : (Path.mk name).isAbsolute = false
  filled : name ≠ ""
  inside : ".." ∉ (Path.mk name).pieces
  noNul : '\x00' ∉ name.toList

instance (name : String) : Decidable (Acceptable name) :=
  decidable_of_iff ((Path.mk name).isAbsolute = false ∧ name ≠ "" ∧
      ".." ∉ (Path.mk name).pieces ∧ '\x00' ∉ name.toList)
    ⟨fun ⟨relative, filled, inside, noNul⟩ => ⟨relative, filled, inside, noNul⟩,
      fun h => ⟨h.relative, h.filled, h.inside, h.noNul⟩⟩

/-- The form that an archive gives a name. -/
def nameIn (name : String) : String :=
  if (tidied ⟨name⟩).utf8ByteSize ≤ headerRoom then tidied ⟨name⟩ else name

variable {name : String}

/-- The front of an acceptable name that has room in a header is told there. It is acceptable
itself, up to a `..` at its end. -/
theorem Acceptable.headerName?_front (h : Acceptable name) :
    (headerName? true ⟨String.ofList (frontWithin headerRoom name.toList)⟩).isSome := by
  have isFront := frontWithin_isPrefix headerRoom name.toList
  have short := utf8ByteSize_frontWithin_le headerRoom name.toList
  have start : (frontWithin headerRoom name.toList).head? = name.toList.head? :=
    head?_frontWithin (by decide)
  generalize frontWithin headerRoom name.toList = front at isFront short start
  have relative : (Path.mk (String.ofList front)).isAbsolute = false := by
    rw [Path.isAbsolute, String.toList_ofList, start]
    exact h.relative
  have filled : String.ofList front ≠ "" := by
    intro empty
    obtain rfl : front = [] := by simpa using congrArg String.toList empty
    exact h.filled (String.toList_eq_nil_iff.mp (List.head?_eq_none_iff.mp start.symm))
  have noNul : '\x00' ∉ (String.ofList front).toList := by
    rw [String.toList_ofList]
    exact fun nul => h.noNul (isFront.subset nul)
  have inside : ".." ∉ (Path.mk (String.ofList front)).pieces.dropLast := by
    intro earlier
    refine h.inside ?_
    rw [← String.ofList_toList (s := name)]
    exact Path.mem_pieces_of_prefix isFront earlier
  have fits := utf8ByteSize_tidied_le (Path.pieces_ne_nil relative filled)
  rw [headerName?_of_relative relative filled noNul inside (.inl rfl),
    if_pos (Nat.le_trans fits short)]
  rfl

/-- No acceptable name is refused. -/
theorem storedName?_of_acceptable (h : Acceptable name) :
    storedName? name = some (nameIn name) := by
  have earlier : ".." ∉ (Path.mk name).pieces.dropLast := fun member =>
    h.inside ((List.dropLast_sublist _).subset member)
  have tells := @headerName?_of_relative ⟨name⟩ false h.relative h.filled h.noNul earlier
    (.inr h.inside)
  by_cases fits : (tidied ⟨name⟩).utf8ByteSize ≤ headerRoom
  · rw [if_pos fits] at tells
    rw [storedName?, tells, nameIn, if_pos fits]
  · have long : ¬ name.utf8ByteSize < headerRoom := fun short =>
      fits (Nat.le_trans (utf8ByteSize_tidied_le (Path.pieces_ne_nil h.relative h.filled))
        (Nat.le_of_lt short))
    obtain ⟨told, front⟩ := Option.isSome_iff_exists.mp h.headerName?_front
    rw [if_neg fits] at tells
    rw [storedName?, tells, nameIn, if_neg fits]
    dsimp only
    rw [if_neg long, front]
    rfl

example : nameIn "./x//a" = "x/a" ∧ nameIn "x/." = "x" ∧ nameIn "./." = "." := by decide +kernel

/-! ## The names along which a stored name leads -/

theorem isPiece_of_mem_headerComponents {component : String} (h : component ∈ headerComponents p) :
    Path.IsPiece component :=
  Path.isPiece_of_mem_pieces ((headerComponents_sublist p).subset h)

/-- The components of a header name lead along the names of the path. -/
theorem filter_headerComponents (p : Path) : (headerComponents p).filter (· ≠ ".") = p.names := by
  rw [headerComponents]
  split
  · next none_left =>
    rw [Bool.and_eq_true, List.isEmpty_iff] at none_left
    rw [none_left.1]
    rfl
  · rw [Path.names, List.filter_filter]
    simp

theorem names_of_headerName? {cut : Bool} {stored : String}
    (h : headerName? cut p = some stored) : (Path.mk stored).names = p.names := by
  unfold headerName? at h
  dsimp only at h
  rw [Option.ite_none_right_eq_some] at h
  obtain ⟨taken, name⟩ := h
  obtain rfl := Option.some.inj name
  have components : headerComponents p ≠ [] := by
    intro none_there
    simp [none_there] at taken
  have isPiece : ∀ component ∈ headerComponents p, Path.IsPiece component :=
    fun _ => isPiece_of_mem_headerComponents
  rw [← filter_headerComponents p, Path.names]
  split
  · rw [Path.pieces_intercalate_slash isPiece components]
  · rw [String.append_empty, Path.pieces_intercalate isPiece]

/-- The name that is stored leads along the same names as the one that was given. -/
theorem names_of_storedName? {stored : String} (h : storedName? name = some stored) :
    (Path.mk stored).names = (Path.mk name).names := by
  unfold storedName? at h
  cases short : headerName? false ⟨name⟩ with
  | some header =>
    rw [short] at h
    obtain rfl := Option.some.inj h
    exact names_of_headerName? short
  | none =>
    rw [short] at h
    dsimp only at h
    split at h
    · cases h
    · obtain ⟨front, -, rfl⟩ := Option.map_eq_some_iff.mp h
      rfl

end Tarball
end ReleaseBuilder
