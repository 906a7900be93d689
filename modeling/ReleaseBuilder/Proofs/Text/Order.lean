/-
# The order of texts

Texts are ordered by their characters, and that is the order of their octets: UTF-8 spells a later
character with octets that come later, so the first character in which two texts differ decides
both orders.
-/

import ReleaseBuilder.Text.Utf8

namespace ReleaseBuilder.Text

/-- The octets that spell a text, as a list. -/
def octets (s : String) : List UInt8 :=
  (encode s).data.toList

theorem octets_eq_flatMap (s : String) : octets s = s.toList.flatMap String.utf8EncodeChar := by
  conv => lhs; rw [← String.ofList_toList (s := s)]
  rw [octets, encode, String.toUTF8_eq_toByteArray, String.toByteArray_ofList]
  exact List.toList_data_toByteArray

/-- Two lists of octets differ somewhere, and the first has the lesser octet where they first
do. -/
inductive Precedes : List UInt8 → List UInt8 → Prop
  | here {a b : UInt8} {x y : List UInt8} (less : a < b) : Precedes (a :: x) (b :: y)
  | there {a : UInt8} {x y : List UInt8} (later : Precedes x y) : Precedes (a :: x) (a :: y)

/-- Whatever follows, the order is decided. -/
theorem Precedes.append_lt {x y : List UInt8} (h : Precedes x y) (u v : List UInt8) :
    x ++ u < y ++ v := by
  induction h with
  | here less => exact List.cons_lt_cons_iff.mpr (.inl less)
  | there later ih => exact List.cons_lt_cons_iff.mpr (.inr ⟨rfl, ih⟩)

/-- The octets of two numbers decide, or they are the same and what stands behind them decides. -/
theorem Precedes.of_le {m n : Nat} {x y : List UInt8} (le : m ≤ n) (small : n < 256)
    (later : m = n → Precedes x y) :
    Precedes (UInt8.ofNat m :: x) (UInt8.ofNat n :: y) := by
  by_cases same : m = n
  · subst same
    exact .there (later rfl)
  · refine .here ((UInt8.ofNat_lt_iff_lt ?_ small).mpr ?_)
    · exact Nat.lt_of_le_of_lt le small
    · omega

/-- A later character has later octets. -/
theorem precedes_utf8EncodeChar {c d : Char} (h : c < d) :
    Precedes (String.utf8EncodeChar c) (String.utf8EncodeChar d) := by
  have less : c.val.toNat < d.val.toNat := UInt32.lt_iff_toNat_lt.mp (Char.lt_def.mp h)
  have bounded : d.val.toNat < 0x110000 := by
    rcases d.valid with low | ⟨-, high⟩
    · exact Nat.lt_trans low (by decide)
    · exact high
  simp only [String.utf8EncodeChar]
  generalize c.val.toNat = m at less
  generalize d.val.toNat = n at less bounded
  -- A later character has no fewer octets, and the first one tells how many there are. Where they
  -- are as many, each octet holds the next digits of the number: it is the greater one, or the same
  -- and the next one decides.
  repeat' split
  all_goals
    repeat' first
      | exact absurd less (by omega)
      | refine Precedes.of_le (by omega) (by omega) fun _ => ?_

theorem flatMap_utf8EncodeChar_lt {cs ds : List Char} (h : cs < ds) :
    cs.flatMap String.utf8EncodeChar < ds.flatMap String.utf8EncodeChar := by
  have lex : List.Lex (· < ·) cs ds := h
  clear h
  induction lex with
  | @nil d ds =>
    have spelled : String.utf8EncodeChar d ≠ [] := String.utf8EncodeChar_ne_nil
    obtain ⟨octet, more, same⟩ := List.exists_cons_of_ne_nil spelled
    simp [same]
  | rel less => exact (precedes_utf8EncodeChar less).append_lt _ _
  | cons later ih => exact List.append_left_lt ih

/-- A text that comes earlier has octets that come earlier. -/
theorem octets_lt_of_lt {a b : String} (h : a < b) : octets a < octets b := by
  rw [octets_eq_flatMap, octets_eq_flatMap]
  exact flatMap_utf8EncodeChar_lt (String.lt_iff.mp h)

end ReleaseBuilder.Text
