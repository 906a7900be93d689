/-
# Blank characters

White space as the Unicode property White_Space fixes it, and the trimming of a
text by it. The kernel names, installer paths and version literals that a release
reads are all trimmed this way, so a no-break space counts and a zero-width space
does not.
-/

namespace ReleaseBuilder.Text

/-- Membership in the Unicode property White_Space, range by range. -/
def isBlank (c : Char) : Bool :=
  let n := c.toNat
  (0x09 ≤ n && n ≤ 0x0D) || n == 0x20 || n == 0x85 || n == 0xA0 || n == 0x1680 ||
    (0x2000 ≤ n && n ≤ 0x200A) || n == 0x2028 || n == 0x2029 || n == 0x202F ||
    n == 0x205F || n == 0x3000

/-- Drop the blank characters at the front. -/
def trimFront (cs : List Char) : List Char :=
  cs.dropWhile isBlank

/-- Drop the blank characters at the back. -/
def trimBack (cs : List Char) : List Char :=
  (cs.reverse.dropWhile isBlank).reverse

/-- Drop the blank characters at both ends. -/
def trimBoth (cs : List Char) : List Char :=
  trimBack (trimFront cs)

/-- A text without its surrounding blanks. -/
def trim (s : String) : String :=
  String.ofList (trimBoth s.toList)

/-- A text without its trailing blanks; the leading ones stay. -/
def trimEnd (s : String) : String :=
  String.ofList (trimBack s.toList)

@[simp] theorem trimBoth_nil : trimBoth [] = [] := rfl

end ReleaseBuilder.Text
