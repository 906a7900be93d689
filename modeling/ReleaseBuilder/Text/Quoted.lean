/-
# Quoted texts

A text as it is shown inside a message: between quotes, with the quote, the backslash
and the common controls escaped by a letter, and characters that leave no mark shown by
their numbers.
-/

import ReleaseBuilder.Text.Markless

namespace ReleaseBuilder.Text

/-- A character shown by its number. -/
def numbered (c : Char) : List Char :=
  "\\u\x7b".toList ++ Nat.toDigits 16 c.toNat ++ ['\x7d']

/-- A character as it is shown between quotes. -/
def shownChar (c : Char) : List Char :=
  match c with
  | '\x00' => ['\\', '0']
  | '\t' => ['\\', 't']
  | '\r' => ['\\', 'r']
  | '\n' => ['\\', 'n']
  | '"' => ['\\', '"']
  | '\\' => ['\\', '\\']
  | c => if isMarkless c then numbered c else [c]

/-- A text between quotes. -/
def quoted (s : String) : String :=
  "\"" ++ String.ofList (s.toList.flatMap shownChar) ++ "\""

example : quoted "a\"b\n" = "\"a\\\"b\\n\"" := by decide

end ReleaseBuilder.Text
