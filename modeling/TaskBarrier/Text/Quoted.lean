import TaskBarrier.Text.Invisible

/-!
# Quoted text

Text inside a description stands between double quotes.  A quote and a backslash are preceded by
a backslash, tab, line feed, carriage return and the null character have a letter of their own,
every other character that does not show is written by its code in hexadecimal, and all else
stands as it is.

## Main Definitions

- `Quoted.escape`: what stands for one character.
- `Quoted.quote`: a whole text between its quotes.
-/

namespace TaskBarrier

namespace Quoted

/-- A character by its code: a backslash, `u`, and the hexadecimal digits between braces. -/
def byCode (c : Char) : List Char :=
  '\\' :: 'u' :: '\x7b' :: Nat.toDigits 16 c.toNat ++ ['\x7d']

/-- What stands for one character inside quoted text. -/
def escape (c : Char) : List Char :=
  if c = '"' then ['\\', '"']
  else if c = '\\' then ['\\', '\\']
  else if c = '\t' then ['\\', 't']
  else if c = '\n' then ['\\', 'n']
  else if c = '\r' then ['\\', 'r']
  else if c.toNat = 0 then ['\\', '0']
  else if isInvisible c then byCode c
  else [c]

/-- The text between double quotes, with every character escaped. -/
def quote (s : String) : String :=
  String.ofList ('"' :: s.toList.flatMap escape ++ ['"'])

end Quoted

end TaskBarrier
