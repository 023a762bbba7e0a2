/-
# Quoted text

Text between quotation marks for diagnostics. Quotation marks and backslashes follow a backslash;
characters that cannot be seen are written as letters or by their number.

* `quoted` : a text between quotation marks.
-/
import PagedTables.Text.CharClass

namespace PagedTables

/-- A character by its number in hexadecimal. -/
def numberedChar (c : Char) : List Char :=
  '\\' :: 'u' :: '\x7b' :: Nat.toDigits 16 c.toNat ++ ['\x7d']

/-- A character inside quotation marks. -/
def quotedChar (c : Char) : List Char :=
  if c = '\x00' then ['\\', '0']
  else if c = '\t' then ['\\', 't']
  else if c = '\r' then ['\\', 'r']
  else if c = '\n' then ['\\', 'n']
  else if c = '"' then ['\\', '"']
  else if c = '\\' then ['\\', '\\']
  else if CharClass.combining.contains c || CharClass.unprintable.contains c then numberedChar c
  else [c]

/-- A text between quotation marks. -/
def quoted (s : String) : String :=
  String.ofList ('"' :: s.toList.flatMap quotedChar ++ ['"'])

end PagedTables
