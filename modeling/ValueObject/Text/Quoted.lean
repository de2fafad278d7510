/-
# ValueObject.Text.Quoted -- names between quotes in messages

A message shows a path between double quotes, so that its ends can be seen. Inside the quotes a
quote or a backslash gets a backslash in front, the usual controls have their letters, and any
other character that cannot be printed is shown by its number.
-/

import ValueObject.Text.Unprintable

namespace ValueObject.Text

/-- A character by its number in lower-case hexadecimal. -/
def showCode (c : Char) : List Char :=
  "\\u\x7b".toList ++ Nat.toDigits 16 c.toNat ++ ['\x7d']

/-- One character inside quotes. -/
def quoteChar (c : Char) : List Char :=
  if c.toNat = 0 then ['\\', '0']
  else if c = '\t' then ['\\', 't']
  else if c = '\n' then ['\\', 'n']
  else if c = '\r' then ['\\', 'r']
  else if c = '"' then ['\\', '"']
  else if c = '\\' then ['\\', '\\']
  else if isUnprintable c then showCode c
  else [c]

/-- **A name between quotes.** -/
def quoted (s : String) : String :=
  "\"" ++ String.ofList (s.toList.flatMap quoteChar) ++ "\""

end ValueObject.Text
