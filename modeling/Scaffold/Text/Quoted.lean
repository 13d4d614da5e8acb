import Scaffold.Text.Printable

/-!
Text in log lines. In double quotes, quotes, backslashes and characters that cannot be shown are
escaped; elsewhere only the control characters that a terminal would act on.
-/

namespace Scaffold.Text

/-- A character by its number in hexadecimal. -/
def numbered (c : Char) : List Char := "\\u\x7b".toList ++ Nat.toDigits 16 c.toNat ++ ['\x7d']

def escape (c : Char) : List Char :=
  if c = '\x00' then ['\\', '0']
  else if c = '\t' then ['\\', 't']
  else if c = '\r' then ['\\', 'r']
  else if c = '\n' then ['\\', 'n']
  else if c = '\\' then ['\\', '\\']
  else if c = '"' then ['\\', '"']
  else if isPrintable c then [c]
  else numbered c

def quoted (text : String) : String :=
  String.ofList ('"' :: text.toList.flatMap escape ++ ['"'])

/-- A control character that starts a terminal sequence, rings, or moves back. -/
def maskControl (c : Char) : List Char :=
  if c = '\x1b' then "\\x1b".toList
  else if c = '\x07' then "\\x07".toList
  else if c = '\x08' then "\\x08".toList
  else if c = '\x0c' then "\\x0c".toList
  else if c = '\x7f' then "\\x7f".toList
  else if 0x80 ≤ c.toNat && c.toNat ≤ 0x9F then numbered c
  else [c]

def masked (text : String) : String := String.ofList (text.toList.flatMap maskControl)

end Scaffold.Text
