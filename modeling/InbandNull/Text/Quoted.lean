import InbandNull.Text.Printable

/-!
# Quoted text

Messages show a text between double quotes, with a backslash before a quote or a backslash, a letter
for the common control characters, and the code point of any other character that leaves no mark of
its own on a page. A single quote is shown as it is.
-/

namespace InbandNull.Text

/-- The hexadecimal digits of a code point, in lower case and without leading zeros. -/
def hexDigits (n : Nat) : List Char := Nat.toDigits 16 n

def showChar (c : Char) : List Char :=
  if c = '"' then ['\\', '"']
  else if c = '\\' then ['\\', '\\']
  else if c = '\n' then ['\\', 'n']
  else if c = '\t' then ['\\', 't']
  else if c = '\r' then ['\\', 'r']
  else if c = '\x00' then ['\\', '0']
  else if isPrintable c then [c]
  else ['\\', 'u', '\x7b'] ++ hexDigits c.toNat ++ ['\x7d']

def quoted (s : String) : String :=
  String.ofList ('"' :: s.toList.flatMap showChar ++ ['"'])

end InbandNull.Text
