import KvBridge.Text.Blank

/-!
# Quoted text

Keys and names stand in messages between double quotes, so that they can be told from the words
around them. Inside the quotes, the quote and the backslash stand behind a backslash, five
controls have an escape of one letter, and any other character that is blank on the page is
written by its code point. All else stands for itself.

* `escape`: how one character is written;
* `quoted`: how a text is written.
-/

namespace KvBridge.Text

/-- Lower-case hexadecimal digits without leading zeros. -/
def hexDigits (n : Nat) : List Char := Nat.toDigits 16 n

/-- How one character stands between quotes. -/
def escape (c : Char) : List Char :=
  if c = '\x00' then ['\\', '0']
  else if c = '\t' then ['\\', 't']
  else if c = '\r' then ['\\', 'r']
  else if c = '\n' then ['\\', 'n']
  else if c = '"' then ['\\', '"']
  else if c = '\\' then ['\\', '\\']
  else if isBlank c then ['\\', 'u', '\x7b'] ++ hexDigits c.toNat ++ ['\x7d']
  else [c]

/-- A text between double quotes. -/
def quoted (s : String) : String :=
  String.ofList ('"' :: s.toList.flatMap escape ++ ['"'])

end KvBridge.Text
