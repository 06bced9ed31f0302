import Loading.Text.Printable

/-!
# Quoted texts

How a text is shown inside the description of a value: between double quotes,
with a backslash before a double quote or a backslash, and with escapes for what
cannot be shown as it is.

* `quote` — the quoted form of a text.
* `bracket` — several shown values in brackets.
-/

namespace Loading.Text

/-- The digits of a code point in base sixteen, in lower case. -/
def hexDigits (n : Nat) : List Char :=
  Nat.toDigits 16 n

/-- One character of a quoted text. -/
def quoteChar (c : Char) : List Char :=
  if c = '"' ∨ c = '\\' then ['\\', c]
  else if c = '\t' then ['\\', 't']
  else if c = '\r' then ['\\', 'r']
  else if c = '\n' then ['\\', 'n']
  else if c = '\x00' then ['\\', '0']
  else if isPrintable c then [c]
  else ['\\', 'u', '\x7b'] ++ hexDigits c.toNat ++ ['\x7d']

/-- The quoted form of a text. -/
def quote (s : String) : String :=
  String.ofList ('"' :: s.toList.flatMap quoteChar ++ ['"'])

/-- Shown values in brackets, with a comma between each two. -/
def bracket (shown : List String) : String :=
  "[" ++ ", ".intercalate shown ++ "]"

end Loading.Text
