import DeployChecks.Text.PrintableTable

/-!
# Text/Quoted — quoted text for readers

A text between double quotes in which every character that cannot be shown is escaped.  Main
definitions: `quotedChar` and `quoted`.
-/

namespace DeployChecks

namespace Text

/-- **The quoted form of one character**: short escapes for the common controls, the backslash
and the quote, the hexadecimal code point for all else that cannot be shown. -/
def quotedChar (c : Char) : List Char :=
  if c = Char.ofNat 0 then ['\\', '0']
  else if c = '\t' then ['\\', 't']
  else if c = '\r' then ['\\', 'r']
  else if c = '\n' then ['\\', 'n']
  else if c = '\\' then ['\\', '\\']
  else if c = '"' then ['\\', '"']
  else if isPlain c then [c]
  else ['\\', 'u', '\x7b'] ++ Nat.toDigits 16 c.toNat ++ ['\x7d']

/-- **A text in double quotes.** -/
def quoted (s : String) : String :=
  String.ofList ('"' :: s.toList.flatMap quotedChar ++ ['"'])

end Text

end DeployChecks
