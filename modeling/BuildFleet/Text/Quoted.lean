import BuildFleet.Text.Visible
/-!
# Quoted text

A text between double quotes in which nothing is hidden: quotes and backslashes are escaped, the
common controls have a letter, and every other character that cannot be shown stands as its number.
-/
namespace BuildFleet.Text

def hexDigit (n : Nat) : Char := if n < 10 then Char.ofNat (48 + n) else Char.ofNat (87 + n)

def hexNumber (n : Nat) : List Char := (Nat.toDigits 16 n)

def quoteChar (c : Char) : List Char :=
  if c = '"' then ['\\', '"']
  else if c = '\\' then ['\\', '\\']
  else if c = '\n' then ['\\', 'n']
  else if c = '\r' then ['\\', 'r']
  else if c = '\t' then ['\\', 't']
  else if c.toNat = 0 then ['\\', '0']
  else if isVisible c then [c]
  else ['\\', 'u', '\x7b'] ++ hexNumber c.toNat ++ ['\x7d']

def quoted (s : String) : String :=
  "\"" ++ String.ofList (s.toList.flatMap quoteChar) ++ "\""

end BuildFleet.Text
