import LayeredMap.Text.Printable

/-!
# Quoted texts

A text between quotation marks for a person to read: what would break the
quotation or does not show is written as an escape.
-/
namespace LayeredMap.Text

def escapeForReading (c : Char) : List Char :=
  if c = '\x00' then ['\\', '0']
  else if c = '\t' then ['\\', 't']
  else if c = '\r' then ['\\', 'r']
  else if c = '\n' then ['\\', 'n']
  else if c = '"' || c = '\\' then ['\\', c]
  else if isPrintable c then [c]
  else ['\\', 'u', '{'] ++ Nat.toDigits 16 c.toNat ++ ['}']

def quoted (s : String) : String :=
  String.ofList ('"' :: s.toList.flatMap escapeForReading ++ ['"'])

end LayeredMap.Text
