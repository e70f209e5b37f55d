import LayeredMap.Decimal.Shortest
import LayeredMap.Json.Value
import LayeredMap.Text.Hex

/-!
# Writing documents

Compact or, with two blanks a level, spread over lines. Doubles are written
with the fewest digits that read back, plainly if the exponent of the leading
digit is at least -5 and below 16; NaN and the infinities are written as null.
-/
namespace LayeredMap.Json

def escape (c : Char) : List Char :=
  if c = '"' then ['\\', '"']
  else if c = '\\' then ['\\', '\\']
  else if c = '\x08' then ['\\', 'b']
  else if c = '\x0c' then ['\\', 'f']
  else if c = '\n' then ['\\', 'n']
  else if c = '\r' then ['\\', 'r']
  else if c = '\t' then ['\\', 't']
  else if c.toNat < 0x20 then '\\' :: 'u' :: Text.hex 4 c.toNat
  else [c]

def quote (s : String) : List Char := '"' :: s.toList.flatMap escape ++ ['"']

/-- The digits `ds` with the first at the exponent `e`. -/
def placed (ds : List Char) (e : Int) : List Char :=
  if -5 ≤ e ∧ e < 16 then
    if e < 0 then "0.".toList ++ List.replicate (-e - 1).toNat '0' ++ ds
    else
      let before := e.toNat + 1
      let whole := ds.take before ++ List.replicate (before - ds.length) '0'
      let rest := ds.drop before
      whole ++ '.' :: (if rest.isEmpty then ['0'] else rest)
  else
    let point := match ds.drop 1 with
      | [] => []
      | rest => '.' :: rest
    let sign := if e < 0 then '-' else '+'
    ds.take 1 ++ point ++ 'e' :: sign :: Nat.toDigits 10 e.natAbs

def ofReal (x : Float) : List Char :=
  if !x.isFinite then "null".toList
  else
    let (m, q) := Decimal.ofBits x.toBits
    let sign := if x.toBits.toNat.testBit 63 then ['-'] else []
    if m = 0 then sign ++ "0.0".toList
    else
      let (c, k) := Decimal.shortest m q
      let ds := Nat.toDigits 10 c
      sign ++ placed ds (k + ds.length - 1)

def ofInteger (n : Int) : List Char :=
  (if n < 0 then ['-'] else []) ++ Nat.toDigits 10 n.natAbs

def ofNumber : Number → List Char
  | .integer n => ofInteger n
  | .real x => ofReal x

/-- What stands between the tokens. -/
structure Layout where
  newline : (depth : Nat) → List Char
  colon : List Char

def Layout.compact : Layout := { newline := fun _ => [], colon := [':'] }

def Layout.pretty : Layout :=
  { newline := fun depth => '\n' :: List.replicate (2 * depth) ' ', colon := [':', ' '] }

mutual
def write (l : Layout) (depth : Nat) : Json → List Char
  | .null => "null".toList
  | .bool true => "true".toList
  | .bool false => "false".toList
  | .number n => ofNumber n
  | .string s => quote s
  | .array [] => ['[', ']']
  | .array (v :: vs) =>
    '[' :: l.newline (depth + 1) ++ write l (depth + 1) v ++ writeItems l (depth + 1) vs
      ++ l.newline depth ++ [']']
  | .object [] => ['{', '}']
  | .object ((k, v) :: ms) =>
    '{' :: l.newline (depth + 1) ++ quote k ++ l.colon ++ write l (depth + 1) v
      ++ writeMembers l (depth + 1) ms ++ l.newline depth ++ ['}']

def writeItems (l : Layout) (depth : Nat) : List Json → List Char
  | [] => []
  | v :: vs => ',' :: l.newline depth ++ write l depth v ++ writeItems l depth vs

def writeMembers (l : Layout) (depth : Nat) : List (String × Json) → List Char
  | [] => []
  | (k, v) :: ms =>
    ',' :: l.newline depth ++ quote k ++ l.colon ++ write l depth v ++ writeMembers l depth ms
end

def compact (v : Json) : String := String.ofList (write .compact 0 v)

def pretty (v : Json) : String := String.ofList (write .pretty 0 v)

end LayeredMap.Json
