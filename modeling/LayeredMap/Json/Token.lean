import LayeredMap.Decimal.Numeral
import LayeredMap.Text.Hex

/-!
# Tokens

A text is cut into tokens up to the first place where none fits; there a
`bad` token ends the row. Two kinds of token may be well formed and still have
no value: a number beyond the doubles, and a string whose escapes name half of
a surrogate pair. A reader that skips them does not mind.
-/
namespace LayeredMap

inductive Token where
  | openArray
  | closeArray
  | openObject
  | closeObject
  | comma
  | colon
  | null
  | bool (b : Bool)
  | number (n : Option Number)
  | string (s : Option String)
  | bad
  deriving DecidableEq

/-- A piece of a written string: a character, or a unit given by four hexadecimal digits. -/
inductive Piece where
  | char (c : Char)
  | unit (n : Nat)
  deriving DecidableEq

namespace Piece

def ofEscape? : Char → Option Piece
  | '"' => some (.char '"')
  | '\\' => some (.char '\\')
  | '/' => some (.char '/')
  | 'b' => some (.char '\x08')
  | 'f' => some (.char '\x0c')
  | 'n' => some (.char '\n')
  | 'r' => some (.char '\r')
  | 't' => some (.char '\t')
  | _ => none

/-- The pieces up to the closing quote, and what follows it. -/
def scan : List Char → Option (List Piece × List Char)
  | [] => none
  | '"' :: rest => some ([], rest)
  | '\\' :: 'u' :: a :: b :: c :: d :: rest =>
    match Text.unhex? [a, b, c, d], scan rest with
    | some n, some (ps, rest) => some (.unit n :: ps, rest)
    | _, _ => none
  | '\\' :: e :: rest =>
    match ofEscape? e, scan rest with
    | some p, some (ps, rest) => some (p :: ps, rest)
    | _, _ => none
  | c :: rest =>
    if c = '\\' ∨ c.toNat < 0x20 then none
    else (scan rest).map fun (ps, rest) => (.char c :: ps, rest)

theorem length_lt_of_scan {cs rest : List Char} {ps : List Piece}
    (h : Piece.scan cs = some (ps, rest)) : rest.length < cs.length := by
  fun_induction Piece.scan cs generalizing ps rest with
  | case1 => simp at h
  | case2 rest' => simp_all
  | case3 => simp_all; grind
  | case4 => simp_all
  | case5 => simp_all; grind
  | case6 => simp_all
  | case7 => simp_all
  | case8 => simp_all; grind

def isHigh (n : Nat) : Bool := 0xD800 ≤ n && n ≤ 0xDBFF

def isLow (n : Nat) : Bool := 0xDC00 ≤ n && n ≤ 0xDFFF

/-- The text of the pieces; a high surrogate must have its low one right behind it. -/
def join : List Piece → Option (List Char)
  | [] => some []
  | .char c :: ps => (join ps).map (c :: ·)
  | .unit h :: .unit l :: ps =>
    if isHigh h then
      if isLow l then
        (join ps).map (Char.ofNat (0x10000 + (h - 0xD800) * 0x400 + (l - 0xDC00)) :: ·)
      else none
    else if isLow h then none
    else (join (.unit l :: ps)).map (Char.ofNat h :: ·)
  | .unit n :: ps =>
    if isHigh n || isLow n then none else (join ps).map (Char.ofNat n :: ·)

end Piece

namespace Token

def isBlank (c : Char) : Bool := c = ' ' || c = '\t' || c = '\n' || c = '\r'

/-- A fixed word at the start of a text. -/
def scanWord (word : String) (t : Token) (cs : List Char) : Token × List Char :=
  if word.toList.isPrefixOf cs then (t, cs.drop word.length) else (.bad, [])

/-- The first token of a text that does not start with a blank. -/
def scan (cs : List Char) : Token × List Char :=
  match cs with
  | '[' :: rest => (.openArray, rest)
  | ']' :: rest => (.closeArray, rest)
  | '{' :: rest => (.openObject, rest)
  | '}' :: rest => (.closeObject, rest)
  | ',' :: rest => (.comma, rest)
  | ':' :: rest => (.colon, rest)
  | 'n' :: _ => scanWord "null" .null cs
  | 't' :: _ => scanWord "true" (.bool true) cs
  | 'f' :: _ => scanWord "false" (.bool false) cs
  | '"' :: rest =>
    match Piece.scan rest with
    | some (ps, rest) => (.string ((Piece.join ps).map String.ofList), rest)
    | none => (.bad, [])
  | _ =>
    match Numeral.scan cs with
    | some (n, rest) => (.number n.read, rest)
    | none => (.bad, [])

theorem length_scanWord_lt (word : String) (t : Token) (c : Char) (cs : List Char)
    (h : word.length ≠ 0) : (scanWord word t (c :: cs)).2.length < (c :: cs).length := by
  unfold scanWord
  split
  · simp
    omega
  · simp

/-- A token takes up some of the text. -/
theorem length_scan_lt (c : Char) (cs : List Char) :
    (scan (c :: cs)).2.length < (c :: cs).length := by
  unfold scan
  split
  case h_7 | h_8 | h_9 => exact length_scanWord_lt _ _ _ _ (by decide)
  case h_10 h =>
    split
    · rename_i hs
      have := Piece.length_lt_of_scan hs
      simp_all
      omega
    · simp
  case h_11 =>
    split
    · rename_i hs
      exact Numeral.length_lt_of_scan hs
    · simp
  all_goals simp_all

/-- All tokens of a text. -/
def all (cs : List Char) : List Token :=
  match _h : cs.dropWhile isBlank with
  | [] => []
  | c :: rest =>
    let s := scan (c :: rest)
    s.1 :: all s.2
termination_by cs.length
decreasing_by
  have h₁ := (List.dropWhile_suffix (l := cs) isBlank).length_le
  rw [_h] at h₁
  exact Nat.lt_of_lt_of_le (length_scan_lt c rest) h₁

end Token

end LayeredMap
