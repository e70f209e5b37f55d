import LayeredMap.Instant
import LayeredMap.Text.Blank

/-!
# Written instants

Written as date and time in UTC with the fewest of 0, 3, 6 or 9 fraction
digits that are exact. Reading is laxer: blanks between the parts, fewer
digits in them, a fraction of any length of which nine digits count, and any
offset from UTC below a day. Years with a sign may be as long as they like.
-/
namespace LayeredMap.Instant

def padded (width n : Nat) : List Char :=
  let ds := Nat.toDigits 10 n
  List.replicate (width - ds.length) '0' ++ ds

/-- Years outside four digits carry their sign. -/
def yearText (y : Int) : List Char :=
  if 0 ≤ y ∧ y ≤ 9999 then padded 4 y.toNat
  else (if y < 0 then '-' else '+') :: padded 4 y.natAbs

def fractionText (nanos : Nat) : List Char :=
  if nanos = 0 then []
  else if nanos % 1000000 = 0 then '.' :: padded 3 (nanos / 1000000)
  else if nanos % 1000 = 0 then '.' :: padded 6 (nanos / 1000)
  else '.' :: padded 9 nanos

def toText (t : Instant) : String :=
  let days := t.seconds.fdiv 86400
  let ofDay := (t.seconds - days * 86400).toNat
  let date := Date.ofDays days
  let leap := t.nanos / 1000000000
  String.ofList <|
    yearText date.year ++ '-' :: padded 2 date.month ++ '-' :: padded 2 date.day
      ++ 'T' :: padded 2 (ofDay / 3600) ++ ':' :: padded 2 (ofDay / 60 % 60)
      ++ ':' :: padded 2 (ofDay % 60 + leap) ++ fractionText (t.nanos % 1000000000) ++ ['Z']

/-- Reads part of a text and leaves the rest. -/
abbrev Reader (α : Type) := List Char → Option (α × List Char)

def decimalValue (cs : List Char) : Nat :=
  cs.foldl (fun n c => 10 * n + (c.toNat - '0'.toNat)) 0

/-- At least one digit and at most `width`. -/
def number (width : Nat) : Reader Nat := fun cs =>
  let ds := (cs.take width).takeWhile Char.isDigit
  if ds.isEmpty then none else some (decimalValue ds, cs.drop ds.length)

/-- A number of at most `width` digits in a range, after blanks. -/
def bounded (width lo hi : Nat) : Reader Nat := fun cs =>
  match number width (Text.trimStart cs) with
  | some (n, rest) => if lo ≤ n ∧ n ≤ hi then some (n, rest) else none
  | none => none

def year : Reader Int := fun cs =>
  match Text.trimStart cs with
  | '-' :: cs => (number cs.length cs).map fun (n, rest) => (-(n : Int), rest)
  | '+' :: cs => (number cs.length cs).map fun (n, rest) => ((n : Int), rest)
  | cs => (number 4 cs).map fun (n, rest) => ((n : Int), rest)

/-- A separator, after blanks. -/
def separator (c : Char) (cs : List Char) : Option (List Char) :=
  match Text.trimStart cs with
  | c' :: rest => if c' = c then some rest else none
  | [] => none

/-- Nanoseconds from the digits behind a point. -/
def fraction : Reader Nat := fun cs =>
  match cs with
  | '.' :: cs =>
    let ds := cs.takeWhile Char.isDigit
    if ds.isEmpty then none
    else
      let kept := ds.take 9
      some (decimalValue kept * Nat.pow 10 (9 - kept.length), cs.drop ds.length)
  | _ => some (0, cs)

/-- Two digits, of which the first is at most `most`. -/
def twoDigits (most : Char) : Reader Nat := fun cs =>
  match cs with
  | a :: b :: rest =>
    if a.isDigit ∧ a ≤ most ∧ b.isDigit then some (decimalValue [a, b], rest) else none
  | _ => none

/-- The offset from UTC in seconds. Colons and blanks between hours and minutes are skipped. -/
def offset : Reader Int := fun cs =>
  let signed (sign : Int) (cs : List Char) : Option (Int × List Char) := do
    let (h, cs) ← twoDigits '9' cs
    let (m, cs) ← twoDigits '5' (cs.dropWhile fun c => c = ':' || Text.isBlank c)
    return (sign * (h * 3600 + m * 60 : Nat), cs)
  let cs := Text.trimStart cs
  if Text.sameLetters (String.ofList (cs.take 3)) "UTC" then some (0, cs.drop 3)
  else
    match cs with
    | 'Z' :: cs | 'z' :: cs => some (0, cs)
    | '+' :: cs => signed 1 cs
    | '-' :: cs | '\u2212' :: cs => signed (-1) cs
    | _ => none

def date : Reader Date := fun cs => do
  let (y, cs) ← year cs
  let cs ← separator '-' cs
  let (m, cs) ← bounded 2 1 12 cs
  let cs ← separator '-' cs
  let (d, cs) ← bounded 2 1 31 cs
  return ({ year := y, month := m, day := d }, cs)

/-- The second of the day, and nanoseconds; a 60th second lengthens the one before. -/
def timeOfDay : Reader (Nat × Nat) := fun cs => do
  let (h, cs) ← bounded 2 0 23 cs
  let cs ← separator ':' cs
  let (m, cs) ← bounded 2 0 59 cs
  let cs ← separator ':' cs
  let (s, cs) ← bounded 2 0 60 cs
  let (nanos, cs) ← fraction cs
  let leap := s / 60
  return ((h * 3600 + m * 60 + (s - leap), nanos + leap * 1000000000), cs)

/-- The years that instants may be in. -/
def inRange (y : Int) : Bool := -262143 ≤ y && y ≤ 262142

def ofText? (s : String) : Option Instant := do
  let (date, cs) ← date s.toList
  let cs ← match cs with
    | 't' :: cs | 'T' :: cs | ' ' :: cs => some cs
    | _ => none
  let ((second, nanos), cs) ← timeOfDay cs
  let (offset, cs) ← offset cs
  if !cs.all Text.isBlank || !date.isValid || !inRange date.year || 86400 ≤ offset.natAbs then none
  else
    let seconds := date.toDays * 86400 + second - offset
    if inRange (Date.ofDays (seconds.fdiv 86400)).year then some { seconds, nanos } else none

end LayeredMap.Instant
