import Mathlib
import LayeredMap.Json.Printer
import LayeredMap.Json.Token

/-!
# Scanning what was written

Writing a value and cutting the text into tokens yields the tokens of the value,
in either layout. Strings come back with every character, since each one is
escaped as a piece that stands for it. A numeral ends where it is followed by a
comma, a closing sign or a blank, and nothing else is ever written behind one.
How numbers are written is not looked into here: it is enough that each of them
makes up one token.
-/

namespace LayeredMap

/-! ## Hexadecimal digits -/

namespace Text

theorem hexValue?_hexDigit (n : ℕ) : hexValue? (hexDigit n) = some (n % 16) := by
  have digits : ∀ d < 16, hexValue? (Nat.digitChar d) = some d := by decide
  exact digits (n % 16) (Nat.mod_lt n (by decide))

/-- Reading takes the digits to a number below the power of their count. -/
theorem unhex?_hex (width n : ℕ) : unhex? (hex width n) = some (n % 16 ^ width) := by
  induction width generalizing n with
  | zero => simp [hex, unhex?, Nat.mod_one]
  | succ width ih =>
    have before : unhex? (hex width (n / 16)) = some (n / 16 % 16 ^ width) := ih (n / 16)
    have value : 16 * (n / 16 % 16 ^ width) + n % 16 = n % 16 ^ (width + 1) := by
      rw [pow_succ', Nat.mod_mul, Nat.add_comm]
    rw [unhex?] at before
    rw [hex, unhex?, List.foldlM_append, before]
    simp [hexValue?_hexDigit, value]

end Text

/-! ## Strings -/

namespace Piece

/-- A unit that is no surrogate stands for itself. -/
theorem join_unit {n : ℕ} (low : n < 0x20) (ps : List Piece) :
    join (.unit n :: ps) = (join ps).map (Char.ofNat n :: ·) := by
  have high : isHigh n = false := by simp [isHigh]; omega
  have low : isLow n = false := by simp [isLow]; omega
  cases ps with
  | nil => simp [join, high, low]
  | cons p ps => cases p <;> simp [join, high, low]

theorem scan_control {n : ℕ} (control : n < 0x20) (rest : List Char) :
    scan ('\\' :: 'u' :: Text.hex 4 n ++ rest) =
      (scan rest).map fun (ps, rest) => (.unit n :: ps, rest) := by
  have value : Text.unhex? (Text.hex 4 n) = some n := by
    rw [Text.unhex?_hex, Nat.mod_eq_of_lt (by omega)]
  simp only [Text.hex, List.nil_append, List.cons_append] at value ⊢
  rw [scan, value]
  cases scan rest <;> rfl

theorem scan_short {e c : Char} (short : ofEscape? e = some (.char c)) (rest : List Char) :
    scan ('\\' :: e :: rest) = (scan rest).map fun (ps, rest) => (.char c :: ps, rest) := by
  have letter : e ≠ 'u' := by
    rintro rfl
    simp [ofEscape?] at short
  rw [scan.eq_def]
  split
  case h_4 same =>
    obtain ⟨rfl, rfl⟩ : e = _ ∧ rest = _ := by simpa using same
    rw [short]
    cases scan rest <;> rfl
  all_goals grind

theorem scan_plain {c : Char} (quote : c ≠ '"') (slash : c ≠ '\\') (printed : ¬ c.toNat < 0x20)
    (rest : List Char) :
    scan (c :: rest) = (scan rest).map fun (ps, rest) => (.char c :: ps, rest) := by
  rw [scan.eq_def]
  split <;> simp_all

/-- An escaped character is scanned as a piece that stands for it. -/
theorem scan_escape (c : Char) (rest : List Char) :
    ∃ p, scan (Json.escape c ++ rest) = (scan rest).map (fun (ps, rest) => (p :: ps, rest)) ∧
      ∀ ps, join (p :: ps) = (join ps).map (c :: ·) := by
  rw [Json.escape]
  split_ifs with quote slash _ _ _ _ _ control
  on_goal 8 =>
    refine ⟨.unit c.toNat, scan_control control rest, fun ps => ?_⟩
    rw [join_unit control, Char.ofNat_toNat]
  on_goal 8 => exact ⟨.char c, scan_plain quote slash control rest, fun ps => rfl⟩
  all_goals
    subst_vars
    exact ⟨.char _, scan_short rfl rest, fun ps => rfl⟩

/-- A quoted text up to the closing quote. -/
theorem scan_quoted (cs rest : List Char) :
    ∃ ps, scan (cs.flatMap Json.escape ++ '"' :: rest) = some (ps, rest) ∧ join ps = some cs := by
  induction cs with
  | nil => exact ⟨[], by simp [scan], rfl⟩
  | cons c cs ih =>
    obtain ⟨ps, scanned, joined⟩ := ih
    obtain ⟨p, first, same⟩ := scan_escape c (cs.flatMap Json.escape ++ '"' :: rest)
    refine ⟨p :: ps, ?_, ?_⟩
    · rw [List.flatMap_cons, List.append_assoc, first, scanned]
      rfl
    · rw [same, joined]
      rfl

end Piece

/-! ## Numerals -/

/-- A numeral cannot go on in the rest of a text. -/
def Ends (rest : List Char) : Prop :=
  ∀ c ∈ rest.head?, c.isDigit = false ∧ c ≠ '.' ∧ c ≠ 'e' ∧ c ≠ 'E'

theorem ends_cons {c : Char} (other : c.isDigit = false ∧ c ≠ '.' ∧ c ≠ 'e' ∧ c ≠ 'E')
    (rest : List Char) : Ends (c :: rest) := fun _ hc => Option.some.inj hc ▸ other

namespace Numeral

variable {cs rest r : List Char}

theorem digits_append (ends : Ends rest) :
    digits (cs ++ rest) = ((digits cs).1, (digits cs).2 ++ rest) := by
  have nothing : rest.takeWhile Char.isDigit = [] ∧ rest.dropWhile Char.isDigit = rest := by
    cases rest with
    | nil => exact ⟨rfl, rfl⟩
    | cons c rest =>
      obtain ⟨other, -⟩ := ends c rfl
      simp [other]
  rw [digits, digits, List.takeWhile_append, List.dropWhile_append, nothing.1, nothing.2]
  by_cases all_digits : cs.dropWhile Char.isDigit = []
  · have whole : cs.takeWhile Char.isDigit = cs := by
      simpa [all_digits] using List.takeWhile_append_dropWhile (p := Char.isDigit) (l := cs)
    simp [whole, all_digits]
  · have part : (cs.takeWhile Char.isDigit).length ≠ cs.length := by
      intro same
      have split := congrArg List.length
        (List.takeWhile_append_dropWhile (p := Char.isDigit) (l := cs))
      rw [List.length_append, same] at split
      exact all_digits (List.length_eq_zero_iff.mp (by omega))
    simp [part, all_digits]

theorem digits₁_append {ds : List ℕ} (ends : Ends rest) (h : digits₁ cs = some (ds, r)) :
    digits₁ (cs ++ rest) = some (ds, r ++ rest) := by
  rw [digits₁] at h ⊢
  rw [digits_append ends]
  generalize digits cs = d at h ⊢
  obtain ⟨_ | ⟨d, ds'⟩, r'⟩ := d
  · exact absurd h nofun
  · obtain ⟨rfl, rfl⟩ := Prod.mk.inj (Option.some.inj h)
    rfl

theorem scanWhole_append {ds : List ℕ} (ends : Ends rest) (h : scanWhole cs = some (ds, r)) :
    scanWhole (cs ++ rest) = some (ds, r ++ rest) := by
  rw [scanWhole] at h ⊢
  rw [digits_append ends]
  generalize digits cs = d at h ⊢
  obtain ⟨_ | ⟨_ | d, _ | ⟨d', ds'⟩⟩, r'⟩ := d
  case nil | cons.zero.cons => cases h
  all_goals
    obtain ⟨rfl, rfl⟩ := Prod.mk.inj (Option.some.inj h)
    rfl

/-- What is read after a sign or a point. -/
theorem map_digits₁_append {β : Type} {f : List ℕ → β} {b : β} (ends : Ends rest)
    (h : (digits₁ cs).map (fun (ds, rest) => (f ds, rest)) = some (b, r)) :
    (digits₁ (cs ++ rest)).map (fun (ds, rest) => (f ds, rest)) = some (b, r ++ rest) := by
  obtain ⟨⟨ds, r'⟩, some_digits, same⟩ := Option.map_eq_some_iff.mp h
  obtain ⟨rfl, rfl⟩ := Prod.mk.inj same
  rw [digits₁_append ends some_digits]
  rfl

theorem scanFraction_of_end (ends : Ends rest) : scanFraction rest = some (none, rest) := by
  cases rest with
  | nil => rfl
  | cons c rest =>
    obtain ⟨-, point, -⟩ := ends c rfl
    unfold scanFraction
    split <;> simp_all

theorem scanFraction_append {f : Option (List ℕ)} (ends : Ends rest)
    (h : scanFraction cs = some (f, r)) : scanFraction (cs ++ rest) = some (f, r ++ rest) := by
  cases cs with
  | nil =>
    obtain ⟨rfl, rfl⟩ := Prod.mk.inj (Option.some.inj h)
    exact scanFraction_of_end ends
  | cons c cs =>
    by_cases point : c = '.'
    · subst point
      exact map_digits₁_append ends h
    · have none_found (cs : List Char) : scanFraction (c :: cs) = some (none, c :: cs) := by
        unfold scanFraction
        split <;> simp_all
      rw [none_found] at h
      obtain ⟨rfl, rfl⟩ := Prod.mk.inj (Option.some.inj h)
      exact none_found (cs ++ rest)

theorem scanPower_append {e : Option ℤ} (ends : Ends rest) (h : scanPower cs = some (e, r)) :
    scanPower (cs ++ rest) = some (e, r ++ rest) := by
  cases cs with
  | nil => exact absurd h nofun
  | cons c cs =>
    by_cases minus : c = '-'
    · subst minus
      exact map_digits₁_append (f := fun ds => some (-(decimalValue ds : ℤ))) ends h
    by_cases plus : c = '+'
    · subst plus
      exact map_digits₁_append (f := fun ds => some (decimalValue ds : ℤ)) ends h
    have unsigned (cs : List Char) : scanPower (c :: cs) =
        (digits₁ (c :: cs)).map fun (ds, rest) => (some (decimalValue ds : ℤ), rest) := by
      unfold scanPower
      split <;> simp_all
    rw [unsigned] at h
    rw [List.cons_append, unsigned]
    exact map_digits₁_append (f := fun ds => some (decimalValue ds : ℤ)) ends h

theorem scanExponent_of_end (ends : Ends rest) : scanExponent rest = some (none, rest) := by
  cases rest with
  | nil => rfl
  | cons c rest =>
    obtain ⟨-, -, small, capital⟩ := ends c rfl
    unfold scanExponent
    split <;> simp_all

theorem scanExponent_append {e : Option ℤ} (ends : Ends rest) (h : scanExponent cs = some (e, r)) :
    scanExponent (cs ++ rest) = some (e, r ++ rest) := by
  cases cs with
  | nil =>
    obtain ⟨rfl, rfl⟩ := Prod.mk.inj (Option.some.inj h)
    exact scanExponent_of_end ends
  | cons c cs =>
    by_cases small : c = 'e'
    · subst small
      exact scanPower_append ends h
    by_cases capital : c = 'E'
    · subst capital
      exact scanPower_append ends h
    have none_found (cs : List Char) : scanExponent (c :: cs) = some (none, c :: cs) := by
      unfold scanExponent
      split <;> simp_all
    rw [none_found] at h
    obtain ⟨rfl, rfl⟩ := Prod.mk.inj (Option.some.inj h)
    exact none_found (cs ++ rest)

/-- What comes behind the sign. -/
def scanUnsigned (negative : Bool) (cs : List Char) : Option (Numeral × List Char) := do
  let (whole, cs) ← scanWhole cs
  let (fraction, cs) ← scanFraction cs
  let (exponent, cs) ← scanExponent cs
  return ({ negative, whole, fraction, exponent }, cs)

theorem scanUnsigned_append {negative : Bool} {n : Numeral} (ends : Ends rest)
    (h : scanUnsigned negative cs = some (n, r)) :
    scanUnsigned negative (cs ++ rest) = some (n, r ++ rest) := by
  obtain ⟨⟨whole, r₁⟩, h₁, h⟩ := Option.bind_eq_some_iff.mp h
  obtain ⟨⟨fraction, r₂⟩, h₂, h⟩ := Option.bind_eq_some_iff.mp h
  obtain ⟨⟨exponent, r₃⟩, h₃, h⟩ := Option.bind_eq_some_iff.mp h
  obtain ⟨rfl, rfl⟩ := Prod.mk.inj (Option.some.inj h)
  simp [scanUnsigned, scanWhole_append ends h₁, scanFraction_append ends h₂,
    scanExponent_append ends h₃]

theorem scan_cons (c : Char) (cs : List Char) :
    scan (c :: cs) = if c = '-' then scanUnsigned true cs else scanUnsigned false (c :: cs) := by
  by_cases minus : c = '-'
  · rw [if_pos minus, minus]
    rfl
  · rw [if_neg minus]
    unfold scan
    split
    simp_all [scanUnsigned]

/-- A numeral is scanned alike whatever comes after it. -/
theorem scan_append {n : Numeral} (ends : Ends rest) (h : scan cs = some (n, r)) :
    scan (cs ++ rest) = some (n, r ++ rest) := by
  cases cs with
  | nil => exact absurd h nofun
  | cons c cs =>
    rw [scan_cons] at h
    rw [List.cons_append, scan_cons]
    split_ifs at h ⊢
    · exact scanUnsigned_append ends h
    · exact scanUnsigned_append ends h

end Numeral

/-! ## Tokens -/

namespace Token

variable {cs rest blanks : List Char}

theorem all_eq (cs : List Char) : all cs = match cs.dropWhile isBlank with
    | [] => []
    | c :: rest => (scan (c :: rest)).1 :: all (scan (c :: rest)).2 := by
  rw [all]
  split
  case h_1 nothing => rw [nothing]
  case h_2 remaining => rw [remaining]

theorem all_nil : all [] = [] := by
  rw [all_eq]
  rfl

theorem all_cons {c : Char} (solid : isBlank c = false) :
    all (c :: cs) = (scan (c :: cs)).1 :: all (scan (c :: cs)).2 := by
  rw [all_eq, List.dropWhile_cons_of_neg (by simp [solid])]

/-- Blanks between tokens do not matter. -/
theorem all_blanks (blank : ∀ c ∈ blanks, isBlank c = true) : all (blanks ++ cs) = all cs := by
  rw [all_eq, all_eq cs, List.dropWhile_append_of_pos blank]

theorem blank_of_all_eq_nil (h : all cs = []) : ∀ c ∈ cs, isBlank c = true := by
  rw [all_eq] at h
  cases remaining : cs.dropWhile isBlank with
  | nil => exact List.dropWhile_eq_nil_iff.mp remaining
  | cons c rest =>
    rw [remaining] at h
    exact absurd h (List.cons_ne_nil _ _)

/-- Tokens that are no numbers start with one of these. -/
def leads : List Char := ['[', ']', '{', '}', ',', ':', 'n', 't', 'f', '"']

theorem scan_of_not_lead {c : Char} (other : c ∉ leads) : scan (c :: cs) =
    match Numeral.scan (c :: cs) with
    | some (n, rest) => (.number n.read, rest)
    | none => (.bad, []) := by
  unfold scan
  split
  case h_11 => rfl
  all_goals exact absurd other (by simp_all [leads])

theorem not_lead_of_number {c : Char} {n : Option Number} (h : (scan (c :: cs)).1 = .number n) :
    c ∉ leads := by
  have word (w : String) (t : Token) (other : t ≠ .number n) (cs : List Char) :
      (scanWord w t cs).1 ≠ .number n := by
    rw [scanWord]
    split
    · exact other
    · nofun
  unfold scan at h
  split at h
  case h_11 => simp_all [leads]
  case h_7 => exact absurd h (word "null" .null nofun _)
  case h_8 => exact absurd h (word "true" (.bool true) nofun _)
  case h_9 => exact absurd h (word "false" (.bool false) nofun _)
  case h_10 => split at h <;> exact absurd h nofun
  all_goals exact absurd h nofun

/-- A number that makes up a text is scanned alike whatever comes after it. -/
theorem all_number_append {n : Option Number} (alone : all cs = [.number n]) (ends : Ends rest) :
    all (cs ++ rest) = .number n :: all rest := by
  rw [all_eq] at alone
  cases lead : cs.dropWhile isBlank with
  | nil =>
    rw [lead] at alone
    exact absurd alone nofun
  | cons c cs' =>
    rw [lead] at alone
    obtain ⟨first, nothing⟩ := List.cons.inj alone
    have other := not_lead_of_number first
    rw [scan_of_not_lead other] at first nothing
    cases found : Numeral.scan (c :: cs') with
    | none =>
      rw [found] at first
      exact absurd first nofun
    | some m =>
      obtain ⟨m, r⟩ := m
      rw [found] at first nothing
      have whole : (cs ++ rest).dropWhile isBlank = c :: cs' ++ rest := by
        simp [List.dropWhile_append, lead]
      have scanned : scan (c :: (cs' ++ rest)) = (.number n, r ++ rest) := by
        rw [scan_of_not_lead other, ← List.cons_append, Numeral.scan_append ends found]
        exact congrArg (·, r ++ rest) first
      rw [all_eq, whole, List.cons_append]
      dsimp only
      rw [scanned, all_blanks (blank_of_all_eq_nil nothing)]

theorem scanWord_append (word : String) (t : Token) (rest : List Char) :
    scanWord word t (word.toList ++ rest) = (t, rest) := by
  have starts : word.toList.isPrefixOf (word.toList ++ rest) = true :=
    List.isPrefixOf_iff_prefix.mpr (List.prefix_append _ _)
  have behind : (word.toList ++ rest).drop word.length = rest := by
    rw [← String.length_toList, List.drop_left]
  rw [scanWord, if_pos starts, behind]

/-- A word or a sign that is scanned at the start of a text is its first token. -/
theorem all_of_scan {c : Char} {t : Token} (solid : isBlank c = false)
    (scanned : scan (c :: cs) = (t, rest)) : all (c :: cs) = t :: all rest := by
  rw [all_cons solid, scanned]

/-- The signs, and the tokens that they are. -/
inductive Sign : Char → Token → Prop
  | openArray : Sign '[' .openArray
  | closeArray : Sign ']' .closeArray
  | openObject : Sign '\x7b' .openObject
  | closeObject : Sign '\x7d' .closeObject
  | comma : Sign ',' .comma
  | colon : Sign ':' .colon

theorem all_sign {c : Char} {t : Token} (sign : Sign c t) (rest : List Char) :
    all (c :: rest) = t :: all rest := by
  cases sign <;> exact all_of_scan (by decide) rfl

theorem all_null (rest : List Char) : all ("null".toList ++ rest) = .null :: all rest :=
  all_of_scan (by decide) (scanWord_append "null" .null rest)

theorem all_null_alone : all "null".toList = [.null] := by
  have alone := all_null []
  rwa [List.append_nil, all_nil] at alone

theorem all_true (rest : List Char) : all ("true".toList ++ rest) = .bool true :: all rest :=
  all_of_scan (by decide) (scanWord_append "true" (.bool true) rest)

theorem all_false (rest : List Char) : all ("false".toList ++ rest) = .bool false :: all rest :=
  all_of_scan (by decide) (scanWord_append "false" (.bool false) rest)

theorem all_quote (s : String) (rest : List Char) :
    all (Json.quote s ++ rest) = .string (some s) :: all rest := by
  obtain ⟨ps, scanned, joined⟩ := Piece.scan_quoted s.toList rest
  have whole : Json.quote s ++ rest = '"' :: (s.toList.flatMap Json.escape ++ '"' :: rest) := by
    simp [Json.quote]
  have first : scan ('"' :: (s.toList.flatMap Json.escape ++ '"' :: rest)) =
      (.string (some s), rest) := by
    rw [scan, scanned]
    simp [joined]
  rw [whole, all_of_scan (by decide) first]

end Token

/-! ## Documents -/

namespace Json

/-- Nothing but blanks stands between the tokens, apart from the colon. -/
structure Layout.Loose (l : Layout) : Prop where
  newline : ∀ depth, ∀ c ∈ l.newline depth, Token.isBlank c = true
  colon : ∃ blanks, l.colon = ':' :: blanks ∧ ∀ c ∈ blanks, Token.isBlank c = true

theorem Layout.loose_compact : Layout.compact.Loose where
  newline _ _ hc := absurd hc List.not_mem_nil
  colon := ⟨[], rfl, fun _ hc => absurd hc List.not_mem_nil⟩

theorem Layout.loose_pretty : Layout.pretty.Loose where
  newline depth := by
    refine List.forall_mem_cons.mpr ⟨by decide, fun c hc => ?_⟩
    rw [List.eq_of_mem_replicate hc]
    decide
  colon := ⟨[' '], rfl, List.forall_mem_singleton.mpr (by decide)⟩

mutual
/-- The tokens that a value is written with. -/
def tokens : Json → List Token
  | .null => [.null]
  | .bool b => [.bool b]
  | .number n => Token.all (ofNumber n)
  | .string s => [.string (some s)]
  | .array [] => [.openArray, .closeArray]
  | .array (v :: vs) => .openArray :: tokens v ++ tokensItems vs ++ [.closeArray]
  | .object [] => [.openObject, .closeObject]
  | .object ((k, v) :: ms) =>
    .openObject :: .string (some k) :: .colon :: tokens v ++ tokensMembers ms ++ [.closeObject]

def tokensItems : List Json → List Token
  | [] => []
  | v :: vs => .comma :: tokens v ++ tokensItems vs

def tokensMembers : List (String × Json) → List Token
  | [] => []
  | (k, v) :: ms => .comma :: .string (some k) :: .colon :: tokens v ++ tokensMembers ms
end

/-- A number is written as one token, which is null if there is no such number. -/
def LegibleNumber (n : Number) : Prop :=
  ofNumber n = "null".toList ∨ ∃ m, Token.all (ofNumber n) = [.number m]

mutual
/-- Every number in the value is written as one token. -/
def Legible : Json → Prop
  | .number n => LegibleNumber n
  | .array vs => LegibleItems vs
  | .object ms => LegibleMembers ms
  | _ => True

def LegibleItems : List Json → Prop
  | [] => True
  | v :: vs => Legible v ∧ LegibleItems vs

def LegibleMembers : List (String × Json) → Prop
  | [] => True
  | (_, v) :: ms => Legible v ∧ LegibleMembers ms
end

/-! ## Writing and scanning -/

section Writing

open Token (all all_sign all_blanks all_quote)

variable {l : Layout} {rest : List Char}

theorem ends_blanks {blanks : List Char} (blank : ∀ c ∈ blanks, Token.isBlank c = true)
    (ends : Ends rest) : Ends (blanks ++ rest) := by
  cases blanks with
  | nil => exact ends
  | cons c blanks =>
    have first : ((c = ' ' ∨ c = '\t') ∨ c = '\n') ∨ c = '\r' := by
      simpa [Token.isBlank] using blank c List.mem_cons_self
    refine ends_cons ?_ _
    rcases first with ((rfl | rfl) | rfl) | rfl <;> decide

theorem ends_writeItems (depth : ℕ) (vs : List Json) (ends : Ends rest) :
    Ends (writeItems l depth vs ++ rest) := by
  cases vs with
  | nil => exact ends
  | cons v vs => exact ends_cons (by decide) _

theorem ends_writeMembers (depth : ℕ) (ms : List (String × Json)) (ends : Ends rest) :
    Ends (writeMembers l depth ms ++ rest) := by
  cases ms with
  | nil => exact ends
  | cons m ms => exact ends_cons (by decide) _

theorem all_colon (loose : l.Loose) (rest : List Char) :
    all (l.colon ++ rest) = .colon :: all rest := by
  obtain ⟨blanks, colon, blank⟩ := loose.colon
  rw [colon, List.cons_append, all_sign .colon, all_blanks blank]

theorem all_ofNumber {n : Number} (legible : LegibleNumber n) (ends : Ends rest) :
    all (ofNumber n ++ rest) = all (ofNumber n) ++ all rest := by
  rcases legible with null | ⟨m, alone⟩
  · rw [null, Token.all_null, Token.all_null_alone]
    rfl
  · rw [alone, Token.all_number_append alone ends]
    rfl

mutual
/-- What is written is cut into the tokens of the value, whatever comes after it. -/
theorem all_write (loose : l.Loose) (depth : ℕ) (v : Json) (legible : v.Legible) (rest : List Char)
    (ends : Ends rest) : all (write l depth v ++ rest) = v.tokens ++ all rest := by
  match v with
  | .null => exact Token.all_null rest
  | .bool true => exact Token.all_true rest
  | .bool false => exact Token.all_false rest
  | .number n => exact all_ofNumber legible ends
  | .string s => exact all_quote s rest
  | .array [] =>
    show all ('[' :: ']' :: rest) = _
    rw [all_sign .openArray, all_sign .closeArray]
    rfl
  | .array (v :: vs) =>
    have close : Ends (l.newline depth ++ ']' :: rest) :=
      ends_blanks (loose.newline depth) (ends_cons (by decide) rest)
    have first := all_write loose (depth + 1) v legible.1 _
      (ends_writeItems (l := l) (depth + 1) vs close)
    have others := all_writeItems loose (depth + 1) vs legible.2 _ close
    rw [write, tokens]
    simp only [List.append_assoc, List.cons_append, List.nil_append]
    rw [all_sign .openArray, all_blanks (loose.newline _), first, others,
      all_blanks (loose.newline _), all_sign .closeArray]
  | .object [] =>
    show all ('\x7b' :: '\x7d' :: rest) = _
    rw [all_sign .openObject, all_sign .closeObject]
    rfl
  | .object ((k, v) :: ms) =>
    have close : Ends (l.newline depth ++ '\x7d' :: rest) :=
      ends_blanks (loose.newline depth) (ends_cons (by decide) rest)
    have first := all_write loose (depth + 1) v legible.1 _
      (ends_writeMembers (l := l) (depth + 1) ms close)
    have others := all_writeMembers loose (depth + 1) ms legible.2 _ close
    rw [write, tokens]
    simp only [List.append_assoc, List.cons_append, List.nil_append]
    rw [all_sign .openObject, all_blanks (loose.newline _), all_quote, all_colon loose, first,
      others, all_blanks (loose.newline _), all_sign .closeObject]

theorem all_writeItems (loose : l.Loose) (depth : ℕ) (vs : List Json) (legible : LegibleItems vs)
    (rest : List Char) (ends : Ends rest) :
    all (writeItems l depth vs ++ rest) = tokensItems vs ++ all rest := by
  match vs with
  | [] => rfl
  | v :: vs =>
    have first := all_write loose depth v legible.1 _ (ends_writeItems (l := l) depth vs ends)
    have others := all_writeItems loose depth vs legible.2 rest ends
    rw [writeItems, tokensItems]
    simp only [List.append_assoc, List.cons_append]
    rw [all_sign .comma, all_blanks (loose.newline _), first, others]

theorem all_writeMembers (loose : l.Loose) (depth : ℕ) (ms : List (String × Json))
    (legible : LegibleMembers ms) (rest : List Char) (ends : Ends rest) :
    all (writeMembers l depth ms ++ rest) = tokensMembers ms ++ all rest := by
  match ms with
  | [] => rfl
  | (k, v) :: ms =>
    have first := all_write loose depth v legible.1 _ (ends_writeMembers (l := l) depth ms ends)
    have others := all_writeMembers loose depth ms legible.2 rest ends
    rw [writeMembers, tokensMembers]
    simp only [List.append_assoc, List.cons_append]
    rw [all_sign .comma, all_blanks (loose.newline _), all_quote, all_colon loose, first, others]
end

end Writing

end Json
end LayeredMap
