import LayeredMap.Json.Decode
import LayeredMap.Proofs.Scanning

/-!
# Reading what was written

The tokens of a value are read into a tree of the same shape, with what became
of the numbers in it. The fuel is twice the number of tokens, of which a value
inside another one always leaves enough.
-/

namespace LayeredMap

/-- The document that a number is read as. -/
def Doc.ofNumber (n : Number) : Doc :=
  match Token.all (Json.ofNumber n) with
  | [.number m] => .number m
  | _ => .null

mutual
/-- The document that a value is read as. -/
def Doc.ofJson : Json → Doc
  | .null => .null
  | .bool b => .bool b
  | .number n => .ofNumber n
  | .string s => .string (some s)
  | .array vs => .array (ofItems vs) true
  | .object ms => .object (ofMembers ms) true

def Doc.ofItems : List Json → List Doc
  | [] => []
  | v :: vs => ofJson v :: ofItems vs

def Doc.ofMembers : List (String × Json) → List (Doc × Doc)
  | [] => []
  | (k, v) :: ms => (.string (some k), ofJson v) :: ofMembers ms
end

namespace Doc

open Json (tokens tokensItems tokensMembers LegibleNumber LegibleItems LegibleMembers)

/-- A number is one token, and it is read as such. -/
theorem tokens_number {n : Number} (legible : LegibleNumber n) :
    Token.all (Json.ofNumber n) = [.null] ∧ ofNumber n = .null ∨
      ∃ m, Token.all (Json.ofNumber n) = [.number m] ∧ ofNumber n = .number m := by
  rcases legible with null | ⟨m, alone⟩
  · have alone : Token.all (Json.ofNumber n) = [.null] := by rw [null, Token.all_null_alone]
    exact .inl ⟨alone, by rw [ofNumber, alone]⟩
  · exact .inr ⟨m, alone, by rw [ofNumber, alone]⟩

/-- No value starts with a closing sign. -/
theorem tokens_start (v : Json) (legible : v.Legible) :
    ∃ t ts, v.tokens = t :: ts ∧ t ≠ .closeArray := by
  match v with
  | .null | .bool _ | .string _ | .array [] | .array (_ :: _) | .object [] | .object (_ :: _) =>
    exact ⟨_, _, rfl, nofun⟩
  | .number n =>
    rcases tokens_number legible with ⟨alone, -⟩ | ⟨m, alone, -⟩
    · exact ⟨_, _, alone, nofun⟩
    · exact ⟨_, _, alone, nofun⟩

/-- With enough fuel the tokens of a value are read as its document, and the rest is left. -/
structure Rereads (fuel : ℕ) : Prop where
  document : ∀ (v : Json) (ts : List Token), v.Legible → 2 * v.tokens.length ≤ fuel →
    read fuel (v.tokens ++ ts) = (ofJson v, ts)
  items : ∀ (v : Json) (vs : List Json) (ts : List Token), v.Legible → LegibleItems vs →
    2 * (v.tokens.length + (tokensItems vs).length) < fuel →
      readItems fuel (v.tokens ++ (tokensItems vs ++ .closeArray :: ts)) =
        (ofJson v :: ofItems vs, true, ts)
  members : ∀ (k : String) (v : Json) (ms : List (String × Json)) (ts : List Token), v.Legible →
    LegibleMembers ms → 2 * (v.tokens.length + (tokensMembers ms).length) < fuel →
      readMembers fuel (.string (some k) :: .colon :: (v.tokens ++
          (tokensMembers ms ++ .closeObject :: ts))) =
        ((.string (some k), ofJson v) :: ofMembers ms, true, ts)

variable {fuel : ℕ}

theorem read_tokens_succ (below : Rereads fuel) (v : Json) (ts : List Token) (legible : v.Legible)
    (enough : 2 * v.tokens.length ≤ fuel + 1) :
    read (fuel + 1) (v.tokens ++ ts) = (ofJson v, ts) := by
  match v with
  | .null | .bool _ | .string _ | .array [] | .object [] => rfl
  | .number n =>
    rcases tokens_number legible with ⟨alone, same⟩ | ⟨m, alone, same⟩
    · rw [tokens, alone, ofJson, same]
      rfl
    · rw [tokens, alone, ofJson, same]
      rfl
  | .array (v :: vs) =>
    have count : (Json.array (v :: vs)).tokens.length =
        v.tokens.length + (tokensItems vs).length + 2 := by
      simp [tokens]
      omega
    have items := below.items v vs ts legible.1 legible.2 (by omega)
    obtain ⟨t, ts', start, other⟩ := tokens_start v legible.1
    rw [tokens]
    simp only [start, List.cons_append, List.append_assoc, List.nil_append] at items ⊢
    rw [read]
    · rw [items]
      rfl
    · rintro rest same
      exact other (List.cons.inj same).1
  | .object ((k, v) :: ms) =>
    have count : (Json.object ((k, v) :: ms)).tokens.length =
        v.tokens.length + (tokensMembers ms).length + 4 := by
      simp [tokens]
      omega
    have members := below.members k v ms ts legible.1 legible.2 (by omega)
    rw [tokens]
    simp only [List.cons_append, List.append_assoc, List.nil_append]
    rw [read]
    · rw [members]
      rfl
    · exact fun _ => nofun

theorem readItems_tokens_succ (below : Rereads fuel) (v : Json) (vs : List Json) (ts : List Token)
    (legible : v.Legible) (others : LegibleItems vs)
    (enough : 2 * (v.tokens.length + (tokensItems vs).length) < fuel + 1) :
    readItems (fuel + 1) (v.tokens ++ (tokensItems vs ++ .closeArray :: ts)) =
      (ofJson v :: ofItems vs, true, ts) := by
  have first := below.document v (tokensItems vs ++ .closeArray :: ts) legible (by omega)
  rw [readItems, first]
  cases vs with
  | nil => rfl
  | cons v' vs =>
    have count : (tokensItems (v' :: vs)).length =
        v'.tokens.length + (tokensItems vs).length + 1 := by
      simp [tokensItems]
    have rest := below.items v' vs ts others.1 others.2 (by omega)
    simp only [tokensItems, List.cons_append, List.append_assoc]
    rw [rest]
    rfl

theorem readMembers_tokens_succ (below : Rereads fuel) (k : String) (v : Json)
    (ms : List (String × Json)) (ts : List Token) (legible : v.Legible) (others : LegibleMembers ms)
    (enough : 2 * (v.tokens.length + (tokensMembers ms).length) < fuel + 1) :
    readMembers (fuel + 1) (.string (some k) :: .colon :: (v.tokens ++
        (tokensMembers ms ++ .closeObject :: ts))) =
      ((.string (some k), ofJson v) :: ofMembers ms, true, ts) := by
  have first := below.document v (tokensMembers ms ++ .closeObject :: ts) legible (by omega)
  rw [readMembers, first]
  cases ms with
  | nil => rfl
  | cons m ms =>
    obtain ⟨k', v'⟩ := m
    have count : (tokensMembers ((k', v') :: ms)).length =
        v'.tokens.length + (tokensMembers ms).length + 3 := by
      simp [tokensMembers]
    have rest := below.members k' v' ms ts others.1 others.2 (by omega)
    simp only [tokensMembers, List.cons_append, List.append_assoc]
    rw [rest]
    rfl

theorem rereads (fuel : ℕ) : Rereads fuel := by
  induction fuel with
  | zero =>
    refine ⟨fun v ts legible enough => ?_, fun _ _ _ _ _ enough => absurd enough (by omega),
      fun _ _ _ _ _ _ enough => absurd enough (by omega)⟩
    obtain ⟨t, ts', start, -⟩ := tokens_start v legible
    rw [start] at enough
    exact absurd enough (by simp)
  | succ fuel ih =>
    exact ⟨read_tokens_succ ih, readItems_tokens_succ ih, readMembers_tokens_succ ih⟩

/-- What was written in either layout is read to its end, as the document of the value. -/
theorem ofText_write {l : Json.Layout} (loose : l.Loose) (v : Json) (legible : v.Legible) :
    ofText (String.ofList (Json.write l 0 v)) = (ofJson v, true) := by
  have cut := Json.all_write loose 0 v legible [] (fun c hc => absurd hc nofun)
  rw [List.append_nil, Token.all_nil, List.append_nil] at cut
  have whole := (rereads (2 * v.tokens.length + 2)).document v [] legible (by omega)
  rw [List.append_nil] at whole
  rw [ofText, String.toList_ofList, cut, whole]
  rfl

theorem ofText_compact (v : Json) (legible : v.Legible) : ofText v.compact = (ofJson v, true) :=
  ofText_write Json.Layout.loose_compact v legible

theorem ofText_pretty (v : Json) (legible : v.Legible) : ofText v.pretty = (ofJson v, true) :=
  ofText_write Json.Layout.loose_pretty v legible

end Doc
end LayeredMap
