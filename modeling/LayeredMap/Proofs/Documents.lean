import Mathlib.Data.List.Forall2
import LayeredMap.Codec.Manifest
import LayeredMap.Proofs.Boxes
import LayeredMap.Proofs.Finiteness

/-!
# Finite numbers in documents

All numbers of a document stem from numerals and are finite. They stay so when
the tree is built from the tokens, when the fields of a record are found and
when the record is put together. So the boxes of a manifest that was read have
finite corners.
-/

namespace LayeredMap

/-! ## Tokens -/

def Token.Finite : Token → Prop
  | .number (some n) => n.toFloat.isFinite = true
  | _ => True

theorem Token.finite_scan (cs : List Char) : (scan cs).1.Finite := by
  have word (w : String) (t : Token) (finite : t.Finite) (cs : List Char) :
      (scanWord w t cs).1.Finite := by
    rw [scanWord]
    split
    · exact finite
    · trivial
  unfold scan
  split
  case h_7 => exact word "null" .null trivial _
  case h_8 => exact word "true" (.bool true) trivial _
  case h_9 => exact word "false" (.bool false) trivial _
  case h_10 => split <;> trivial
  case h_11 =>
    split
    · next n rest _ =>
      cases value : n.read with
      | none => trivial
      | some v => exact Numeral.isFinite_of_read value
    · trivial
  all_goals trivial

def Token.AllFinite (ts : List Token) : Prop := ∀ t ∈ ts, t.Finite

theorem Token.allFinite_cons {t : Token} {ts : List Token} :
    AllFinite (t :: ts) ↔ t.Finite ∧ AllFinite ts := List.forall_mem_cons

theorem Token.allFinite_nil : AllFinite [] := fun _ ht => absurd ht List.not_mem_nil

theorem Token.allFinite_all (cs : List Char) : AllFinite (all cs) := by
  fun_induction all cs with
  | case1 => exact allFinite_nil
  | case2 cs c rest _ s ih => exact allFinite_cons.mpr ⟨finite_scan (c :: rest), ih⟩

/-! ## Trees -/

mutual
/-- No number in the document is infinite or NaN. -/
def Doc.Finite : Doc → Prop
  | .number (some n) => n.toFloat.isFinite = true
  | .array items _ => FiniteItems items
  | .object members _ => FiniteMembers members
  | _ => True

def Doc.FiniteItems : List Doc → Prop
  | [] => True
  | d :: ds => d.Finite ∧ FiniteItems ds

def Doc.FiniteMembers : List (Doc × Doc) → Prop
  | [] => True
  | (_, d) :: ms => d.Finite ∧ FiniteMembers ms
end

namespace Doc

theorem finiteItems_iff {ds : List Doc} : FiniteItems ds ↔ ∀ d ∈ ds, d.Finite := by
  induction ds with
  | nil => simp [FiniteItems]
  | cons d ds ih => rw [FiniteItems, ih, List.forall_mem_cons]

/-- What is read from finite tokens is finite, and so are the tokens behind it. -/
structure ReadsFinite (fuel : Nat) : Prop where
  document : ∀ ts, Token.AllFinite ts → (read fuel ts).1.Finite ∧ Token.AllFinite (read fuel ts).2
  items : ∀ ts, Token.AllFinite ts →
    FiniteItems (readItems fuel ts).1 ∧ Token.AllFinite (readItems fuel ts).2.2
  members : ∀ ts, Token.AllFinite ts →
    FiniteMembers (readMembers fuel ts).1 ∧ Token.AllFinite (readMembers fuel ts).2.2

variable {fuel : Nat}

theorem finite_read_succ (below : ReadsFinite fuel) (ts : List Token) (h : Token.AllFinite ts) :
    (read (fuel + 1) ts).1.Finite ∧ Token.AllFinite (read (fuel + 1) ts).2 := by
  unfold read
  split
  case h_6 ts _ =>
    exact below.items ts (Token.allFinite_cons.mp h).2
  case h_8 ts _ =>
    exact below.members ts (Token.allFinite_cons.mp h).2
  case h_3 n ts =>
    obtain ⟨number, rest⟩ := Token.allFinite_cons.mp h
    cases n with
    | none => exact ⟨trivial, rest⟩
    | some n => exact ⟨number, rest⟩
  case h_5 | h_7 =>
    exact ⟨trivial, (Token.allFinite_cons.mp (Token.allFinite_cons.mp h).2).2⟩
  case h_9 => exact ⟨trivial, Token.allFinite_nil⟩
  all_goals exact ⟨trivial, (Token.allFinite_cons.mp h).2⟩

theorem finite_readItems_succ (below : ReadsFinite fuel) (ts : List Token)
    (h : Token.AllFinite ts) : FiniteItems (readItems (fuel + 1) ts).1 ∧
      Token.AllFinite (readItems (fuel + 1) ts).2.2 := by
  obtain ⟨first, rest⟩ := below.document ts h
  unfold readItems
  generalize read fuel ts = one at first rest
  obtain ⟨d, ts'⟩ := one
  dsimp only at first rest ⊢
  split
  case h_1 ts' =>
    obtain ⟨others, left⟩ := below.items ts' (Token.allFinite_cons.mp rest).2
    exact ⟨⟨first, others⟩, left⟩
  case h_2 => exact ⟨⟨first, trivial⟩, (Token.allFinite_cons.mp rest).2⟩
  case h_3 => exact ⟨⟨first, trivial⟩, Token.allFinite_nil⟩

theorem finite_readMembers_succ (below : ReadsFinite fuel) (ts : List Token)
    (h : Token.AllFinite ts) : FiniteMembers (readMembers (fuel + 1) ts).1 ∧
      Token.AllFinite (readMembers (fuel + 1) ts).2.2 := by
  unfold readMembers
  split
  case h_1 k ts =>
    have behind := (Token.allFinite_cons.mp (Token.allFinite_cons.mp h).2).2
    obtain ⟨first, rest⟩ := below.document ts behind
    generalize read fuel ts = one at first rest
    obtain ⟨d, ts'⟩ := one
    dsimp only at first rest ⊢
    split
    case h_1 ts' =>
      obtain ⟨others, left⟩ := below.members ts' (Token.allFinite_cons.mp rest).2
      exact ⟨⟨first, others⟩, left⟩
    case h_2 => exact ⟨⟨first, trivial⟩, (Token.allFinite_cons.mp rest).2⟩
    case h_3 => exact ⟨⟨first, trivial⟩, Token.allFinite_nil⟩
  case h_2 => exact ⟨⟨trivial, trivial⟩, Token.allFinite_nil⟩

theorem readsFinite (fuel : Nat) : ReadsFinite fuel := by
  induction fuel with
  | zero =>
    exact ⟨fun _ _ => ⟨trivial, Token.allFinite_nil⟩, fun _ _ => ⟨trivial, Token.allFinite_nil⟩,
      fun _ _ => ⟨trivial, Token.allFinite_nil⟩⟩
  | succ fuel ih =>
    exact ⟨finite_read_succ ih, finite_readItems_succ ih, finite_readMembers_succ ih⟩

theorem finite_ofText (s : String) : (ofText s).1.Finite := by
  have tree : (ofText s).1 = (read (2 * (Token.all s.toList).length + 2) (Token.all s.toList)).1 :=
    rfl
  rw [tree]
  exact ((readsFinite _).document _ (Token.allFinite_all s.toList)).1

end Doc

/-! ## Records -/

section Attempts

variable {ε α β : Type}

theorem ok_bind (a : α) (f : α → Except ε β) : Except.ok a >>= f = f a := rfl

theorem bind_eq_ok_iff {x : Except ε α} {f : α → Except ε β} {b : β} :
    x >>= f = .ok b ↔ ∃ a, x = .ok a ∧ f a = .ok b := by
  cases x with
  | ok a =>
    constructor
    · intro h
      exact ⟨a, rfl, h⟩
    · rintro ⟨_, found, h⟩
      obtain rfl := Except.ok.inj found
      exact h
  | error e =>
    constructor
    · intro h
      exact absurd h nofun
    · rintro ⟨_, failed, -⟩
      exact absurd failed nofun

theorem map_eq_ok_iff {x : Except ε α} {f : α → β} {b : β} :
    x.map f = .ok b ↔ ∃ a, x = .ok a ∧ f a = b := by
  cases x <;> simp [Except.map]

theorem toOption_eq_some_iff {x : Except ε α} {a : α} : x.toOption = some a ↔ x = .ok a := by
  cases x <;> simp [Except.toOption]

/-- A list of attempts succeeds if each of them does, each with its own result. -/
theorem mapM_eq_ok_iff {f : α → Except ε β} {as : List α} {bs : List β} :
    as.mapM f = .ok bs ↔ List.Forall₂ (fun a b => f a = .ok b) as bs := by
  induction as generalizing bs with
  | nil =>
    rw [List.mapM_nil, List.forall₂_nil_left_iff]
    exact ⟨fun h => (Except.ok.inj h).symm, fun h => congrArg Except.ok h.symm⟩
  | cons a as ih =>
    rw [List.mapM_cons, bind_eq_ok_iff, List.forall₂_cons_left_iff]
    constructor
    · rintro ⟨b, first, rest⟩
      obtain ⟨bs', others, whole⟩ := bind_eq_ok_iff.mp rest
      exact ⟨b, bs', first, ih.mp others, (Except.ok.inj whole).symm⟩
    · rintro ⟨b, bs', first, others, rfl⟩
      exact ⟨b, first, bind_eq_ok_iff.mpr ⟨bs', ih.mpr others, rfl⟩⟩

/-- What each element of a list leads to in another list holds of that list. -/
theorem forall_mem_of_forall₂ {R : α → β → Prop} {P : β → Prop} {as : List α} {bs : List β}
    (related : List.Forall₂ R as bs) (each : ∀ a ∈ as, ∀ b, R a b → P b) : ∀ b ∈ bs, P b := by
  induction related with
  | nil => exact fun b hb => absurd hb List.not_mem_nil
  | @cons a b as bs first _ ih =>
    have rest := ih fun a ha => each a (List.mem_cons_of_mem _ ha)
    exact List.forall_mem_cons.mpr ⟨each a List.mem_cons_self b first, rest⟩

end Attempts

def Found.Finite (found : Found) : Prop := ∀ x ∈ found, x.2.Finite

namespace Doc

variable {fields : List Field} {found found' : Found} {d : Doc}

theorem finite_append {k : String} (h : found.Finite) (finite : d.Finite) :
    Found.Finite (found ++ [(k, d)]) := by
  intro x hx
  rcases List.mem_append.mp hx with hx | hx
  · exact h x hx
  · rw [List.mem_singleton.mp hx]
    exact finite

theorem finite_findMembers {ms : List (Doc × Doc)} (h : found.Finite) (members : FiniteMembers ms)
    (ok : findMembers fields found ms = .ok found') : found'.Finite := by
  fun_induction findMembers fields found ms with
  | case1 => exact Except.ok.inj ok ▸ h
  | case2 found k d ms _ _ ih => exact ih h members.2 ok
  | case5 found k d ms f _ _ ih =>
    obtain ⟨_, -, later⟩ := bind_eq_ok_iff.mp ok
    exact ih (finite_append h members.1) members.2 later
  | _ => exact absurd ok nofun

theorem finite_findItems {closed : Bool} {items : List Doc} (h : found.Finite)
    (finite : FiniteItems items) (ok : findItems closed found fields items = .ok found') :
    found'.Finite := by
  fun_induction findItems closed found fields items with
  | case1 => exact Except.ok.inj ok ▸ h
  | case5 found f fs _ _ ih => exact ih h finite ok
  | case7 found f fs d ds ih =>
    obtain ⟨_, -, later⟩ := bind_eq_ok_iff.mp ok
    exact ih (finite_append h finite.1) finite.2 later
  | _ => exact absurd ok nofun

/-- The fields of a record are parts of the document. -/
theorem finite_record (finite : d.Finite) (ok : d.record fields = .ok found) : found.Finite := by
  have nothing : Found.Finite [] := fun x hx => absurd hx List.not_mem_nil
  cases d with
  | object members closed =>
    obtain ⟨found', searched, complete⟩ := bind_eq_ok_iff.mp ok
    have all := finite_findMembers nothing finite searched
    split at complete
    · exact absurd complete nofun
    · split at complete
      · exact absurd complete nofun
      · exact Except.ok.inj complete ▸ all
  | array items closed => exact finite_findItems nothing finite ok
  | _ => exact absurd ok nofun

theorem finite_asFloat {x : Float} (finite : d.Finite) (ok : d.asFloat = .ok x) :
    x.isFinite = true := by
  cases d with
  | number n =>
    cases n with
    | some n => exact Except.ok.inj ok ▸ finite
    | none => exact absurd ok nofun
  | _ => exact absurd ok nofun

theorem decodeText_eq_ok {α : Type} {decode : Doc → Decoded α} {s : String} {a : α} :
    decodeText decode s = .ok a ↔ decode (ofText s).1 = .ok a ∧ (ofText s).2 = true := by
  rw [decodeText]
  generalize ofText s = read
  obtain ⟨d, ended⟩ := read
  dsimp only
  rw [bind_eq_ok_iff]
  cases ended <;> simp

theorem asOption_eq_some {α : Type} {decode : Doc → Decoded α} {a : α}
    (ok : asOption decode d = .ok (some a)) : decode d = .ok a := by
  cases d with
  | null => exact absurd (Except.ok.inj ok) nofun
  | _ =>
    obtain ⟨_, decoded, same⟩ := map_eq_ok_iff.mp ok
    exact decoded.trans (congrArg Except.ok (Option.some.inj same))

theorem asList_eq_ok {α : Type} {decode : Doc → Decoded α} {as : List α}
    (ok : asList decode d = .ok as) :
    ∃ items closed, d = .array items closed ∧ List.Forall₂ (decode · = .ok ·) items as := by
  cases d with
  | array items closed =>
    obtain ⟨as', decoded, ended⟩ := bind_eq_ok_iff.mp ok
    split at ended
    · obtain rfl := Except.ok.inj ended
      exact ⟨items, closed, rfl, mapM_eq_ok_iff.mp decoded⟩
    · exact absurd ended nofun
  | _ => exact absurd ok nofun

end Doc

namespace Found

variable {α : Type} {found : Found} {name : String} {decode : Doc → Decoded α} {a : α}

theorem Finite.of_lookup {d : Doc} (h : found.Finite) (hit : found.lookup name = some d) :
    d.Finite := by
  obtain ⟨before, after, rfl, -⟩ := List.lookup_eq_some_iff.mp hit
  exact h (name, d) (by simp)

theorem required_eq_ok (ok : found.required name decode = .ok a) :
    ∃ d, found.lookup name = some d ∧ decode d = .ok a := by
  rw [required] at ok
  split at ok
  · next d hit => exact ⟨d, hit, ok⟩
  · exact absurd ok nofun

theorem defaulted_eq_ok {absent : α} (ok : found.defaulted name decode absent = .ok a) :
    a = absent ∨ ∃ d, found.lookup name = some d ∧ decode d = .ok a := by
  rw [defaulted] at ok
  split at ok
  · next d hit => exact .inr ⟨d, hit, ok⟩
  · exact .inl (Except.ok.inj ok).symm

end Found

/-! ## Boxes -/

theorem Extent.isBounded_of_decode {d : Doc} {e : Extent Float} (finite : d.Finite)
    (ok : Extent.decode d = .ok e) : e.isBounded = true := by
  obtain ⟨found, recorded, ok⟩ := bind_eq_ok_iff.mp ok
  have parts := Doc.finite_record finite recorded
  have number {name : String} {x : Float} (ok : found.required name Doc.asFloat = .ok x) :
      x.isFinite = true := by
    obtain ⟨d, hit, ok⟩ := Found.required_eq_ok ok
    exact Doc.finite_asFloat (parts.of_lookup hit) ok
  obtain ⟨minX, left, ok⟩ := bind_eq_ok_iff.mp ok
  obtain ⟨minY, bottom, ok⟩ := bind_eq_ok_iff.mp ok
  obtain ⟨maxX, right, ok⟩ := bind_eq_ok_iff.mp ok
  obtain ⟨maxY, top, ok⟩ := bind_eq_ok_iff.mp ok
  obtain rfl := Except.ok.inj ok
  exact Extent.isBounded_iff.mpr ⟨number left, number bottom, number right, number top⟩

theorem LayerEntry.isBounded_of_decode {d : Doc} {e : LayerEntry} (finite : d.Finite)
    (ok : LayerEntry.decode d = .ok e) : ∀ x, e.extent = some x → x.isBounded = true := by
  obtain ⟨found, recorded, ok⟩ := bind_eq_ok_iff.mp ok
  have parts := Doc.finite_record finite recorded
  obtain ⟨title, -, ok⟩ := bind_eq_ok_iff.mp ok
  obtain ⟨crs, -, ok⟩ := bind_eq_ok_iff.mp ok
  obtain ⟨extent, box, ok⟩ := bind_eq_ok_iff.mp ok
  obtain ⟨visible, -, ok⟩ := bind_eq_ok_iff.mp ok
  obtain rfl := Except.ok.inj ok
  rintro x rfl
  rcases Found.defaulted_eq_ok box with absent | ⟨d, hit, decoded⟩
  · exact absurd absent nofun
  · exact Extent.isBounded_of_decode (parts.of_lookup hit) (Doc.asOption_eq_some decoded)

namespace Manifest

theorem isBounded_of_decode {d : Doc} {m : Manifest} (finite : d.Finite) (ok : decode d = .ok m) :
    ∀ e ∈ m.layers, ∀ x, e.extent = some x → x.isBounded = true := by
  obtain ⟨found, recorded, ok⟩ := bind_eq_ok_iff.mp ok
  have parts := Doc.finite_record finite recorded
  obtain ⟨title, -, ok⟩ := bind_eq_ok_iff.mp ok
  obtain ⟨crs, -, ok⟩ := bind_eq_ok_iff.mp ok
  obtain ⟨transforms, -, ok⟩ := bind_eq_ok_iff.mp ok
  obtain ⟨layers, listed, ok⟩ := bind_eq_ok_iff.mp ok
  obtain rfl := Except.ok.inj ok
  rcases Found.defaulted_eq_ok listed with rfl | ⟨d, hit, decoded⟩
  · exact fun e he => absurd he List.not_mem_nil
  · obtain ⟨items, closed, rfl, entries⟩ := Doc.asList_eq_ok decoded
    have all := Doc.finiteItems_iff.mp (parts.of_lookup hit)
    refine forall_mem_of_forall₂ entries fun d hd e decoded => ?_
    exact LayerEntry.isBounded_of_decode (all d hd) decoded

/-- The boxes of a manifest that was read are bounded. -/
theorem isBounded_of_ofText {s : String} {m : Manifest} (h : ofText s = .ok m) :
    ∀ e ∈ m.layers, ∀ x, e.extent = some x → x.isBounded = true := by
  cases whole : Doc.decodeText decode s with
  | error e =>
    rw [ofText, whole] at h
    exact absurd h nofun
  | ok m' =>
    rw [ofText, whole] at h
    obtain rfl := Except.ok.inj h
    exact isBounded_of_decode (Doc.finite_ofText s) (Doc.decodeText_eq_ok.mp whole).1

end Manifest
end LayeredMap
