import Mathlib
import LayeredMap.Codec.Event
import LayeredMap.Proofs.Documents
import LayeredMap.Proofs.Identities
import LayeredMap.Proofs.Rereading

/-!
# Written and read back

Systems, boxes, footprints, viewports, transforms, identities and events are
read back from either text as they were written. A number that is infinite or
NaN is written as null, which no number is read from, so that the value it
stands in is refused. How exactly a finite number is written and how the time
of an event is written is taken for granted here.
-/

namespace LayeredMap

/-! ## Numbers -/

variable {x y : Float}

/-- The number is read back from its text, if it is finite. -/
def Json.Exact (x : Float) : Prop :=
  x.isFinite = true → Doc.decodeText Doc.asFloat (real x).compact = .ok x

instance (x : Float) : Decidable (Json.Exact x) :=
  inferInstanceAs (Decidable (x.isFinite = true → _ = _))

theorem Json.ofReal_of_not_finite (infinite : x.isFinite = false) : ofReal x = "null".toList := by
  simp [ofReal, infinite]

namespace Doc

/-- A text that a number is read from holds nothing else. -/
theorem number_of_decodeText (ok : decodeText asFloat (Json.real x).compact = .ok y) :
    ∃ n, Token.all (Json.ofReal x) = [.number (some n)] ∧ n.toFloat = y := by
  obtain ⟨read_ok, ended⟩ := decodeText_eq_ok.mp ok
  have text : (Json.real x).compact.toList = Json.ofReal x := String.toList_ofList
  rw [ofText, text] at read_ok ended
  generalize Token.all (Json.ofReal x) = ts at read_ok ended ⊢
  dsimp only at read_ok ended
  -- Only a numeral in the first place is read as a number, and nothing may be left behind it.
  unfold read at read_ok ended
  split at read_ok
  case h_3 n ts =>
    cases n with
    | none => cases read_ok
    | some n =>
      obtain rfl := List.isEmpty_iff.mp ended
      exact ⟨n, rfl, Except.ok.inj read_ok⟩
  all_goals cases read_ok

theorem legible_real (exact_number : Json.Exact x) : Json.LegibleNumber (.real x) := by
  cases finite : x.isFinite with
  | false => exact .inl (Json.ofReal_of_not_finite finite)
  | true =>
    obtain ⟨n, alone, -⟩ := number_of_decodeText (exact_number finite)
    exact .inr ⟨some n, alone⟩

/-- A number is read from the document of a finite one only. -/
theorem asFloat_ofNumber (exact_number : Json.Exact x) :
    asFloat (ofNumber (.real x)) = if x.isFinite then .ok x else .error .invalidType := by
  cases finite : x.isFinite with
  | false =>
    rw [ofNumber, Json.ofNumber, Json.ofReal_of_not_finite finite, Token.all_null_alone]
    rfl
  | true =>
    obtain ⟨n, alone, same⟩ := number_of_decodeText (exact_number finite)
    rw [ofNumber, Json.ofNumber, alone]
    exact congrArg Except.ok same

theorem asFloat_bind {α : Type} (exact_number : Json.Exact x) (f : Float → Decoded α) :
    asFloat (ofNumber (.real x)) >>= f = if x.isFinite then f x else .error .invalidType := by
  rw [asFloat_ofNumber exact_number]
  exact apply_ite (· >>= f) _ _ _

/-- Four numbers are read if all of them are finite. -/
theorem read_four_numbers {α : Type} (make : Float → Float → Float → Float → α) {a b c d : Float}
    (exact_numbers : ∀ x ∈ [a, b, c, d], Json.Exact x) :
    (do
      let a ← asFloat (ofNumber (.real a))
      let b ← asFloat (ofNumber (.real b))
      let c ← asFloat (ofNumber (.real c))
      let d ← asFloat (ofNumber (.real d))
      return make a b c d) =
      if [a, b, c, d].all Float.isFinite then .ok (make a b c d) else .error .invalidType := by
  obtain ⟨first, second, third, fourth, -⟩ :
      Json.Exact a ∧ Json.Exact b ∧ Json.Exact c ∧ Json.Exact d ∧ ∀ x ∈ [], Json.Exact x := by
    simpa only [List.forall_mem_cons] using exact_numbers
  simp only [asFloat_bind first, asFloat_bind second, asFloat_bind third, asFloat_bind fourth,
    List.all_cons, List.all_nil, Bool.and_true, Bool.and_eq_true, ite_and]
  rfl

end Doc

/-! ## Values -/

namespace Extent

def doubles (e : Extent Float) : List Float := [e.minX, e.minY, e.maxX, e.maxY]

theorem legible_toJson (e : Extent Float) (exact_numbers : ∀ x ∈ e.doubles, Json.Exact x) :
    e.toJson.Legible := by
  have each := fun x hx => Doc.legible_real (exact_numbers x hx)
  simpa [doubles, toJson, Json.Legible, Json.LegibleMembers, Json.real] using each

/-- With its members in their order, a box is decoded number after number: a check before the
decoding fails where the decoding does. -/
theorem decode_members (a b c d : Doc) :
    decode (.object [(.string (some "min_x"), a), (.string (some "min_y"), b),
      (.string (some "max_x"), c), (.string (some "max_y"), d)] true) = (do
        let minX ← a.asFloat
        let minY ← b.asFloat
        let maxX ← c.asFloat
        let maxY ← d.asFloat
        return ⟨minX, minY, maxX, maxY⟩ : Decoded (Extent Float)) := by
  simp [decode, Doc.record, Doc.findMembers, Field.required, Field.of, Found.required, List.lookup,
    ok_bind]
  cases a.asFloat <;> cases b.asFloat <;> cases c.asFloat <;> cases d.asFloat <;> rfl

theorem decode_ofJson (e : Extent Float) (exact_numbers : ∀ x ∈ e.doubles, Json.Exact x) :
    decode (.ofJson e.toJson) =
      if e.doubles.all Float.isFinite then .ok e else .error .invalidType :=
  (decode_members _ _ _ _).trans (Doc.read_four_numbers mk exact_numbers)

end Extent

namespace Crs

theorem legible_toJson (c : Crs) : c.toJson.Legible := by
  obtain ⟨code, name⟩ := c
  cases name <;> simp [toJson, Json.Legible, Json.LegibleMembers]

theorem decode_ofJson (c : Crs) : decode (.ofJson c.toJson) = .ok c := by
  obtain ⟨code, name⟩ := c
  cases name <;> rfl

end Crs

namespace Footprint

def doubles (f : Footprint Float) : List Float := f.extent.doubles

theorem legible_toJson (f : Footprint Float) (exact_numbers : ∀ x ∈ f.doubles, Json.Exact x) :
    f.toJson.Legible :=
  ⟨f.extent.legible_toJson exact_numbers, f.crs.legible_toJson, trivial⟩

theorem decode_members (a b : Doc) :
    decode (.object [(.string (some "envelope"), a), (.string (some "crs"), b)] true) = (do
      let extent ← Extent.decode a
      let crs ← Crs.decode b
      return ⟨extent, crs⟩ : Decoded (Footprint Float)) := by
  simp [decode, Doc.record, Doc.findMembers, Field.required, Field.of, Found.required, List.lookup,
    ok_bind]
  cases Extent.decode a <;> cases Crs.decode b <;> rfl

theorem decode_ofJson (f : Footprint Float) (exact_numbers : ∀ x ∈ f.doubles, Json.Exact x) :
    decode (.ofJson f.toJson) =
      if f.doubles.all Float.isFinite then .ok f else .error .invalidType := by
  refine (decode_members _ _).trans ?_
  rw [Extent.decode_ofJson _ exact_numbers, Crs.decode_ofJson, doubles]
  cases f.extent.doubles.all Float.isFinite <;> rfl

end Footprint

namespace Viewport

def doubles (v : Viewport) : List Float := v.bounds.elim [] Footprint.doubles

theorem legible_toJson (v : Viewport) (exact_numbers : ∀ x ∈ v.doubles, Json.Exact x) :
    v.toJson.Legible := by
  obtain ⟨bounds, crs⟩ := v
  have area : (Json.option Footprint.toJson bounds).Legible := by
    cases bounds with
    | none => trivial
    | some f => exact f.legible_toJson exact_numbers
  have system : (Json.option Crs.toJson crs).Legible := by
    cases crs with
    | none => trivial
    | some c => exact c.legible_toJson
  exact ⟨area, system, trivial⟩

theorem decode_members (a b : Doc) :
    decode (.object [(.string (some "bounds"), a), (.string (some "crs"), b)] true) = (do
      let bounds ← a.asOption Footprint.decode
      let crs ← b.asOption Crs.decode
      return ⟨bounds, crs⟩ : Decoded Viewport) := by
  simp [decode, Doc.record, Doc.findMembers, Field.optional, Field.of, Found.optional,
    Found.defaulted, List.lookup, ok_bind]
  cases a.asOption Footprint.decode <;> cases b.asOption Crs.decode <;> rfl

theorem decode_ofJson (v : Viewport) (exact_numbers : ∀ x ∈ v.doubles, Json.Exact x) :
    decode (.ofJson v.toJson) =
      if v.doubles.all Float.isFinite then .ok v else .error .invalidType := by
  obtain ⟨bounds, crs⟩ := v
  have area : Doc.asOption Footprint.decode (.ofJson (.option Footprint.toJson bounds)) =
      if (doubles ⟨bounds, crs⟩).all Float.isFinite then .ok bounds else .error .invalidType := by
    cases bounds with
    | none => rfl
    | some f =>
      show (Footprint.decode (.ofJson f.toJson)).map some = _
      rw [f.decode_ofJson exact_numbers]
      exact apply_ite (Except.map some) _ _ _
  have system : Doc.asOption Crs.decode (.ofJson (.option Crs.toJson crs)) = .ok crs := by
    cases crs with
    | none => rfl
    | some c => exact congrArg (Except.map some) c.decode_ofJson
  refine (decode_members _ _).trans ?_
  rw [area, system]
  cases (doubles ⟨bounds, crs⟩).all Float.isFinite <;> rfl

end Viewport

namespace Affine

def doubles (t : Affine Float) : List Float := [t.scaleX, t.offsetX, t.scaleY, t.offsetY]

theorem legible_toJson (t : Affine Float) (exact_numbers : ∀ x ∈ t.doubles, Json.Exact x) :
    t.toJson.Legible := by
  have each := fun x hx => Doc.legible_real (exact_numbers x hx)
  simpa [doubles, toJson, Json.Legible, Json.LegibleMembers, Json.real] using each

theorem decode_members (a b c d : Doc) :
    decode (.object [(.string (some "scale_x"), a), (.string (some "offset_x"), b),
      (.string (some "scale_y"), c), (.string (some "offset_y"), d)] true) = (do
        let scaleX ← a.asFloat
        let offsetX ← b.asFloat
        let scaleY ← c.asFloat
        let offsetY ← d.asFloat
        return ⟨scaleX, offsetX, scaleY, offsetY⟩ : Decoded (Affine Float)) := by
  simp [decode, Doc.record, Doc.findMembers, Field.required, Field.defaulted, Field.of,
    Found.required, Found.defaulted, List.lookup, ok_bind]
  cases a.asFloat <;> cases b.asFloat <;> cases c.asFloat <;> cases d.asFloat <;> rfl

theorem decode_ofJson (t : Affine Float) (exact_numbers : ∀ x ∈ t.doubles, Json.Exact x) :
    decode (.ofJson t.toJson) =
      if t.doubles.all Float.isFinite then .ok t else .error .invalidType :=
  (decode_members _ _ _ _).trans (Doc.read_four_numbers mk exact_numbers)

end Affine

theorem LayerId.decode_ofJson (i : LayerId) : decode (.ofJson i.toJson) = .ok i := by
  rw [toJson, Doc.ofJson, decode, Doc.asString, ok_bind, ofText?_toText]

theorem Aspect.decode_ofJson (a : Aspect) : decode (.ofJson a.toJson) = .ok a := by
  cases a <;> rfl

namespace LayerChange

theorem legible_toJson (c : LayerChange) : c.toJson.Legible := by
  cases c <;> simp [toJson, aspect?, Aspect.toJson, Json.Legible, Json.LegibleMembers]

/-- At whatever depth it stands. -/
theorem decodeAt_ofJson (level : ℕ) (c : LayerChange) :
    decodeAt level (.ofJson c.toJson) = .ok c := by
  cases c with
  | changed a => cases a <;> rfl
  | _ => rfl

end LayerChange

namespace TimedLayerEvent

theorem legible_toJson (e : TimedLayerEvent) : e.toJson.Legible :=
  ⟨trivial, e.event.change.legible_toJson, trivial, trivial⟩

theorem decode_members (a b c : Doc) :
    decode (.object [(.string (some "layer_id"), a), (.string (some "kind"), b),
      (.string (some "timestamp"), c)] true) = (do
        let layer ← LayerId.decode a
        let change ← LayerChange.decodeAt 2 b
        let time ← Instant.decode c
        return ⟨⟨layer, change⟩, time⟩ : Decoded TimedLayerEvent) := by
  simp [decode, Doc.record, Doc.findMembers, Field.required, Field.of, Found.required, List.lookup,
    ok_bind]
  cases LayerId.decode a <;> cases LayerChange.decodeAt 2 b <;> cases Instant.decode c <;> rfl

theorem decode_ofJson (e : TimedLayerEvent) (timed : Instant.ofText? e.time.toText = some e.time) :
    decode (.ofJson e.toJson) = .ok e := by
  have time : Instant.decode (.ofJson e.time.toJson) = .ok e.time := by
    rw [Instant.toJson, Doc.ofJson, Instant.decode, Doc.asString, ok_bind, timed]
  refine (decode_members _ _ _).trans ?_
  rw [LayerId.decode_ofJson, LayerChange.decodeAt_ofJson, time]
  rfl

end TimedLayerEvent

/-! ## Texts -/

/-- From both texts the value is read back if its numbers are finite, and nothing is read if one of
them is not. -/
def Restored {α : Type} (toJson : α → Json) (decode : Doc → Decoded α) (doubles : List Float)
    (a : α) : Prop :=
  ∀ s ∈ [(toJson a).compact, (toJson a).pretty],
    ((∀ x ∈ doubles, x.isFinite = true) → Doc.decodeText decode s = .ok a) ∧
      ((∃ x ∈ doubles, x.isFinite = false) → ∃ e, Doc.decodeText decode s = .error e)

section Restored

variable {α : Type} {toJson : α → Json} {decode : Doc → Decoded α} {doubles : List Float} {a : α}

theorem restored_of_decode (legible : (toJson a).Legible)
    (decoded : decode (.ofJson (toJson a)) =
      if doubles.all Float.isFinite then .ok a else .error .invalidType) :
    Restored toJson decode doubles a := by
  rintro s hs
  have whole : Doc.ofText s = (.ofJson (toJson a), true) := by
    rcases List.mem_pair.mp hs with rfl | rfl
    · exact Doc.ofText_compact _ legible
    · exact Doc.ofText_pretty _ legible
  constructor
  · intro finite
    rw [Doc.decodeText_eq_ok, whole, decoded, if_pos (List.all_eq_true.mpr finite)]
    exact ⟨rfl, rfl⟩
  · rintro ⟨x, hx, infinite⟩
    have some_infinite : ¬ doubles.all Float.isFinite = true := by
      intro finite
      exact absurd (List.all_eq_true.mp finite x hx) (by simp [infinite])
    rw [Doc.decodeText, whole]
    dsimp only
    rw [decoded, if_neg some_infinite]
    exact ⟨_, rfl⟩

theorem restored_of_decode_ok (legible : (toJson a).Legible)
    (decoded : decode (.ofJson (toJson a)) = .ok a) : Restored toJson decode [] a :=
  restored_of_decode legible decoded

end Restored

/-- Systems, boxes, footprints, viewports, transforms, identities, aspects, changes and events are
restored from their texts, provided that the finite numbers among their parts and the time of the
event are read back from the way they are written. -/
theorem texts_restored :
    (∀ c : Crs, Restored Crs.toJson Crs.decode [] c) ∧
      (∀ e : Extent Float, (∀ x ∈ e.doubles, Json.Exact x) →
        Restored Extent.toJson Extent.decode e.doubles e) ∧
      (∀ f : Footprint Float, (∀ x ∈ f.doubles, Json.Exact x) →
        Restored Footprint.toJson Footprint.decode f.doubles f) ∧
      (∀ v : Viewport, (∀ x ∈ v.doubles, Json.Exact x) →
        Restored Viewport.toJson Viewport.decode v.doubles v) ∧
      (∀ t : Affine Float, (∀ x ∈ t.doubles, Json.Exact x) →
        Restored Affine.toJson Affine.decode t.doubles t) ∧
      (∀ i : LayerId, Restored LayerId.toJson LayerId.decode [] i) ∧
      (∀ a : Aspect, Restored Aspect.toJson Aspect.decode [] a) ∧
      (∀ c : LayerChange, Restored LayerChange.toJson LayerChange.decode [] c) ∧
      ∀ e : TimedLayerEvent, Instant.ofText? e.time.toText = some e.time →
        Restored TimedLayerEvent.toJson TimedLayerEvent.decode [] e := by
  refine ⟨fun c => ?_, fun e numbers => ?_, fun f numbers => ?_, fun v numbers => ?_,
    fun t numbers => ?_, fun i => ?_, fun a => ?_, fun c => ?_, fun e timed => ?_⟩
  · exact restored_of_decode_ok c.legible_toJson c.decode_ofJson
  · exact restored_of_decode (e.legible_toJson numbers) (e.decode_ofJson numbers)
  · exact restored_of_decode (f.legible_toJson numbers) (f.decode_ofJson numbers)
  · exact restored_of_decode (v.legible_toJson numbers) (v.decode_ofJson numbers)
  · exact restored_of_decode (t.legible_toJson numbers) (t.decode_ofJson numbers)
  · exact restored_of_decode_ok trivial i.decode_ofJson
  · exact restored_of_decode_ok trivial a.decode_ofJson
  · exact restored_of_decode_ok c.legible_toJson (c.decodeAt_ofJson 1)
  · exact restored_of_decode_ok e.legible_toJson (e.decode_ofJson timed)

/-- A viewport whose box is inverted, an event, and a transform that shifts by NaN. -/
theorem texts_restored_mixed :
    let view : Viewport :=
      { bounds := some ⟨⟨1.5, -0.0, -20, 1e22⟩, { code := "A", name := some "\"\n\x07\u00e9" }⟩ }
    let event : TimedLayerEvent :=
      { event := ⟨.numbered 42, .changed .style⟩, time := ⟨-1, 500000000⟩ }
    let lost : Affine Float := ⟨1, 0.0 / 0.0, 1, 0.25⟩
    Doc.decodeText Viewport.decode view.toJson.compact = .ok view ∧
      Doc.decodeText TimedLayerEvent.decode event.toJson.pretty = .ok event ∧
      ∃ e, Doc.decodeText Affine.decode lost.toJson.pretty = .error e := by
  intro view event lost
  obtain ⟨-, -, -, views, transforms, -, -, -, events⟩ := texts_restored
  have numbers : ∀ x ∈ view.doubles, Json.Exact x := by decide +kernel
  have others : ∀ x ∈ lost.doubles, Json.Exact x := by decide +kernel
  have finite : ∀ x ∈ view.doubles, x.isFinite = true := by decide +kernel
  have infinite : ∃ x ∈ lost.doubles, x.isFinite = false := by decide +kernel
  have timed : Instant.ofText? event.time.toText = some event.time := by decide +kernel
  exact ⟨(views view numbers _ List.mem_cons_self).1 finite,
    (events event timed _ (List.mem_cons_of_mem _ List.mem_cons_self)).1 (List.forall_mem_nil _),
    (transforms lost others _ (List.mem_cons_of_mem _ List.mem_cons_self)).2 infinite⟩

end LayeredMap
