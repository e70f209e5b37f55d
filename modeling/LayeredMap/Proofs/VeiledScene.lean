import LayeredMap.Proofs.Forwarding
import LayeredMap.Proofs.Veil

/-!
# Deliveries behind a veil

Two stages match if the switches are the same and what is on record is the same
for those who are not hidden: which events of a sheet they were told, in which
order, and what they saw, but for whether the sheet was listening. A hidden
listener who pokes nothing leaves no mark on that, whatever he is called for
and however he fails. So if the layers of two scenes that match ring alike, all
that is told in them matches.
-/

namespace LayeredMap

variable {hidden : ListenerRef → Bool}

/-- The event comes from the layer itself. -/
def Event.isDirect : Event → Bool
  | .layer _ => true
  | _ => false

/-- What was seen, but for whether the sheet was listening. -/
def Delivery.outline (d : Delivery) : Delivery :=
  { d with sighting := d.sighting.map (Option.map ({ · with listening := false })) }

/-- What shows of a delivery. Who listens to a layer itself is no matter of the sheet. -/
def Delivery.shown? (hidden : ListenerRef → Bool) (d : Delivery) : Option Delivery :=
  if hidden d.listener || d.event.isDirect then none else some d.outline

namespace Stage

def shown (hidden : ListenerRef → Bool) (st : Stage) : List Delivery :=
  st.deliveries.filterMap (Delivery.shown? hidden)

structure Matches (hidden : ListenerRef → Bool) (st st' : Stage) : Prop where
  flags : st'.flags = st.flags
  shown : st'.shown hidden = st.shown hidden

variable {st st' st₁ st₁' st₂ : Stage}

theorem Matches.refl (st : Stage) : st.Matches hidden st := ⟨rfl, rfl⟩

theorem Matches.symm (h : st.Matches hidden st') : st'.Matches hidden st :=
  ⟨h.flags.symm, h.shown.symm⟩

theorem Matches.trans (h : st.Matches hidden st₁) (h' : st₁.Matches hidden st₂) :
    st.Matches hidden st₂ :=
  ⟨h'.flags.trans h.flags, h'.shown.trans h.shown⟩

theorem Still.matched (h : st.Still st') : st.Matches hidden st' :=
  ⟨h.flags, congrArg (List.filterMap (Delivery.shown? hidden)) h.deliveries⟩

/-- Between stages that match, nothing has happened on either side but notices. -/
theorem Matches.still (h : st.Matches hidden st') (still : st.Still st₁) (still' : st'.Still st₁') :
    st₁.Matches hidden st₁' :=
  (still.matched.symm.trans h).trans still'.matched

theorem Matches.withFlags (h : st.Matches hidden st') (flags : Nat → Flags) :
    Matches hidden { st with flags } { st' with flags } :=
  ⟨rfl, h.shown⟩

theorem shown_record (st : Stage) (d : Delivery) :
    (st.record (.delivery d)).shown hidden = st.shown hidden ++ (d.shown? hidden).toList := by
  rw [shown, deliveries_record, List.filterMap_append]
  cases hd : d.shown? hidden with
  | none => simp [Entry.delivery?, hd]; rfl
  | some d' => simp [Entry.delivery?, hd]; rfl

end Stage

/-! ## Attempts in step -/

/-- From stages that match to stages that match, without failure. -/
def Agree (hidden : ListenerRef → Bool) (a a' : Attempt) : Prop :=
  ∀ st st', st.Matches hidden st' →
    (a st).2 = none ∧ (a' st').2 = none ∧ (a st).1.Matches hidden (a' st').1

theorem Agree.left {a a' : Attempt} (h : Agree hidden a a') : Agree hidden a a := by
  intro st st' same
  obtain ⟨calm, -, first⟩ := h st st' same
  obtain ⟨calm', -, second⟩ := h st' st' (.refl st')
  exact ⟨calm, calm', first.trans second.symm⟩

theorem Agree.right {a a' : Attempt} (h : Agree hidden a a') : Agree hidden a' a' := by
  intro st st' same
  obtain ⟨-, calm, first⟩ := h st st (.refl st)
  obtain ⟨-, calm', second⟩ := h st st' same
  exact ⟨calm, calm', first.symm.trans second⟩

theorem attemptAll_agree {α : Type} {attempt attempt' : α → Attempt} {as : List α}
    (h : ∀ a ∈ as, Agree hidden (attempt a) (attempt' a)) :
    Agree hidden (attemptAll attempt as) (attemptAll attempt' as) := by
  induction as with
  | nil => exact fun st st' same => ⟨rfl, rfl, same⟩
  | cons a as ih =>
    intro st st' same
    obtain ⟨calm, calm', first⟩ := h a List.mem_cons_self st st' same
    rw [attemptAll_of_calm calm, attemptAll_of_calm calm']
    exact ih (fun b hb => h b (List.mem_cons_of_mem a hb)) _ _ first

/-! ## Scenes -/

/-- But for those who are subscribed. -/
structure Layer.Alike (l l' : Layer) : Prop where
  id : l'.id = l.id
  body : l'.body = l.body
  disposals : l'.disposals = l.disposals

/-- Sheets and layers match, and listeners look at the same and poke the same, the hidden ones
nothing. How they fail is left open. -/
structure Scene.Matches (hidden : ListenerRef → Bool) (sc sc' : Scene) : Prop where
  sheets : ∀ r, (sc.sheets r).Matches hidden (sc'.sheets r)
  reprojectors : sc'.reprojectors = sc.reprojectors
  handles : sc'.handles = sc.handles
  layers : ∀ i, (sc.layers i).Alike (sc'.layers i)
  observes : ∀ l, (sc'.conducts l).observes = (sc.conducts l).observes
  pokes : ∀ l, (sc'.conducts l).pokes = (sc.conducts l).pokes
  idle : ∀ l, hidden l = true → (sc.conducts l).pokes = []

namespace Scene

variable {sc sc' : Scene} {nested nested' : Poke → Attempt} {e : Event} {l : ListenerRef}
  {st st' : Stage}

/-- The call is on record and nothing else has happened yet. -/
def met (sc : Scene) (e : Event) (l : ListenerRef) (st : Stage) : Stage :=
  { st with calls := put st.calls l (st.calls l + 1) }.record (.delivery (sc.told e l))

theorem shown_met (sc : Scene) (e : Event) (l : ListenerRef) (st : Stage) :
    (sc.met e l st).shown hidden = st.shown hidden ++ ((sc.told e l).shown? hidden).toList :=
  Stage.shown_record { st with calls := put st.calls l (st.calls l + 1) } (sc.told e l)

theorem call_of_calm (calm : (attemptAll nested (sc.conducts l).pokes (sc.met e l st)).2 = none) :
    sc.call nested e l st = ((attemptAll nested (sc.conducts l).pokes (sc.met e l st)).1,
      if (sc.conducts l).fails.includes (st.calls l + 1) then some (sc.conducts l).error else none) := by
  cases poked : attemptAll nested (sc.conducts l).pokes (sc.met e l st) with
  | mk st₁ error =>
    rw [poked] at calm
    subst calm
    simp only [met, told] at poked
    simp only [call, poked]

/-- A call that leaves no mark. -/
theorem call_unseen (idle : (sc.conducts l).pokes = [])
    (unseen : (sc.told e l).shown? hidden = none) (st : Stage) :
    st.Matches hidden (sc.call nested e l st).1 := by
  have recorded : (sc.met e l st).shown hidden = st.shown hidden := by
    rw [shown_met, unseen]
    exact List.append_nil _
  rw [call, idle]
  exact ⟨rfl, recorded⟩

namespace Matches

variable (h : sc.Matches hidden sc')
include h

theorem shown_told (e : Event) (l : ListenerRef) :
    (sc'.told e l).shown? hidden = (sc.told e l).shown? hidden := by
  have sight (name : String) : (sc'.sight name).map ({ · with listening := false }) =
      (sc.sight name).map ({ · with listening := false }) := by
    rw [Scene.sight, Scene.sight, sheetNamed?, sheetNamed?, h.handles, Option.map_map,
      Option.map_map]
    refine Option.map_congr fun r _ => ?_
    have sheet := h.sheets r
    simp only [Function.comp_apply, Sheet.sighting, Sheet.effectiveCrs, sheet.layers, sheet.title,
      sheet.disposed, sheet.viewport]
  have outline : (sc'.told e l).outline = (sc.told e l).outline := by
    simp only [Delivery.outline, told, h.observes, Option.map_map]
    refine congrArg (Delivery.mk l e) ?_
    exact Option.map_congr fun name _ => sight name
  rw [Delivery.shown?, Delivery.shown?, outline]
  rfl

theorem isOpen (r : SheetRef) : sc'.isOpen r = sc.isOpen r := by
  rw [Scene.isOpen, Scene.isOpen, h.handles]

theorem met (e : Event) (l : ListenerRef) (same : st.Matches hidden st') :
    (sc.met e l st).Matches hidden (sc'.met e l st') := by
  refine ⟨same.flags, ?_⟩
  rw [shown_met, shown_met, same.shown, h.shown_told]

theorem pokes_agree (nest : ∀ q, Agree hidden (nested q) (nested' q)) (l : ListenerRef) :
    Agree hidden (attemptAll nested (sc.conducts l).pokes)
      (attemptAll nested' (sc'.conducts l).pokes) := by
  rw [h.pokes l]
  exact attemptAll_agree fun q _ => nest q

/-- A listener who is called in both scenes. -/
theorem call (nest : ∀ q, Agree hidden (nested q) (nested' q)) (e : Event) (l : ListenerRef)
    (same : st.Matches hidden st') :
    (sc.call nested e l st).1.Matches hidden (sc'.call nested' e l st').1 := by
  obtain ⟨calm, calm', after⟩ := h.pokes_agree nest l _ _ (h.met e l same)
  rw [call_of_calm calm, call_of_calm calm']
  exact after

/-- One who never fails. -/
theorem call_agree (nest : ∀ q, Agree hidden (nested q) (nested' q)) (e : Event) (l : ListenerRef)
    (steady : (sc.conducts l).fails = .never) (steady' : (sc'.conducts l).fails = .never) :
    Agree hidden (sc.call nested e l) (sc'.call nested' e l) := by
  intro st st' same
  obtain ⟨calm, calm', -⟩ := h.pokes_agree nest l _ _ (h.met e l same)
  refine ⟨?_, ?_, h.call nest e l same⟩
  · rw [call_of_calm calm, steady]
    rfl
  · rw [call_of_calm calm', steady']
    rfl

end Matches

theorem Matches.refl (idle : ∀ l, hidden l = true → (sc.conducts l).pokes = []) :
    sc.Matches hidden sc :=
  ⟨fun _ => .refl _, rfl, rfl, fun _ => ⟨rfl, rfl, rfl⟩, fun _ => rfl, fun _ => rfl, idle⟩

/-- Listeners are called one after the other, and it does not matter whether they fail. -/
def tellAll (sc : Scene) (nested : Poke → Attempt) (e : Event) (ls : List ListenerRef) (st : Stage) :
    Stage :=
  ls.foldl (fun st l => (sc.call nested e l st).1) st

namespace Matches

variable (h : sc.Matches hidden sc')
include h

theorem tellAll (nest : ∀ q, Agree hidden (nested q) (nested' q)) (e : Event)
    (ls : List ListenerRef) (same : st.Matches hidden st') :
    (sc.tellAll nested e ls st).Matches hidden (sc'.tellAll nested' e ls st') := by
  induction ls generalizing st st' with
  | nil => exact same
  | cons l ls ih => exact ih (h.call nest e l same)

theorem left : sc.Matches hidden sc := .refl h.idle

theorem right : sc'.Matches hidden sc' := .refl fun l hides => (h.pokes l).trans (h.idle l hides)

end Matches

theorem shown?_of_hidden (hides : hidden l = true) : (sc.told e l).shown? hidden = none := by
  simp [Delivery.shown?, told, hides]

/-- Nothing shows of a delivery but what shows of the calls of those who are not hidden. -/
theorem deliverAll_matches (self : sc.Matches hidden sc)
    (nest : ∀ q, Agree hidden (nested q) (nested q)) (e : Event) (position : Nat)
    (ls : List ListenerRef) (same : st.Matches hidden st') :
    (sc.tellAll nested e (ls.filter (!hidden ·)) st).Matches hidden
      (Roster.deliverAll (sc.call nested e)
        (fun i error st => st.note (.listenerFailed e.label i error)) position ls st').1 := by
  induction ls generalizing position st st' with
  | nil => exact same
  | cons l ls ih =>
    obtain ⟨st₁, still, rest⟩ := sc.deliverAll_cons nested e position l ls st'
    rw [rest]
    cases hides : hidden l with
    | true =>
      have unseen : st'.Matches hidden (sc.call nested e l st').1 :=
        call_unseen (self.idle l hides) (shown?_of_hidden hides) st'
      rw [List.filter_cons_of_neg (by simp [hides])]
      exact ih (position + 1) ((same.trans unseen).trans still.matched)
    | false =>
      have called := self.call nest e l same
      rw [List.filter_cons_of_pos (by simp [hides])]
      exact ih (position + 1) (called.trans still.matched)

namespace Matches

variable (h : sc.Matches hidden sc')
include h

theorem notify (nest : ∀ q, Agree hidden (nested q) (nested' q)) (e : Event)
    {roster roster' : Roster ListenerRef} (listed : roster'.shown hidden = roster.shown hidden)
    (same : st.Matches hidden st') :
    (sc.notify nested roster e st).Matches hidden (sc'.notify nested' roster' e st') := by
  have mine := deliverAll_matches h.left (fun q => (nest q).left) e 0 roster.toList (.refl st)
  have other := deliverAll_matches h.right (fun q => (nest q).right) e 0 roster'.toList (.refl st')
  have between := h.tellAll nest e (roster.shown hidden) same
  rw [← Roster.shown, listed] at other
  exact (mine.symm.trans between).trans other

theorem forward (nest : ∀ q, Agree hidden (nested q) (nested' q)) (r : SheetRef) (e : LayerEvent)
    (same : st.Matches hidden st') :
    (sc.forward nested r e st).Matches hidden (sc'.forward nested' r e st') := by
  have sheet := h.sheets r
  simp only [Scene.forward, h.isOpen, sheet.stack]
  split
  · cases (sc.sheets r).stack.indexOf? e.layer with
    | none => exact same.still (Stage.still_note _ _) (Stage.still_note _ _)
    | some i =>
      cases hm : (sc.sheets r).stack.get? i with
      | none =>
        simp only [hm]
        exact same
      | some m =>
        simp only [hm]
        exact h.notify nest _ sheet.stackListeners same
  · exact same

end Matches

/-! ## Layers that ring alike -/

/-- Whenever an event of a layer is told, it is told alike in both scenes. -/
def Chimes (hidden : ListenerRef → Bool) (sc sc' : Scene) : Prop :=
  ∀ nested nested' : Poke → Attempt, (∀ q, Agree hidden (nested q) (nested' q)) → ∀ i e,
    Agree hidden (sc.fire nested i e) (sc'.fire nested' i e)

namespace Matches

variable (h : sc.Matches hidden sc') (chimes : sc.Chimes hidden sc')
include h chimes

theorem switch (nest : ∀ q, Agree hidden (nested q) (nested' q)) (i : Nat)
    (set : Flags → Flags × Option LayerChange) :
    Agree hidden (sc.switch nested i set) (sc'.switch nested' i set) := by
  intro st st' same
  rw [Scene.switch, Scene.switch, same.flags, (h.layers i).id]
  have moved := same.withFlags (put st.flags i (set (st.flags i)).1)
  cases hc : (set (st.flags i)).2 with
  | none =>
    simp only [hc]
    exact ⟨trivial, trivial, moved⟩
  | some change =>
    simp only [hc]
    exact chimes nested nested' nest i _ _ _ moved

theorem pokeWithin (depth : Nat) (q : Poke) :
    Agree hidden (sc.pokeWithin depth q) (sc'.pokeWithin depth q) := by
  induction depth generalizing q with
  | zero => exact fun st st' same => ⟨rfl, rfl, same⟩
  | succ depth ih => exact attemptAll_agree fun set _ => h.switch chimes ih q.object set

theorem poke (q : Poke) : Agree hidden (sc.poke q) (sc'.poke q) :=
  h.pokeWithin chimes nestingLimit q

/-- The same is told to those who are not hidden. -/
theorem speaks {told told' : List (Roster ListenerRef × Event)}
    (heard : told'.map (fun x => (x.1.shown hidden, x.2)) =
      told.map fun x => (x.1.shown hidden, x.2))
    (same : st.Matches hidden st') {st₁ st₁' : Stage} (speaks : sc.Speaks told st st₁)
    (speaks' : sc'.Speaks told' st' st₁') : st₁.Matches hidden st₁' := by
  induction speaks generalizing told' st' with
  | done still =>
    obtain rfl := List.map_eq_nil_iff.mp heard
    exact same.still still speaks'.still
  | @tell st st₂ st₁ roster e rest still _ ih =>
    cases speaks' with
    | done => exact absurd heard (by simp)
    | @tell _ st₂' _ roster' e' rest' still' later' =>
      obtain ⟨first, others⟩ := List.cons_eq_cons.mp heard
      obtain ⟨listed, rfl⟩ := Prod.mk.injEq .. ▸ first
      exact ih others (h.notify (h.poke chimes) e' listed (same.still still still')) later'

end Matches
end Scene
end LayeredMap
