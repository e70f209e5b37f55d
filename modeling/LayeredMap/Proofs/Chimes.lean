import LayeredMap.Proofs.VeiledWorld

/-!
# When layers ring alike

Who listens to a layer itself is called before or after the relays of sheets,
as it happens. If all who do are onlookers, this makes no difference: of a layer
in custody the sheet that it is on passes each event on, relay or not, for
without a relay nobody is on its roster. And if two scenes have the same layers
and nobody who listens to one ever fails, every subscriber gets his turn in
both.
-/

namespace LayeredMap

variable {fine : ListenerRef → Prop}

/-! ## Who listens to layers -/

namespace Layer

variable {l l' : Layer} {r : SheetRef} {i : Nat}

/-- All who listen to the layer itself are of this kind. -/
def AttendedBy (fine : ListenerRef → Prop) (l : Layer) : Prop :=
  ∀ x, .listener x ∈ l.subscribers → fine x

theorem AttendedBy.mono {kind : ListenerRef → Prop} (h : l.AttendedBy fine)
    (implies : ∀ x, fine x → kind x) : l.AttendedBy kind :=
  fun x hx => implies x (h x hx)

theorem AttendedBy.of_subset (h : l.AttendedBy fine) (fewer : l'.subscribers ⊆ l.subscribers) :
    l'.AttendedBy fine :=
  fun x hx => h x (fewer hx)

theorem AttendedBy.subscribe (h : l.AttendedBy fine) {s : Subscriber}
    (ok : ∀ x, s = .listener x → fine x) : (l.subscribe s).AttendedBy fine := by
  intro x hx
  rw [Layer.subscribe] at hx
  split at hx
  · exact h x hx
  · rcases List.mem_append.mp hx with old | new
    · exact h x old
    · exact ok x (List.mem_singleton.mp new).symm

theorem unsubscribe_subset (l : Layer) (s : Subscriber) :
    (l.unsubscribe s).subscribers ⊆ l.subscribers := by
  rw [unsubscribe]
  split
  · exact List.Subset.refl _
  · exact List.filter_subset_self _

theorem dispose_subset (l : Layer) : l.dispose.1.subscribers ⊆ l.subscribers := by
  rcases dispose_cases l with eq | ⟨body, eq⟩
  · rw [eq]
    exact List.Subset.refl _
  · rw [eq]
    exact List.nil_subset _

theorem AttendedBy.receive (h : l.AttendedBy fine) (a : Action) : (l.receive r i a).AttendedBy fine := by
  cases a with
  | subscribe m n =>
    rw [Layer.receive]
    split
    · exact h.subscribe fun x same => absurd same (by simp)
    · exact h
  | unsubscribe m n =>
    rw [Layer.receive]
    split
    · exact h.of_subset (l.unsubscribe_subset _)
    · exact h
  | dispose m =>
    rw [Layer.receive]
    split
    · exact h.of_subset l.dispose_subset
    · exact h
  | note n => exact h
  | publish roster e => exact h

theorem AttendedBy.foldl_receive (h : l.AttendedBy fine) (actions : List Action) :
    (actions.foldl (Layer.receive r i) l).AttendedBy fine := by
  induction actions generalizing l with
  | nil => exact h
  | cons a rest ih => exact ih (h.receive a)

theorem AttendedBy.obey (h : l.AttendedBy fine) {c : LayerCommand}
    (ok : ∀ x, c = .subscribe x → fine x) : (l.obey c).AttendedBy fine := by
  cases change : c.isChange with
  | true =>
    intro x hx
    rw [World.subscribers_obey change] at hx
    exact h x hx
  | false =>
    cases c with
    | subscribe x => exact h.subscribe fun y same => ok y (by rw [Subscriber.listener.inj same])
    | unsubscribe x => exact h.of_subset (l.unsubscribe_subset _)
    | dispose => exact h.of_subset l.dispose_subset
    | _ => exact absurd change.symm Bool.false_ne_true

end Layer

namespace World

variable {w : World} {c : Command}

theorem attended_execute (sound : w.Sound) (h : ∀ i, (w.layer i).AttendedBy fine)
    (ok : ∀ i x, c = .layer i (.subscribe x) → fine x) (i : Nat) :
    ((w.execute c).1.layer i).AttendedBy fine := by
  rcases execute_course sound c with ⟨r, actions, acts⟩ | rests
  · rw [acts.layers]
    exact (h i).foldl_receive actions
  · rw [rests.layers]
    cases c with
    | layer j c =>
      rw [Layer.suffer]
      split
      · exact (h i).obey fun x same => ok j x (by rw [same])
      · exact h i
    | _ => exact h i

end World

/-! ## Onlookers -/

/-- The sheet whose relay it is. -/
def Subscriber.sheet? : Subscriber → Option SheetRef
  | relay r _ => some r
  | listener _ => none

namespace Layer

/-- The sheets with a relay that is subscribed. -/
def hearers (l : Layer) : List SheetRef := l.subscribers.filterMap Subscriber.sheet?

variable {l : Layer} {r : SheetRef} {k : Nat}

theorem hearers_of_no_relay (h : ∀ r, l.relaysOf r = []) : l.hearers = [] := by
  refine List.filterMap_eq_nil_iff.mpr fun s hs => ?_
  cases s with
  | listener x => rfl
  | relay r n =>
    rw [← mem_relaysOf, h r] at hs
    exact absurd hs List.not_mem_nil

theorem hearers_of_one_relay (own : l.relaysOf r = [k]) (others : ∀ r', r' ≠ r → l.relaysOf r' = []) :
    l.hearers = [r] := by
  obtain ⟨before, after, split, -⟩ := subscribers_of_one_relay own others
  have silent (ls : List ListenerRef) : (ls.map Subscriber.listener).filterMap Subscriber.sheet? = [] := by
    rw [List.filterMap_map]
    exact List.filterMap_eq_nil_iff.mpr fun _ _ => rfl
  rw [hearers, split, List.filterMap_append, List.filterMap_cons, silent, silent]
  rfl

end Layer

namespace Scene

variable {hidden : ListenerRef → Bool} {sc sc' : Scene} {nested nested' : Poke → Attempt}
  {st st' : Stage} {e : LayerEvent}

/-- The listener changes no layer and never fails. -/
structure Onlooker (sc : Scene) (l : ListenerRef) : Prop where
  pokes : (sc.conducts l).pokes = []
  fails : (sc.conducts l).fails = .never

theorem tell_onlooker {l : ListenerRef} (onlooker : sc.Onlooker l) (st : Stage) :
    (sc.tell nested e (.listener l) st).2 = none ∧
      st.Matches hidden (sc.tell nested e (.listener l) st).1 := by
  constructor
  · rw [tell, call, onlooker.pokes, onlooker.fails]
    rfl
  · exact call_unseen onlooker.pokes (by simp [Delivery.shown?, told, Event.isDirect]) st

/-- Sheets pass an event on one after the other. -/
def forwardAll (sc : Scene) (nested : Poke → Attempt) (e : LayerEvent) (rs : List SheetRef)
    (st : Stage) : Stage :=
  rs.foldl (fun st r => sc.forward nested r e st) st

theorem attemptAll_onlookers (self : sc.Matches hidden sc)
    (nest : ∀ q, Agree hidden (nested q) (nested q)) (e : LayerEvent) {subs : List Subscriber}
    (onlookers : ∀ l, .listener l ∈ subs → sc.Onlooker l) (same : st.Matches hidden st') :
    (attemptAll (sc.tell nested e) subs st').2 = none ∧
      (sc.forwardAll nested e (subs.filterMap Subscriber.sheet?) st).Matches hidden
        (attemptAll (sc.tell nested e) subs st').1 := by
  induction subs generalizing st st' with
  | nil => exact ⟨rfl, same⟩
  | cons s subs ih =>
    have rest : ∀ l, .listener l ∈ subs → sc.Onlooker l := fun l hl =>
      onlookers l (List.mem_cons_of_mem s hl)
    cases s with
    | listener l =>
      obtain ⟨calm, unseen⟩ := tell_onlooker (onlookers l List.mem_cons_self) st'
      rw [attemptAll_of_calm calm]
      exact ih rest (same.trans unseen)
    | relay r n => exact ih rest (self.forward nest r e same)

/-- Onlookers apart, an event of a layer goes to the sheets with a relay. -/
theorem fire_onlookers (self : sc.Matches hidden sc) (nest : ∀ q, Agree hidden (nested q) (nested q))
    {i : Nat} (attended : (sc.layers i).AttendedBy sc.Onlooker) (e : LayerEvent) (st : Stage) :
    (sc.fire nested i e st).2 = none ∧
      (sc.forwardAll nested e (sc.layers i).hearers st).Matches hidden (sc.fire nested i e st).1 :=
  attemptAll_onlookers self nest e attended (.refl st)

theorem forward_deserted {r : SheetRef} (deserted : (sc.sheets r).stackListeners.toList = [])
    (e : LayerEvent) (st : Stage) : st.Still (sc.forward nested r e st) := by
  have silent (e : Event) : sc.notify nested (sc.sheets r).stackListeners e st = st := by
    rw [notify, Roster.notify, deserted]
    rfl
  simp only [forward]
  split
  · split
    · exact Stage.still_note st _
    · split
      · exact .refl st
      · rw [silent]
        exact .refl st
  · exact .refl st

end Scene

namespace World.Guarded

variable {hidden : ListenerRef → Bool} {w w' : World} {which : Nat → Prop} {i : Nat} {r : SheetRef}
  {nested : Poke → Attempt}

/-- A member's event is passed on by its sheet, relay or not. -/
theorem fire_member (h : w.Guarded which) (own : which i) (member : i ∈ (w.sheet r).objects)
    (self : w.scene.Matches hidden w.scene) (nest : ∀ q, Agree hidden (nested q) (nested q))
    (attended : (w.layer i).AttendedBy w.scene.Onlooker) (e : LayerEvent) (st : Stage) :
    (w.scene.fire nested i e st).2 = none ∧
      (w.scene.forward nested r e st).Matches hidden (w.scene.fire nested i e st).1 := by
  obtain ⟨calm, told⟩ := Scene.fire_onlookers self nest attended e st
  refine ⟨calm, ?_⟩
  obtain ⟨mine, others⟩ := h.relaysOf_member own member
  cases listening : (w.sheet r).relay with
  | some k =>
    rw [listening] at mine
    have heard : (w.scene.layers i).hearers = [r] := Layer.hearers_of_one_relay mine others
    rw [heard] at told
    exact told
  | none =>
    rw [listening] at mine
    have unheard : (w.scene.layers i).hearers = [] := by
      refine Layer.hearers_of_no_relay fun r' => ?_
      by_cases here : r' = r
      · rw [here]
        exact mine
      · exact others r' here
    have deserted : (w.scene.sheets r).stackListeners.toList = [] :=
      (h.sound.sheets r).listening.mp listening
    rw [unheard] at told
    exact (Scene.forward_deserted deserted e st).matched.symm.trans told

/-- The event of a layer that is on no sheet goes unheard. -/
theorem fire_stranger (h : w.Guarded which) (own : which i) (absent : ∀ r, i ∉ (w.sheet r).objects)
    (self : w.scene.Matches hidden w.scene) (nest : ∀ q, Agree hidden (nested q) (nested q))
    (attended : (w.layer i).AttendedBy w.scene.Onlooker) (e : LayerEvent) (st : Stage) :
    (w.scene.fire nested i e st).2 = none ∧
      st.Matches hidden (w.scene.fire nested i e st).1 := by
  obtain ⟨calm, told⟩ := Scene.fire_onlookers self nest attended e st
  have unheard : (w.scene.layers i).hearers = [] :=
    Layer.hearers_of_no_relay (h.relaysOf_stranger own fun x _ => absent x.2)
  rw [unheard] at told
  exact ⟨calm, told⟩

/-- Whoever listens to the sheets, onlookers apart their layers ring alike. -/
theorem chimes (h : w.Guarded fun _ => True) (h' : w'.Guarded fun _ => True)
    (scenes : w.scene.Matches hidden w'.scene)
    (attended : ∀ i, (w.layer i).AttendedBy w.scene.Onlooker)
    (attended' : ∀ i, (w'.layer i).AttendedBy w'.scene.Onlooker) :
    w.scene.Chimes hidden w'.scene := by
  intro nested nested' nest i e st st' same
  have objects (r : SheetRef) : (w'.sheet r).objects = (w.sheet r).objects :=
    congrArg (List.map LayerHandle.object) (scenes.sheets r).layers
  have left (q : Poke) := (nest q).left
  have right (q : Poke) := (nest q).right
  by_cases placed : ∃ r, i ∈ (w.sheet r).objects
  · obtain ⟨r, member⟩ := placed
    have member' : i ∈ (w'.sheet r).objects := objects r ▸ member
    obtain ⟨calm, rung⟩ := h.fire_member trivial member scenes.left left (attended i) e st
    obtain ⟨calm', rung'⟩ := h'.fire_member trivial member' scenes.right right (attended' i) e st'
    exact ⟨calm, calm', rung.symm.trans ((scenes.forward nest r e same).trans rung')⟩
  · have absent (r : SheetRef) : i ∉ (w.sheet r).objects := fun member => placed ⟨r, member⟩
    have absent' (r : SheetRef) : i ∉ (w'.sheet r).objects := objects r ▸ absent r
    obtain ⟨calm, rung⟩ := h.fire_stranger trivial absent scenes.left left (attended i) e st
    obtain ⟨calm', rung'⟩ := h'.fire_stranger trivial absent' scenes.right right (attended' i) e st'
    exact ⟨calm, calm', rung.symm.trans (same.trans rung')⟩

end World.Guarded

/-! ## Those who never fail -/

/-- With the same layers, and nobody listening to one who ever fails, layers ring alike. -/
theorem Scene.chimes_of_steady {hidden : ListenerRef → Bool} {sc sc' : Scene}
    (scenes : sc.Matches hidden sc') (layers : sc'.layers = sc.layers)
    (steady : ∀ i, (sc.layers i).AttendedBy fun l =>
      (sc.conducts l).fails = .never ∧ (sc'.conducts l).fails = .never) : sc.Chimes hidden sc' := by
  intro nested nested' nest i e
  rw [fire, fire, layers]
  refine attemptAll_agree fun s hs => ?_
  cases s with
  | listener l =>
    obtain ⟨fails, fails'⟩ := steady i l hs
    exact scenes.call_agree nest (.layer e) l fails fails'
  | relay r n => exact fun st st' same => ⟨rfl, rfl, scenes.forward nest r e same⟩

end LayeredMap
