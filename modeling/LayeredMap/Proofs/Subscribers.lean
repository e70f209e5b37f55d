import LayeredMap.Proofs.Conservation

/-!
# The relays that are subscribed to a layer

Subscribing adds a relay once, giving it up removes it unless the layer is
sticky, and disposal either lets everyone go or no one. What other sheets and
plain listeners do leaves the relays of a sheet alone, disposal apart. The
sheet itself binds and lets go all the layers of a list, and no others.
-/

namespace LayeredMap

/-- The number of a relay of the sheet. -/
def Subscriber.relayOf? (r : SheetRef) : Subscriber → Option Nat
  | .relay r' n => if r' = r then some n else none
  | .listener _ => none

namespace Subscriber

@[simp] theorem relayOf?_listener (r : SheetRef) (l : ListenerRef) :
    (listener l).relayOf? r = none := rfl

@[simp] theorem relayOf?_own (r : SheetRef) (n : Nat) : (relay r n).relayOf? r = some n :=
  if_pos rfl

@[simp] theorem relayOf?_other {r r' : SheetRef} (h : r' ≠ r) (n : Nat) :
    (relay r' n).relayOf? r = none :=
  if_neg h

end Subscriber

namespace Layer

/-- The relays of a sheet among the subscribers, by number. -/
def relaysOf (r : SheetRef) (l : Layer) : List Nat := l.subscribers.filterMap (·.relayOf? r)

variable {r : SheetRef} {l : Layer} {k : Nat}

theorem mem_relaysOf : k ∈ l.relaysOf r ↔ .relay r k ∈ l.subscribers := by
  rw [relaysOf, List.mem_filterMap]
  constructor
  · rintro ⟨s, hs, hk⟩
    cases s with
    | listener x => exact absurd hk (Option.some_ne_none k).symm
    | relay r' n =>
      by_cases same : r' = r
      · subst same
        rw [Subscriber.relayOf?_own, Option.some.injEq] at hk
        exact hk ▸ hs
      · simp [same] at hk
  · intro h
    exact ⟨.relay r k, h, if_pos rfl⟩

theorem count_relaysOf : (l.relaysOf r).count k = l.subscribers.count (.relay r k) := by
  rw [relaysOf]
  induction l.subscribers with
  | nil => rfl
  | cons s rest ih =>
    cases s with
    | listener x => simpa [List.filterMap_cons] using ih
    | relay r' n =>
      by_cases same : r' = r
      · subst same
        simp [List.count_cons, ih]
      · simp [ih, same]

theorem relaysOf_subscribe_relay (h : k ∉ l.relaysOf r) :
    (l.subscribe (.relay r k)).relaysOf r = l.relaysOf r ++ [k] := by
  rw [subscribe, if_neg (fun hmem => h (mem_relaysOf.mpr hmem))]
  simp [relaysOf]

theorem relaysOf_subscribe_again (h : k ∈ l.relaysOf r) : l.subscribe (.relay r k) = l := by
  rw [subscribe, if_pos (mem_relaysOf.mp h)]

theorem relaysOf_subscribe_stranger {s : Subscriber} (h : s.relayOf? r = none) :
    (l.subscribe s).relaysOf r = l.relaysOf r := by
  rw [subscribe]
  split
  · rfl
  · simp [relaysOf, h]

theorem relaysOf_unsubscribe_relay (h : l.isSticky = false) :
    (l.unsubscribe (.relay r k)).relaysOf r = (l.relaysOf r).filter (· ≠ k) := by
  rw [unsubscribe, h]
  simp only [relaysOf, Bool.false_eq_true, if_false]
  induction l.subscribers with
  | nil => rfl
  | cons s rest ih =>
    cases s with
    | listener x => simpa [List.filterMap_cons] using ih
    | relay r' n =>
      by_cases same : r' = r
      · subst same
        by_cases gone : n = k <;> simpa [gone] using ih
      · simpa [same] using ih

theorem relaysOf_unsubscribe_stranger {s : Subscriber} (h : s.relayOf? r = none) :
    (l.unsubscribe s).relaysOf r = l.relaysOf r := by
  rw [unsubscribe]
  split
  · rfl
  · simp only [relaysOf]
    induction l.subscribers with
    | nil => rfl
    | cons t rest ih =>
      by_cases same : t = s
      · subst same
        simpa [h] using ih
      · simp only [List.filter_cons, decide_eq_true same, if_true, List.filterMap_cons, ih]

theorem relaysOf_dispose : l.dispose.1.relaysOf r = l.relaysOf r ∨ l.dispose.1.relaysOf r = [] := by
  rcases dispose_cases l with eq | ⟨body, eq⟩
  · exact Or.inl (by rw [eq]; rfl)
  · exact Or.inr (by rw [eq]; rfl)

theorem relaysOf_dispose_vacant (h : l.relaysOf r = []) : l.dispose.1.relaysOf r = [] := by
  rcases l.relaysOf_dispose (r := r) with kept | gone
  · rw [kept, h]
  · exact gone

theorem relaysOf_modifyFixed (f : FixedBody → FixedBody) :
    (l.modifyFixed f).relaysOf r = l.relaysOf r := by
  rw [modifyFixed]
  split <;> rfl

end Layer

variable {r r' : SheetRef} {i : Nat} {l : Layer}

/-! ## Actions of other sheets -/

theorem Layer.relaysOf_receive_stranger (other : r' ≠ r) {a : Action}
    (spared : a.disposes i = false ∨ l.relaysOf r = []) :
    (l.receive r' i a).relaysOf r = l.relaysOf r := by
  cases a with
  | subscribe h n =>
    rw [receive]
    split
    · exact relaysOf_subscribe_stranger (Subscriber.relayOf?_other other n)
    · rfl
  | unsubscribe h n =>
    rw [receive]
    split
    · exact relaysOf_unsubscribe_stranger (Subscriber.relayOf?_other other n)
    · rfl
  | dispose h =>
    rw [receive]
    split
    · rename_i same
      have vacant : l.relaysOf r = [] := spared.resolve_left (by simp [Action.disposes, same])
      exact (relaysOf_dispose_vacant vacant).trans vacant.symm
    · rfl
  | note n => rfl
  | publish roster e => rfl

theorem Layer.relaysOf_foldl_stranger (other : r' ≠ r) {actions : List Action}
    (spared : actions.countP (Action.disposes i) = 0 ∨ l.relaysOf r = []) :
    (actions.foldl (receive r' i) l).relaysOf r = l.relaysOf r := by
  induction actions generalizing l with
  | nil => rfl
  | cons a rest ih =>
    rw [List.countP_cons] at spared
    have first : (l.receive r' i a).relaysOf r = l.relaysOf r := by
      refine relaysOf_receive_stranger other (spared.imp_left ?_)
      intro none_fits
      by_contra fits
      rw [if_pos (Bool.of_not_eq_false fits)] at none_fits
      omega
    have later : rest.countP (Action.disposes i) = 0 ∨ (l.receive r' i a).relaysOf r = [] := by
      rw [first]
      exact spared.imp_left (by omega)
    exact (ih later).trans first

/-! ## Actions of the sheet itself -/

/-- Of the relays of a sheet none or exactly the given ones are subscribed, and the layer is not
sticky. -/
structure Layer.Pliant (r : SheetRef) (own : List Nat) (l : Layer) : Prop where
  relays : l.relaysOf r = [] ∨ l.relaysOf r = own
  loose : l.isSticky = false

namespace Layer.Pliant

variable {k : Nat}

theorem relaysOf_subscribe (h : l.Pliant r [k]) : (l.subscribe (.relay r k)).relaysOf r = [k] := by
  rcases h.relays with idle | bound
  · rw [relaysOf_subscribe_relay (by simp [idle]), idle]
    rfl
  · rw [relaysOf_subscribe_again (by simp [bound]), bound]

theorem relaysOf_unsubscribe (h : l.Pliant r [k]) :
    (l.unsubscribe (.relay r k)).relaysOf r = [] := by
  rw [relaysOf_unsubscribe_relay h.loose]
  rcases h.relays with idle | bound
  · rw [idle]
    rfl
  · rw [bound]
    simp

theorem subscribe (h : l.Pliant r [k]) : (l.subscribe (.relay r k)).Pliant r [k] :=
  ⟨Or.inr h.relaysOf_subscribe, (lasting_isSticky.subscribe l _).trans h.loose⟩

theorem unsubscribe (h : l.Pliant r [k]) : (l.unsubscribe (.relay r k)).Pliant r [k] :=
  ⟨Or.inl h.relaysOf_unsubscribe, (lasting_isSticky.unsubscribe l _).trans h.loose⟩

end Layer.Pliant

/-- Each of several layers is treated alike, and only the one in question is concerned. -/
theorem Layer.relaysOf_foldl_flatMap {own after : List Nat} {treat : LayerHandle → List Action}
    (elsewhere : ∀ h l, h.object ≠ i → (treat h).foldl (receive r i) l = l)
    (here : ∀ h l, h.object = i → l.Pliant r own → ((treat h).foldl (receive r i) l).Pliant r own ∧
      ((treat h).foldl (receive r i) l).relaysOf r = after)
    (ls : List LayerHandle) (pliant : i ∈ ls.map (·.object) → l.Pliant r own) :
    ((ls.flatMap treat).foldl (receive r i) l).relaysOf r =
      if i ∈ ls.map (·.object) then after else l.relaysOf r := by
  induction ls generalizing l with
  | nil => rfl
  | cons h rest ih =>
    rw [List.flatMap_cons, List.foldl_append]
    by_cases same : h.object = i
    · have there : i ∈ (h :: rest).map (·.object) := by simp [same]
      obtain ⟨still, treated⟩ := here h l same (pliant there)
      rw [ih fun _ => still, treated, if_pos there]
      exact ite_self after
    · rw [elsewhere h l same, ih fun later => pliant (List.mem_cons_of_mem _ later)]
      simp [Ne.symm same]

theorem Layer.relaysOf_foldl_subscribe {k : Nat} (ls : List LayerHandle)
    (pliant : i ∈ ls.map (·.object) → l.Pliant r [k]) :
    ((ls.map (Action.subscribe · k)).foldl (receive r i) l).relaysOf r =
      if i ∈ ls.map (·.object) then [k] else l.relaysOf r := by
  rw [List.map_eq_flatMap]
  refine relaysOf_foldl_flatMap ?_ ?_ ls pliant
  · intro h l other
    exact if_neg other
  · intro h l same pliant
    simp only [List.foldl_cons, List.foldl_nil, receive, if_pos same]
    exact ⟨pliant.subscribe, pliant.relaysOf_subscribe⟩

theorem Layer.relaysOf_foldl_unsubscribe {k : Nat} (ls : List LayerHandle)
    (pliant : i ∈ ls.map (·.object) → l.Pliant r [k]) :
    ((ls.map (Action.unsubscribe · k)).foldl (receive r i) l).relaysOf r =
      if i ∈ ls.map (·.object) then [] else l.relaysOf r := by
  rw [List.map_eq_flatMap]
  refine relaysOf_foldl_flatMap ?_ ?_ ls pliant
  · intro h l other
    exact if_neg other
  · intro h l same pliant
    simp only [List.foldl_cons, List.foldl_nil, receive, if_pos same]
    exact ⟨pliant.unsubscribe, pliant.relaysOf_unsubscribe⟩

/-- Letting go leaves no relay of the sheet, whether there was one or not. -/
theorem Layer.relaysOf_foldl_leaving {s : Sheet} (ls : List LayerHandle)
    (pliant : i ∈ ls.map (·.object) → l.Pliant r s.relay.toList) :
    ((ls.flatMap s.leaving).foldl (receive r i) l).relaysOf r =
      if i ∈ ls.map (·.object) then [] else l.relaysOf r := by
  refine relaysOf_foldl_flatMap ?_ ?_ ls pliant
  · intro h l other
    rw [Sheet.leaving]
    cases s.relay with
    | none => exact if_neg other
    | some k => simp only [List.foldl_cons, List.foldl_nil, receive, if_neg other]
  · intro h l same pliant
    rw [Sheet.leaving]
    cases hk : s.relay with
    | none =>
      simp only [List.foldl_cons, List.foldl_nil, receive, if_pos same]
      have vacant : l.relaysOf r = [] := by simpa [hk] using pliant.relays
      have gone := relaysOf_dispose_vacant vacant
      exact ⟨⟨Or.inl gone, (lasting_isSticky.dispose l).trans pliant.loose⟩, gone⟩
    | some k =>
      rw [hk] at pliant
      simp only [List.foldl_cons, List.foldl_nil, receive, if_pos same]
      have gone := relaysOf_dispose_vacant pliant.relaysOf_unsubscribe
      exact ⟨⟨Or.inl gone, (lasting_isSticky.dispose _).trans pliant.unsubscribe.loose⟩, gone⟩

theorem Layer.foldl_aside {actions : List Action} (unheard : ∀ a ∈ actions, a.Aside) :
    actions.foldl (receive r i) l = l := by
  induction actions with
  | nil => rfl
  | cons a rest ih =>
    have skipped : l.receive r i a = l := by
      cases unheard a List.mem_cons_self <;> rfl
    rw [List.foldl_cons, skipped]
    exact ih fun b hb => unheard b (List.mem_cons_of_mem a hb)

/-! ## Commands that layers have a direct part in -/

/-- The command has a layer dispose of itself. -/
def World.endsLayer (object : Nat) : Command → Bool
  | .layer i .dispose => object == i
  | _ => false

theorem Layer.relaysOf_suffer {c : Command} (spared : World.endsLayer i c = false ∨ l.relaysOf r = []) :
    (l.suffer i c).relaysOf r = l.relaysOf r := by
  cases c with
  | layer object c =>
    rw [suffer]
    split
    · rename_i same
      cases c with
      | setVisible on | setSelected on | fire e => rfl
      | setBounds bounds | setTitle title | setUnavailable reason => exact relaysOf_modifyFixed _
      | subscribe x => exact relaysOf_subscribe_stranger rfl
      | unsubscribe x => exact relaysOf_unsubscribe_stranger rfl
      | dispose =>
        have vacant : l.relaysOf r = [] := spared.resolve_left (by simp [World.endsLayer, same])
        exact (relaysOf_dispose_vacant vacant).trans vacant.symm
    · rfl
  | _ => rfl

end LayeredMap
