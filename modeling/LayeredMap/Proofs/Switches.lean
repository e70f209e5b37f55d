import LayeredMap.Proofs.Forwarding
import LayeredMap.Proofs.Passage

/-!
# What a listener can tell of the switches of a layer

A layer speaks of a switch only when it moves. So of each switch a listener is
told the moves in turn, and the last one says where the switch stands; of bounds
and titles he is told whenever they are set. This takes that nobody who is told
before him moves a switch when he is called, since the round that this sets off
overtakes the one that he is called in. Those after him may do what they like,
and so may he himself.
-/

namespace LayeredMap

def LayerChange.visibility? : LayerChange → Option Bool
  | .shown => some true
  | .hidden => some false
  | _ => none

def LayerChange.selection? : LayerChange → Option Bool
  | .selected => some true
  | .deselected => some false
  | _ => none

/-- Changes in turn that take the switches from where they stood to where they stand. -/
inductive Told : Flags → List LayerChange → Flags → Prop
  | nothing (f : Flags) : Told f [] f
  | visibility {f f' : Flags} {on : Bool} {cs : List LayerChange} (moved : f.visible ≠ on)
      (rest : Told { f with visible := on } cs f') :
      Told f ((if on then .shown else .hidden) :: cs) f'
  | selection {f f' : Flags} {on : Bool} {cs : List LayerChange} (moved : f.selected ≠ on)
      (rest : Told { f with selected := on } cs f') :
      Told f ((if on then .selected else .deselected) :: cs) f'
  | aspect {f f' : Flags} (a : Aspect) {cs : List LayerChange} (rest : Told f cs f') :
      Told f (.changed a :: cs) f'

namespace Told

variable {f f₁ f' : Flags} {cs cs' : List LayerChange}

theorem trans (h : Told f cs f₁) (h' : Told f₁ cs' f') : Told f (cs ++ cs') f' := by
  induction h with
  | nothing f => exact h'
  | visibility moved _ ih => exact .visibility moved (ih h')
  | selection moved _ ih => exact .selection moved (ih h')
  | aspect a _ ih => exact .aspect a (ih h')

/-- The moves of the one switch alternate, and the last one says where it stands. -/
theorem visible (h : Told f cs f') :
    (f.visible :: cs.filterMap LayerChange.visibility?).IsChain (· ≠ ·) ∧
      (cs.filterMap LayerChange.visibility?).getLastD f.visible = f'.visible := by
  induction h with
  | nothing f => exact ⟨.singleton _, rfl⟩
  | @visibility f f' on cs moved _ ih =>
    have read : LayerChange.visibility? (if on then .shown else .hidden) = some on := by
      cases on <;> rfl
    rw [List.filterMap_cons_some read, List.isChain_cons_cons, List.getLastD_cons]
    exact ⟨⟨moved, ih.1⟩, ih.2⟩
  | @selection f f' on cs _ _ ih =>
    have read : LayerChange.visibility? (if on then .selected else .deselected) = none := by
      cases on <;> rfl
    rw [List.filterMap_cons_none read]
    exact ih
  | aspect a _ ih => exact ih

/-- So do those of the other. -/
theorem selected (h : Told f cs f') :
    (f.selected :: cs.filterMap LayerChange.selection?).IsChain (· ≠ ·) ∧
      (cs.filterMap LayerChange.selection?).getLastD f.selected = f'.selected := by
  induction h with
  | nothing f => exact ⟨.singleton _, rfl⟩
  | @visibility f f' on cs _ _ ih =>
    have read : LayerChange.selection? (if on then .shown else .hidden) = none := by
      cases on <;> rfl
    rw [List.filterMap_cons_none read]
    exact ih
  | @selection f f' on cs moved _ ih =>
    have read : LayerChange.selection? (if on then .selected else .deselected) = some on := by
      cases on <;> rfl
    rw [List.filterMap_cons_some read, List.isChain_cons_cons, List.getLastD_cons]
    exact ⟨⟨moved, ih.1⟩, ih.2⟩
  | aspect a _ ih => exact ih

end Told

/-- A way to set a switch, with what is told of it. -/
def Candid (set : Flags → Flags × Option LayerChange) : Prop :=
  ∀ f, Told f (set f).2.toList (set f).1 ∧ (set f).2.bind LayerChange.aspect? = none

theorem Flags.told_setVisible (f : Flags) (on : Bool) :
    Told f (f.setVisible on).2.toList (f.setVisible on).1 ∧
      (f.setVisible on).2.bind LayerChange.aspect? = none := by
  rw [setVisible]
  by_cases same : f.visible = on
  · rw [if_pos same]
    exact ⟨.nothing f, rfl⟩
  · rw [if_neg same]
    exact ⟨.visibility same (.nothing _), by cases on <;> rfl⟩

theorem Flags.told_setSelected (f : Flags) (on : Bool) :
    Told f (f.setSelected on).2.toList (f.setSelected on).1 ∧
      (f.setSelected on).2.bind LayerChange.aspect? = none := by
  rw [setSelected]
  by_cases same : f.selected = on
  · rw [if_pos same]
    exact ⟨.nothing f, rfl⟩
  · rw [if_neg same]
    exact ⟨.selection same (.nothing _), by cases on <;> rfl⟩

/-! ## Between two stages -/

/-- In between the listener was told of the switches of the layer, and of these aspects besides. -/
def Stage.Reports (i : Nat) (l : ListenerRef) (id : LayerId) (aspects : List Aspect)
    (st st' : Stage) : Prop :=
  ∃ cs, st'.heard l id = st.heard l id ++ cs ∧ Told (st.flags i) cs (st'.flags i) ∧
    cs.filterMap LayerChange.aspect? = aspects

/-- In between the listener was told nothing and no switch of the layer was moved. -/
structure Stage.Unmoved (i : Nat) (l : ListenerRef) (id : LayerId) (st st' : Stage) : Prop where
  flags : st'.flags i = st.flags i
  heard : st'.heard l id = st.heard l id

variable {i : Nat} {l : ListenerRef} {id : LayerId}

theorem Stage.Unmoved.reports {st st' : Stage} (h : st.Unmoved i l id st') :
    st.Reports i l id [] st' :=
  ⟨[], h.heard.trans (List.append_nil _).symm, h.flags ▸ .nothing _, rfl⟩

theorem Stage.Reports.trans {st st₁ st' : Stage} {aspects aspects' : List Aspect}
    (h : st.Reports i l id aspects st₁) (h' : st₁.Reports i l id aspects' st') :
    st.Reports i l id (aspects ++ aspects') st' := by
  obtain ⟨cs, heard, told, named⟩ := h
  obtain ⟨cs', heard', told', named'⟩ := h'
  refine ⟨cs ++ cs', ?_, told.trans told', ?_⟩
  · rw [heard', heard, List.append_assoc]
  · rw [List.filterMap_append, named, named']

theorem passive_unmoved : Passive l id (· ≠ i) (Stage.Unmoved i l id) where
  trans h h' := ⟨h'.flags.trans h.flags, h'.heard.trans h.heard⟩
  quiet flags heard := ⟨congrFun flags i, heard⟩
  switched _ _ f other := ⟨put_of_ne _ f (Ne.symm other), rfl⟩

theorem passive_reports : Passive l id (· ≠ i) (Stage.Reports i l id []) where
  trans := Stage.Reports.trans
  quiet flags heard := (passive_unmoved.quiet flags heard).reports
  switched st j f other := (passive_unmoved.switched st j f other).reports

theorem passive_unheard :
    Passive l id (fun _ => True) fun st st' => st'.heard l id = st.heard l id where
  trans h h' := h'.trans h
  quiet _ heard := heard
  switched _ _ _ _ := rfl

/-! ## Scenes -/

namespace Scene

variable {sc : Scene}

/-- When called, the listener sets switches of the layer, or somebody does whom he sets off. -/
inductive Meddles (sc : Scene) (i : Nat) : ListenerRef → Prop
  | own {m : ListenerRef} {q : Poke} (poked : q ∈ (sc.conducts m).pokes) (touched : q.object = i) :
      Meddles sc i m
  | setsOff {m m' : ListenerRef} {q : Poke} {s : Subscriber} (poked : q ∈ (sc.conducts m).pokes)
      (subscribed : s ∈ (sc.layers q.object).subscribers) (reached : sc.Reaches s m')
      (there : Meddles sc i m') : Meddles sc i m

/-- A subscriber who lets those behind him hear the same as he does. -/
structure Discreet (sc : Scene) (i : Nat) (s : Subscriber) : Prop where
  aloof : ∀ m, sc.Reaches s m → ¬sc.Meddles i m
  sure : ∀ m, s = .listener m → ¬sc.Fallible m

/-- The listener listens to no other layer that goes by this identity. -/
def Apart (sc : Scene) (i : Nat) (l : ListenerRef) (id : LayerId) : Prop :=
  ∀ j, j ≠ i → .listener l ∈ (sc.layers j).subscribers → (sc.layers j).id ≠ id

/-- The listener is told by the layer once, after discreet ones. -/
structure Vantage (sc : Scene) (i : Nat) (l : ListenerRef) (id : LayerId) : Prop where
  named : (sc.layers i).id = id
  place : ∃ earlier later, (sc.layers i).subscribers = earlier ++ .listener l :: later ∧
    .listener l ∉ earlier ∧ .listener l ∉ later ∧ ∀ s ∈ earlier, sc.Discreet i s
  apart : sc.Apart i l id

section Layers

variable {layers : Nat → Layer} (others : ∀ j, j ≠ i → layers j = sc.layers j)
include others

theorem Apart.withLayers (h : sc.Apart i l id) : (sc.withLayers layers).Apart i l id := by
  intro j other listens
  have same : (sc.withLayers layers).layers j = sc.layers j := others j other
  rw [same] at listens ⊢
  exact h j other listens

theorem Meddles.of_withLayers {m : ListenerRef} (h : (sc.withLayers layers).Meddles i m) :
    sc.Meddles i m := by
  induction h with
  | own poked touched => exact .own poked touched
  | @setsOff m m' q s poked subscribed reached _ ih =>
    by_cases touched : q.object = i
    · exact .own poked touched
    · have same : (sc.withLayers layers).layers q.object = sc.layers q.object := others _ touched
      rw [same] at subscribed
      refine .setsOff poked subscribed ?_ ih
      cases s with
      | listener _ | relay _ _ => exact reached

/-- Who sets off nobody that touches the layer is not concerned with who is subscribed there. -/
theorem Fallible.of_withLayers {m : ListenerRef} (aloof : ¬sc.Meddles i m)
    (h : (sc.withLayers layers).Fallible m) : sc.Fallible m := by
  induction h with
  | fails planned => exact .fails planned
  | @setsOff m m' q poked listens _ ih =>
    have untouched : q.object ≠ i := fun touched => aloof (.own poked touched)
    have same : (sc.withLayers layers).layers q.object = sc.layers q.object := others _ untouched
    rw [same] at listens
    have beyond : ¬sc.Meddles i m' := fun there => aloof (.setsOff poked listens rfl there)
    exact .setsOff poked listens (ih beyond)

theorem Discreet.withLayers {s : Subscriber} (h : sc.Discreet i s) :
    (sc.withLayers layers).Discreet i s := by
  constructor
  · intro m reached meddles
    refine h.aloof m ?_ (meddles.of_withLayers others)
    cases s with
    | listener _ | relay _ _ => exact reached
  · intro m own fallible
    have aloof : ¬sc.Meddles i m := h.aloof m (own ▸ rfl)
    exact h.sure m own (fallible.of_withLayers others aloof)

end Layers

/-- Who is not subscribed to the layer hears nothing from it, whatever is told meanwhile. -/
theorem fire_unheard (off : .listener l ∉ (sc.layers i).subscribers) (apart : sc.Apart i l id)
    (e : LayerEvent) (st : Stage) : (sc.fire sc.poke i e st).1.heard l id = st.heard l id := by
  have elsewhere : ∀ j, True → .listener l ∈ (sc.layers j).subscribers → (sc.layers j).id ≠ id := by
    intro j _ listens
    by_cases here : j = i
    · exact absurd (here ▸ listens) off
    · exact apart j here listens
  have spares (q : Poke) : sc.Spares (fun _ => True) (fun _ => True) q :=
    ⟨trivial, fun _ _ _ _ => trivial⟩
  refine fire_keeps passive_unheard (fun listens => absurd listens off) ?_ st
  intro _ _ _ _ q _
  exact pokeWithin_keeps passive_unheard (fun _ _ q _ => spares q) elsewhere _ (spares q)

/-! ## A round -/

/-- Those before the listener leave everything as it was, and let him have the event. -/
theorem Discreet.tell {s : Subscriber} (h : sc.Discreet i s) (other : s ≠ .listener l)
    (apart : sc.Apart i l id) (depth : Nat) (e : LayerEvent) :
    Keeps (Stage.Unmoved i l id) (sc.tell (sc.pokeWithin depth) e s) ∧
      Succeeds (sc.tell (sc.pokeWithin depth) e s) := by
  have spares {m : ListenerRef} (aloof : ¬sc.Meddles i m) :
      ∀ q ∈ (sc.conducts m).pokes, sc.Spares (· ≠ i) (¬sc.Meddles i ·) q := by
    intro q poked
    refine ⟨fun touched => aloof (.own poked touched), ?_⟩
    exact fun s subscribed m' reached there => aloof (.setsOff poked subscribed reached there)
  constructor
  · refine tell_keeps passive_unmoved (fun own => absurd own other) fun m reached q poked => ?_
    exact pokeWithin_keeps passive_unmoved (fun _ => spares) apart depth
      (spares (h.aloof m reached) q poked)
  · refine tell_succeeds h.sure fun m own q poked => ?_
    exact pokeWithin_succeeds depth fun m' listens there =>
      h.sure m own (.setsOff poked listens there)

section Rounds

variable {depth : Nat} (v : sc.Vantage i l id)
  (pokes : ∀ q, Keeps (Stage.Reports i l id []) (sc.pokeWithin depth q))
include v pokes

/-- The listener is told of a change while the switches still are as the change left them. What he
and those behind him do to them he is told in turn. -/
theorem announce_reports {st : Stage} {f : Flags} {c : LayerChange} (told : Told (st.flags i) [c] f) :
    st.Reports i l id c.aspect?.toList
      (sc.fire (sc.pokeWithin depth) i { layer := id, change := c }
        { st with flags := put st.flags i f }).1 := by
  obtain ⟨earlier, later, split, fresh, once, discreet⟩ := v.place
  let e : LayerEvent := { layer := id, change := c }
  let moved : Stage := { st with flags := put st.flags i f }
  let tell := sc.tell (sc.pokeWithin depth) e
  let before := (attemptAll tell earlier moved).1
  let met := sc.met (.layer e) l before
  have tells {s : Subscriber} (hs : s ∈ earlier) :=
    (discreet s hs).tell (fun own => fresh (own ▸ hs)) v.apart depth e
  -- Up to the listener.
  have unmoved : moved.Unmoved i l id before :=
    attemptAll_keeps passive_unmoved (fun s hs => (tells hs).1) moved
  have hears : st.Reports i l id c.aspect?.toList met := by
    refine ⟨[c], ?_, ?_, ?_⟩
    · have own : (sc.told (.layer e) l).heard? l id = some c := if_pos ⟨rfl, rfl⟩
      rw [heard_met, unmoved.heard, own]
      rfl
    · have flags : met.flags i = f := unmoved.flags.trans (put_self _ _ _)
      exact flags ▸ told
    · cases c <;> rfl
  -- From the listener on.
  have called : met.Reports i l id [] (tell (.listener l) before).1 := by
    show met.Reports i l id [] (sc.call (sc.pokeWithin depth) (.layer e) l before).1
    rw [call_fst]
    exact attemptAll_keeps passive_reports (fun q _ => pokes q) met
  have rest : Keeps (Stage.Reports i l id []) (attemptAll tell later) :=
    attemptAll_keeps passive_reports fun s hs =>
      tell_keeps passive_reports (fun own => absurd (own ▸ hs) once) fun _ _ q _ => pokes q
  have after := attemptAll_cons_keeps passive_reports rest (.listener l) before
  rw [fire, split, attemptAll_append fun s hs => (tells hs).2]
  have all := (hears.trans called).trans after
  rwa [List.append_nil, List.append_nil] at all

theorem switch_reports {set : Flags → Flags × Option LayerChange} (candid : Candid set) :
    Keeps (Stage.Reports i l id []) (sc.switch (sc.pokeWithin depth) i set) := by
  intro st
  obtain ⟨told, silent⟩ := candid (st.flags i)
  rw [switch, v.named]
  cases change : (set (st.flags i)).2 with
  | none =>
    rw [change] at told
    simp only [change]
    have stands : Told (st.flags i) [] (put st.flags i (set (st.flags i)).1 i) := by
      rw [put_self]
      exact told
    exact ⟨[], (List.append_nil _).symm, stands, rfl⟩
  | some c =>
    rw [change] at told silent
    simp only [change]
    have unnamed : c.aspect? = none := silent
    have all := announce_reports v pokes told
    rwa [unnamed] at all

end Rounds

/-- Whatever is poked, the listener is told of the switches of the layer. -/
theorem pokeWithin_reports (v : sc.Vantage i l id) (depth : Nat) (q : Poke) :
    Keeps (Stage.Reports i l id []) (sc.pokeWithin depth q) := by
  induction depth generalizing q with
  | zero => exact fun st => passive_reports.quiet rfl rfl
  | succ depth ih =>
    refine attemptAll_keeps passive_reports fun set made => ?_
    by_cases touched : q.object = i
    · have candid : Candid set := by
        rcases List.mem_append.mp made with made | made
        · obtain ⟨on, -, rfl⟩ := Option.map_eq_some_iff.mp (Option.mem_toList.mp made)
          exact fun f => f.told_setVisible on
        · obtain ⟨on, -, rfl⟩ := Option.map_eq_some_iff.mp (Option.mem_toList.mp made)
          exact fun f => f.told_setSelected on
      rw [touched]
      exact switch_reports v ih candid
    · exact switch_keeps passive_reports touched (v.apart q.object touched)
        (fun _ _ _ _ q' _ => ih q') set

end Scene

/-! ## Commands -/

namespace LayerCommand

/-- The command leaves the layer in use and the listener subscribed. -/
def retains (l : ListenerRef) : LayerCommand → Bool
  | unsubscribe m => m ≠ l
  | dispose | fire _ => false
  | _ => true

/-- The aspect that is told of whenever it is set. -/
def aspect? : LayerCommand → Option Aspect
  | setBounds _ => some .bounds
  | setTitle _ => some .metadata
  | _ => none

theorem ne_dispose {c : LayerCommand} (kept : c.retains l = true) : c ≠ dispose := by
  rintro rfl
  exact Bool.false_ne_true kept

/-- What a layer fires is what is to be told of the command. -/
theorem told_fires {c : LayerCommand} (kept : c.retains l = true) (layer : Layer) (f : Flags) :
    ∃ change : Option LayerChange,
      c.fires layer f = change.map (fun change => { layer := layer.id, change }) ∧
        Told f change.toList (c.switches f) ∧ change.bind LayerChange.aspect? = c.aspect? := by
  cases c with
  | setVisible on =>
    obtain ⟨told, silent⟩ := f.told_setVisible on
    rw [World.setVisible_eq] at told silent
    refine ⟨_, ?_, told, silent⟩
    rw [fires]
    split <;> rfl
  | setSelected on =>
    obtain ⟨told, silent⟩ := f.told_setSelected on
    rw [World.setSelected_eq] at told silent
    refine ⟨_, ?_, told, silent⟩
    rw [fires]
    split <;> rfl
  | setBounds bounds => exact ⟨some (.changed .bounds), rfl, .aspect .bounds (.nothing f), rfl⟩
  | setTitle title => exact ⟨some (.changed .metadata), rfl, .aspect .metadata (.nothing f), rfl⟩
  | setUnavailable | subscribe | unsubscribe => exact ⟨none, rfl, .nothing f, rfl⟩
  | dispose | fire => exact absurd kept Bool.false_ne_true

end LayerCommand

namespace Layer

variable {layer : Layer} {c : LayerCommand}

/-- A fixed layer that is in use. -/
def Live (layer : Layer) : Prop := ∃ b, layer.body = .fixed b ∧ b.disposed = false

theorem Live.obey (live : layer.Live) (kept : c.retains l = true) : (layer.obey c).Live := by
  obtain ⟨b, fixed, unspent⟩ := live
  have modified (g : FixedBody → FixedBody) (same : (g b).disposed = b.disposed) :
      (layer.modifyFixed g).Live := by
    refine ⟨g b, ?_, same.trans unspent⟩
    rw [modifyFixed, fixed]
  cases c with
  | setVisible | setSelected => exact ⟨b, fixed, unspent⟩
  | setBounds bounds | setTitle title | setUnavailable reason => exact modified _ rfl
  | subscribe m =>
    refine ⟨b, ?_, unspent⟩
    rw [Layer.obey, subscribe]
    split <;> exact fixed
  | unsubscribe m =>
    refine ⟨b, ?_, unspent⟩
    rw [Layer.obey, unsubscribe]
    split <;> exact fixed
  | dispose | fire => exact absurd kept Bool.false_ne_true

theorem Live.subscribers_dispose (live : layer.Live) : layer.dispose.1.subscribers = [] := by
  obtain ⟨b, fixed, unspent⟩ := live
  simp [dispose, fixed, unspent]

theorem id_obey (layer : Layer) (c : LayerCommand) : (layer.obey c).id = layer.id := by
  cases c with
  | setVisible | setSelected | fire => rfl
  | setBounds | setTitle | setUnavailable => exact lasting_id.modifyFixed _ _
  | subscribe => exact lasting_id.subscribe _ _
  | unsubscribe => exact lasting_id.unsubscribe _ _
  | dispose => exact lasting_id.dispose _

/-- Nobody is subscribed afterwards who was not before, but for the one who is to be. -/
theorem mem_subscribers_obey {s : Subscriber} (h : s ∈ (layer.obey c).subscribers) :
    s ∈ layer.subscribers ∨ ∃ m, c = .subscribe m ∧ s = .listener m := by
  by_cases change : c.isChange = true
  · rw [World.subscribers_obey change] at h
    exact .inl h
  cases c with
  | subscribe m =>
    rw [obey, subscribe] at h
    split at h
    · exact .inl h
    · rcases List.mem_append.mp h with h | h
      · exact .inl h
      · exact .inr ⟨m, rfl, List.mem_singleton.mp h⟩
  | unsubscribe m =>
    rw [obey, unsubscribe] at h
    split at h
    · exact .inl h
    · exact .inl (List.mem_filter.mp h).1
  | dispose =>
    rcases dispose_cases layer with eq | ⟨body, eq⟩
    · rw [obey, eq] at h
      exact .inl h
    · rw [obey, eq] at h
      exact absurd h List.not_mem_nil
  | _ => exact absurd rfl change

/-- The place of a listener who stays subscribed. -/
theorem place_obey (kept : c.retains l = true) {earlier later : List Subscriber}
    (place : layer.subscribers = earlier ++ .listener l :: later) (once : .listener l ∉ later) :
    ∃ earlier' later', (layer.obey c).subscribers = earlier' ++ .listener l :: later' ∧
      earlier' ⊆ earlier ∧ .listener l ∉ later' := by
  by_cases change : c.isChange = true
  · rw [World.subscribers_obey change]
    exact ⟨earlier, later, place, fun _ hs => hs, once⟩
  cases c with
  | subscribe m =>
    rw [obey, subscribe]
    split
    · exact ⟨earlier, later, place, fun _ hs => hs, once⟩
    · rename_i new
      have other : m ≠ l := by
        rintro rfl
        exact new (place ▸ List.mem_append_right _ List.mem_cons_self)
      refine ⟨earlier, later ++ [.listener m], ?_, fun _ hs => hs, ?_⟩
      · simp only [place, List.append_assoc, List.cons_append]
      · simp [once, Ne.symm other]
  | unsubscribe m =>
    rw [obey, unsubscribe]
    split
    · exact ⟨earlier, later, place, fun _ hs => hs, once⟩
    · have other : m ≠ l := of_decide_eq_true kept
      refine ⟨earlier.filter (· ≠ .listener m), later.filter (· ≠ .listener m), ?_, ?_, ?_⟩
      · simp only [place, List.filter_append]
        rw [List.filter_cons_of_pos (by simp [Ne.symm other])]
      · exact fun s hs => (List.mem_filter.mp hs).1
      · exact fun hl => once (List.mem_filter.mp hl).1
  | dispose => exact absurd kept Bool.false_ne_true
  | _ => exact absurd rfl change

end Layer

namespace World

variable {w : World} {c : LayerCommand}

/-- Without an event a command other than disposal changes the layer and that is all; otherwise the
layer tells of it. -/
theorem execute_layer (w : World) (i : Nat) (used : c ≠ .dispose) :
    let w' := (w.execute (.layer i c)).1
    let fires := c.fires (w.layer i) (w.stage.flags i)
    (fires = none → w' = w.changed i c) ∧ ∀ e, fires = some e → w' = ((w.changed i c).fire i e).1 := by
  intro w' fires
  by_cases change : c.isChange = true
  · have executed : w.execute (.layer i c) = _ := execute_change change
    constructor
    · intro silent
      rw [show c.fires (w.layer i) (w.stage.flags i) = none from silent] at executed
      exact congrArg Prod.fst executed
    · intro e fired
      rw [show c.fires (w.layer i) (w.stage.flags i) = some e from fired] at executed
      exact (congrArg Prod.fst executed).trans (replied_fst _)
  cases c with
  | subscribe m =>
    have idle : w.changed i (.subscribe m) = _ := changed_of_idle rfl
    exact ⟨fun _ => idle.symm, fun e fired => absurd fired.symm (Option.some_ne_none e)⟩
  | unsubscribe m =>
    have idle : w.changed i (.unsubscribe m) = _ := changed_of_idle rfl
    exact ⟨fun _ => idle.symm, fun e fired => absurd fired.symm (Option.some_ne_none e)⟩
  | dispose => exact absurd rfl used
  | _ => exact absurd rfl change

theorem scene_execute_layer (i : Nat) (c : LayerCommand) : (w.execute (.layer i c)).1.scene =
    w.scene.withLayers (put w.scene.layers i ((w.layer i).obey c)) := by
  obtain ⟨stage, eq, -⟩ := executeLayer_eq w i c
  rw [execute, eq]
  rfl

theorem layer_execute_layer (i : Nat) (c : LayerCommand) :
    (w.execute (.layer i c)).1.layer i = (w.layer i).obey c := by
  rw [layer, scene_execute_layer]
  exact put_self _ _ _

theorem apart_execute (h : w.scene.Apart i l id) (c : LayerCommand) :
    (w.execute (.layer i c)).1.scene.Apart i l id := by
  rw [scene_execute_layer]
  exact h.withLayers fun j other => put_of_ne _ _ other

/-- The layer is in use and the listener is told by it. -/
structure Observed (w : World) (i : Nat) (l : ListenerRef) (id : LayerId) : Prop where
  live : (w.layer i).Live
  vantage : w.scene.Vantage i l id

theorem Observed.obey (h : w.Observed i l id) (kept : c.retains l = true) :
    (w.changed i c).Observed i l id := by
  obtain ⟨earlier, later, place, fresh, once, discreet⟩ := h.vantage.place
  have own : (w.changed i c).layer i = (w.layer i).obey c := put_self _ _ _
  have others (j : Nat) (other : j ≠ i) : put w.scene.layers i ((w.layer i).obey c) j =
    w.scene.layers j := put_of_ne _ _ other
  obtain ⟨earlier', later', place', fewer, once'⟩ := Layer.place_obey kept place once
  refine ⟨own ▸ h.live.obey kept, ?_, ⟨earlier', later', ?_, ?_, once', ?_⟩, ?_⟩
  · exact (congrArg Layer.id own).trans ((Layer.id_obey _ c).trans h.vantage.named)
  · exact (congrArg Layer.subscribers own).trans place'
  · exact fun hl => fresh (fewer hl)
  · exact fun s hs => (discreet s (fewer hs)).withLayers others
  · exact h.vantage.apart.withLayers others

/-- One command, and what the listener is told of it. -/
theorem Observed.execute (h : w.Observed i l id) (kept : c.retains l = true) :
    (w.execute (.layer i c)).1.Observed i l id ∧
      w.stage.Reports i l id c.aspect?.toList (w.execute (.layer i c)).1.stage := by
  have obeyed := h.obey kept
  obtain ⟨change, fires, told, named⟩ :=
    LayerCommand.told_fires kept (w.layer i) (w.stage.flags i)
  obtain ⟨silent, fired⟩ := execute_layer w i (LayerCommand.ne_dispose kept)
  rw [← named]
  cases change with
  | none =>
    rw [silent fires]
    refine ⟨obeyed, [], (List.append_nil _).symm, ?_, rfl⟩
    have stands : (w.changed i c).stage.flags i = c.switches (w.stage.flags i) := put_self _ _ _
    rw [stands]
    exact told
  | some change =>
    rw [fired _ fires]
    refine ⟨⟨obeyed.live, obeyed.vantage⟩, ?_⟩
    have own : (w.layer i).id = id := h.vantage.named
    rw [own]
    exact Scene.announce_reports obeyed.vantage (Scene.pokeWithin_reports obeyed.vantage _) told

/-- All commands of a run. -/
theorem Observed.run (h : w.Observed i l id) (cs : List LayerCommand)
    (kept : ∀ c ∈ cs, c.retains l = true) :
    (w.run (cs.map (.layer i))).Observed i l id ∧ w.stage.Reports i l id
      (cs.filterMap LayerCommand.aspect?) (w.run (cs.map (.layer i))).stage := by
  induction cs generalizing w with
  | nil => exact ⟨h, passive_reports.quiet rfl rfl⟩
  | cons c cs ih =>
    obtain ⟨now, first⟩ := h.execute (kept c List.mem_cons_self)
    obtain ⟨later, rest⟩ := ih now fun c' hc => kept c' (List.mem_cons_of_mem c hc)
    refine ⟨later, ?_⟩
    have all := first.trans rest
    rw [List.filterMap_cons]
    cases aspect : c.aspect? with
    | none =>
      rw [aspect] at all
      exact all
    | some a =>
      rw [aspect] at all
      exact all

/-! ## Who is not subscribed -/

theorem heard_dispose (w : World) (i : Nat) (m : ListenerRef) (id : LayerId) :
    (w.execute (.layer i .dispose)).1.stage.heard m id = w.stage.heard m id := by
  show (w.disposeLayer i).stage.heard m id = _
  rcases disposeLayer_eq w i with eq | ⟨n, eq⟩
  · rw [eq]
    rfl
  · rw [eq]
    exact Stage.heard_note _ n m id

/-- One command, to somebody who is not subscribed and does not become so. -/
theorem unheard_execute {m : ListenerRef} (off : .listener m ∉ (w.layer i).subscribers)
    (apart : w.scene.Apart i m id) (other : c ≠ .subscribe m) :
    let w' := (w.execute (.layer i c)).1
    .listener m ∉ (w'.layer i).subscribers ∧ w'.scene.Apart i m id ∧
      w'.stage.heard m id = w.stage.heard m id := by
  intro w'
  have own : w'.layer i = (w.layer i).obey c := layer_execute_layer i c
  have off' : .listener m ∉ (w'.layer i).subscribers := by
    rw [own]
    intro listens
    rcases Layer.mem_subscribers_obey listens with listened | ⟨m', rfl, same⟩
    · exact off listened
    · exact other (congrArg _ (Subscriber.listener.inj same).symm)
  have apart' : w'.scene.Apart i m id := apart_execute apart c
  refine ⟨off', apart', ?_⟩
  by_cases used : c = .dispose
  · subst used
    exact heard_dispose w i m id
  obtain ⟨silent, fired⟩ := execute_layer w i used
  cases fires : c.fires (w.layer i) (w.stage.flags i) with
  | none =>
    have executed : w' = w.changed i c := silent fires
    rw [executed]
    rfl
  | some e =>
    have executed : w' = ((w.changed i c).fire i e).1 := fired e fires
    have same : w'.scene = (w.changed i c).scene := by
      rw [executed]
      rfl
    have unbound : .listener m ∉ ((w.changed i c).scene.layers i).subscribers := same ▸ off'
    rw [same] at apart'
    rw [executed]
    exact Scene.fire_unheard unbound apart' e _

theorem apart_run (h : w.scene.Apart i l id) (cs : List LayerCommand) :
    (w.run (cs.map (.layer i))).scene.Apart i l id := by
  induction cs generalizing w with
  | nil => exact h
  | cons c cs ih => exact ih (apart_execute h c)

theorem unheard_run {m : ListenerRef} (off : .listener m ∉ (w.layer i).subscribers)
    (apart : w.scene.Apart i m id) (cs : List LayerCommand) (others : ∀ c ∈ cs, c ≠ .subscribe m) :
    (w.run (cs.map (.layer i))).stage.heard m id = w.stage.heard m id := by
  induction cs generalizing w with
  | nil => rfl
  | cons c cs ih =>
    obtain ⟨off', apart', same⟩ := unheard_execute off apart (others c List.mem_cons_self)
    exact (ih off' apart' fun c' hc => others c' (List.mem_cons_of_mem c hc)).trans same

/-! ## From subscription to disposal -/

/-- A listener who comes to listen to a layer in use, where all who do so already are discreet. -/
theorem observed_subscribe (live : (w.layer i).Live)
    (fresh : .listener l ∉ (w.layer i).subscribers)
    (apart : w.scene.Apart i l (w.layer i).id)
    (discreet : ∀ s ∈ (w.layer i).subscribers, w.scene.Discreet i s) :
    (w.subscribe i (.listener l)).Observed i l (w.layer i).id := by
  have own : (w.subscribe i (.listener l)).layer i = (w.layer i).obey (.subscribe l) :=
    put_self _ _ _
  have others (j : Nat) (other : j ≠ i) :
      put w.scene.layers i ((w.layer i).obey (.subscribe l)) j = w.scene.layers j :=
    put_of_ne _ _ other
  refine ⟨own ▸ live.obey (l := l) rfl, ?_, ⟨(w.layer i).subscribers, [], ?_, fresh, ?_, ?_⟩, ?_⟩
  · exact (congrArg Layer.id own).trans (Layer.id_obey _ _)
  · refine (congrArg Layer.subscribers own).trans ?_
    rw [Layer.obey, Layer.subscribe, if_neg fresh]
  · exact List.not_mem_nil
  · exact fun s hs => (discreet s hs).withLayers others
  · exact apart.withLayers others

end World
end LayeredMap
