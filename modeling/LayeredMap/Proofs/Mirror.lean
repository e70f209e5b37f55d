import LayeredMap.Proofs.Reachable

/-!
# Following a stack through a run

Somebody registers as a listener to the stack of a sheet, copies the layers as
they are then, and amends the copy by each event that reaches him while he
looks at the sheet. Whatever is done to the sheet and to layers afterwards, the
copy agrees with the layers of the sheet after each event that concerns it and
after each command.
-/

namespace LayeredMap

/-- The event says that layers came, went or moved. -/
def Event.isStructural : Event → Bool
  | .stack (.changed ..) => false
  | .stack _ => true
  | _ => false

/-- The copy once the delivery is taken in, if the sheet was looked at. -/
def Delivery.amend (copy : List LayerHandle) (d : Delivery) : List LayerHandle :=
  match d.event, d.sighting with
  | .stack e, some (some seen) => e.amend seen.layers copy
  | _, _ => copy

/-- A structural event for the listener. -/
def Delivery.concerns (l : ListenerRef) (d : Delivery) : Bool :=
  d.listener == l && d.event.isStructural

theorem Delivery.amend_of_not_structural {d : Delivery} (h : d.event.isStructural = false)
    (copy : List LayerHandle) : d.amend copy = copy := by
  obtain ⟨l, event, sighting⟩ := d
  cases event with
  | stack e =>
    cases e with
    | changed m i e => rcases sighting with _ | _ | seen <;> rfl
    | _ => exact absurd h.symm Bool.false_ne_true
  | _ => rfl

theorem Delivery.foldl_amend_structural (ds : List Delivery) (copy : List LayerHandle) :
    (ds.filter (·.event.isStructural)).foldl amend copy = ds.foldl amend copy := by
  induction ds generalizing copy with
  | nil => rfl
  | cons d ds ih =>
    cases structural : d.event.isStructural with
    | true => simpa [structural] using ih (d.amend copy)
    | false => simpa [structural, amend_of_not_structural structural] using ih copy

theorem Scene.ignores_concerns (sc : Scene) (l : ListenerRef) : sc.Ignores (Delivery.concerns l) := by
  intro d hd
  cases hd with
  | direct m e => exact Bool.and_false _
  | passedOn r e i m l held index member listens => exact Bool.and_false _

/-- Each delivery shows the sheet, and taking it in gives the layers that are seen; the last layers
seen are the given ones. -/
inductive Tracks : List LayerHandle → List Delivery → List LayerHandle → Prop
  | done (copy : List LayerHandle) : Tracks copy [] copy
  | take {copy final : List LayerHandle} {d : Delivery} {ds : List Delivery} {seen : Sighting}
      (shown : d.sighting = some (some seen)) (amended : d.amend copy = seen.layers)
      (rest : Tracks seen.layers ds final) : Tracks copy (d :: ds) final

theorem Tracks.append {copy middle final : List LayerHandle} {ds es : List Delivery}
    (h : Tracks copy ds middle) (h' : Tracks middle es final) : Tracks copy (ds ++ es) final := by
  induction h with
  | done copy => exact h'
  | take shown amended _ ih => exact .take shown amended (ih h')

theorem Tracks.foldl_amend {copy final : List LayerHandle} {ds : List Delivery}
    (h : Tracks copy ds final) : ds.foldl Delivery.amend copy = final := by
  induction h with
  | done copy => rfl
  | take _ amended _ ih =>
    rw [List.foldl_cons, amended]
    exact ih

theorem Tracks.current {copy final : List LayerHandle} {ds before after : List Delivery}
    {d : Delivery} (h : Tracks copy ds final) (split : ds = before ++ d :: after) :
    ∃ seen, d.sighting = some (some seen) ∧
      (before ++ [d]).foldl Delivery.amend copy = seen.layers := by
  induction h generalizing before with
  | done copy => simp at split
  | @take copy final d' ds seen shown amended rest ih =>
    cases before with
    | nil =>
      obtain ⟨rfl, -⟩ := List.cons.inj split
      exact ⟨seen, shown, amended⟩
    | cons b before =>
      obtain ⟨rfl, later⟩ := List.cons.inj split
      obtain ⟨last, hlast, hfold⟩ := ih later
      refine ⟨last, hlast, ?_⟩
      rw [List.cons_append, List.foldl_cons, amended]
      exact hfold

/-! ## One step -/

namespace Sheet

variable {s s' : Sheet} {offer : Offer} {actions : List Action} {sc : Scene} {l : ListenerRef}

/-- What an operation on the stack tells the listener by itself. -/
def heard (sc : Scene) (l : ListenerRef) (actions : List Action) : List Delivery :=
  (actions.flatMap (Action.told sc)).filter (Delivery.concerns l)

theorem heard_append (as bs : List Action) :
    heard sc l (as ++ bs) = heard sc l as ++ heard sc l bs := by
  rw [heard, List.flatMap_append, List.filter_append]
  rfl

theorem heard_eq_nil (h : ∀ a ∈ actions, ∀ d ∈ a.told sc, d.concerns l = false) :
    heard sc l actions = [] := by
  apply List.filter_eq_nil_iff.mpr
  intro d hd
  obtain ⟨a, ha, hd⟩ := List.mem_flatMap.mp hd
  exact Bool.eq_false_iff.mp (h a ha d hd)

theorem heard_of_mute (mute : ∀ a ∈ actions, a.told sc = []) : heard sc l actions = [] := by
  refine heard_eq_nil fun a ha d hd => ?_
  rw [mute a ha] at hd
  exact absurd hd List.not_mem_nil

theorem heard_entering (ls : List LayerHandle) : heard sc l (ls.flatMap s.entering) = [] := by
  refine heard_of_mute fun a ha => ?_
  obtain ⟨h, k, rfl⟩ := mem_entering ha
  rfl

theorem heard_leaving (ls : List LayerHandle) : heard sc l (ls.flatMap s.leaving) = [] := by
  refine heard_of_mute fun a ha => ?_
  rcases mem_leaving ha with ⟨h, k, rfl⟩ | ⟨h, rfl⟩ <;> rfl

theorem heard_map (ls : List LayerHandle) {f : LayerHandle → Action}
    (mute : ∀ h, (f h).told sc = []) (n : Notice) : heard sc l (ls.map f ++ [.note n]) = [] := by
  refine heard_of_mute fun a ha => ?_
  rcases List.mem_append.mp ha with ha | ha
  · obtain ⟨h, -, rfl⟩ := List.mem_map.mp ha
    exact mute h
  · rw [List.mem_singleton.mp ha]
    rfl

theorem heard_aside (unheard : ∀ a ∈ actions, a.Aside) : heard sc l actions = [] := by
  refine heard_eq_nil fun a ha d hd => ?_
  cases unheard a ha with
  | note n => exact absurd hd List.not_mem_nil
  | property roster e =>
    obtain ⟨m, -, rfl⟩ := List.mem_map.mp hd
    exact Bool.and_false _
  | viewport roster e =>
    obtain ⟨m, -, rfl⟩ := List.mem_map.mp hd
    exact Bool.and_false _

theorem heard_publishStack_of_change {e : StackEvent} (n : Notice)
    (change : (Event.stack e).isStructural = false) :
    heard sc l [.note n, s.publishStack e] = [] := by
  refine heard_eq_nil fun a ha d hd => ?_
  rcases List.mem_cons.mp ha with rfl | ha
  · exact absurd hd List.not_mem_nil
  · rw [List.mem_singleton.mp ha] at hd
    obtain ⟨m, -, rfl⟩ := List.mem_map.mp hd
    exact Bool.and_eq_false_imp.mpr fun _ => change

/-- A listener hears of a structural event once. -/
theorem heard_publishStack (listed : s.stackListeners.toList.Nodup)
    (listens : l ∈ s.stackListeners.toList) {e : StackEvent} (n : Notice)
    (structural : (Event.stack e).isStructural = true) :
    heard sc l [.note n, s.publishStack e] = [sc.told (.stack e) l] := by
  have fits : Delivery.concerns l ∘ sc.told (.stack e) = (· == l) := by
    funext m
    simp [Delivery.concerns, Scene.told, structural]
  have once : s.stackListeners.toList.filter (· == l) = [l] := by
    rw [List.filter_beq, List.count_eq_one_of_mem listed listens]
    rfl
  have told : heard sc l [.note n, s.publishStack e] =
      (s.stackListeners.toList.map (sc.told (.stack e))).filter (Delivery.concerns l) := by
    simp [heard, Action.told, publishStack]
  rw [told, List.filter_map, fits, once]
  rfl

theorem heard_publishStack_of_stranger (stranger : l ∉ s.stackListeners.toList) (n : Notice)
    (e : StackEvent) : heard sc l [.note n, s.publishStack e] = [] := by
  refine heard_eq_nil fun a ha d hd => ?_
  rcases List.mem_cons.mp ha with rfl | ha
  · exact absurd hd List.not_mem_nil
  · rw [List.mem_singleton.mp ha] at hd
    obtain ⟨m, hm, rfl⟩ := List.mem_map.mp hd
    have other : m ≠ l := fun same => stranger (same ▸ hm)
    simp [Delivery.concerns, Scene.told, other]

theorem describes_changed {old new : List LayerHandle} {e : StackEvent}
    (h : (Event.stack e).isStructural = false) (describes : e.Describes old new) : new = old := by
  cases e with
  | changed m i source => exact describes.symm
  | _ => exact absurd h.symm Bool.false_ne_true

/-- Who listens hears of every change of the layers, by an event that describes it. -/
theorem Transition.heard_by_listener (sc : Scene) (t : Transition offer s s' actions)
    (listed : s.stackListeners.toList.Nodup) (kept : offer.last = false)
    (listens : l ∈ s.stackListeners.toList) :
    (heard sc l actions = [] ∧ s'.layers = s.layers) ∨
      ∃ e, heard sc l actions = [sc.told (.stack e) l] ∧ e.Describes s.layers s'.layers := by
  have told {n : Notice} {e : StackEvent} {new : List LayerHandle}
      (describes : e.Describes s.layers new) :
      (heard sc l [.note n, s.publishStack e] = [] ∧ new = s.layers) ∨
        ∃ e', heard sc l [.note n, s.publishStack e] = [sc.told (.stack e') l] ∧
          e'.Describes s.layers new := by
    cases structural : (Event.stack e).isStructural with
    | true => exact Or.inr ⟨e, heard_publishStack listed listens n structural, describes⟩
    | false =>
      exact Or.inl ⟨heard_publishStack_of_change n structural, describes_changed structural describes⟩
  cases t with
  | aside alike unheard => exact Or.inl ⟨heard_aside unheard, alike.layers_eq⟩
  | gain _ _ _ _ describes =>
    rw [heard_append, heard_entering, List.nil_append]
    exact told describes
  | lose _ _ describes =>
    rw [heard_append, heard_leaving, List.nil_append]
    exact told describes
  | finish live n =>
    rw [heard_append, allLeaving, heard_leaving, List.nil_append]
    by_cases vacant : s.layerCount = 0
    · have empty : s.layers = [] := List.length_eq_zero_iff.mp vacant
      rw [if_pos vacant]
      exact Or.inl ⟨rfl, empty.symm⟩
    · rw [if_neg vacant]
      exact told (describes_removed_all none s.layers)
  | abandon last n => exact absurd (kept.symm.trans last) Bool.false_ne_true
  | relist => exact Or.inl ⟨rfl, rfl⟩
  | start => exact Or.inl ⟨heard_map _ (fun _ => rfl) _, rfl⟩
  | stop => exact Or.inl ⟨heard_map _ (fun _ => rfl) _, rfl⟩

theorem Transition.heard_by_stranger (t : Transition offer s s' actions)
    (stranger : l ∉ s.stackListeners.toList) : heard sc l actions = [] := by
  cases t with
  | aside alike unheard => exact heard_aside unheard
  | gain _ _ _ _ describes =>
    rw [heard_append, heard_entering, List.nil_append]
    exact heard_publishStack_of_stranger stranger _ _
  | lose _ _ describes =>
    rw [heard_append, heard_leaving, List.nil_append]
    exact heard_publishStack_of_stranger stranger _ _
  | finish live n =>
    rw [heard_append, allLeaving, heard_leaving, List.nil_append]
    split
    · rfl
    · exact heard_publishStack_of_stranger stranger _ _
  | abandon last n => exact heard_leaving s.layers
  | relist => rfl
  | start => exact heard_map _ (fun _ => rfl) _
  | stop => exact heard_map _ (fun _ => rfl) _

/-- A sheet that is disposed stays as it is. -/
theorem Transition.layers_of_disposed (t : Transition offer s s' actions)
    (kept : offer.last = false) (ended : s.disposed = true) :
    s'.layers = s.layers ∧ s'.disposed = true := by
  cases t with
  | aside alike _ => exact ⟨alike.layers_eq, alike.disposed.trans ended⟩
  | gain live | lose live | finish live | relist live | start live =>
    exact absurd (live.symm.trans ended) Bool.false_ne_true
  | abandon last n => exact absurd (kept.symm.trans last) Bool.false_ne_true
  | stop => exact ⟨rfl, ended⟩

end Sheet
/-! ## A run -/

namespace World

variable {w w' : World} {c : Command} {name : String} {r : SheetRef} {l : ListenerRef}

/-- The listener looks at the sheet by the name, listens to its stack until it is disposed, and to
no other one. -/
structure Following (name : String) (r : SheetRef) (l : ListenerRef) (w : World) : Prop where
  sound : w.Sound
  named : w.scene.sheetNamed? name = some r
  observes : (w.scene.conducts l).observes = some name
  listens : (w.sheet r).disposed = true ∨ l ∈ (w.sheet r).stackListeners.toList
  elsewhere : ∀ r', r' ≠ r → l ∉ (w.sheet r').stackListeners.toList

/-- The name is left alone, and the listener neither leaves the sheet nor joins another one. -/
structure KeepsFollowing (name : String) (r : SheetRef) (l : ListenerRef) (w : World)
    (c : Command) : Prop where
  named : c.rebinds ≠ some name
  stays : w.actor c = some r → c.offer.quitting ≠ some l
  alone : w.actor c ≠ some r → c.offer.joining ≠ some l

instance (name : String) (r : SheetRef) (l : ListenerRef) (w : World) (c : Command) :
    Decidable (KeepsFollowing name r l w c) :=
  decidable_of_iff
    (c.rebinds ≠ some name ∧ (w.actor c = some r → c.offer.quitting ≠ some l) ∧
      (w.actor c ≠ some r → c.offer.joining ≠ some l))
    ⟨fun ⟨named, stays, alone⟩ => ⟨named, stays, alone⟩,
      fun ⟨named, stays, alone⟩ => ⟨named, stays, alone⟩⟩

/-- As long as the name is bound to it, a sheet that acts is not given up. -/
theorem last_of_acts {actions : List Action} (named : w'.scene.sheetNamed? name = some r)
    (acts : w.Acts w' c r actions) : c.offer.last = false :=
  acts.cause.resolve_right fun closed => by
    rw [isOpen_of_sheetNamed? w' named] at closed
    exact Bool.false_ne_true closed.symm

theorem following_execute (h : w.Following name r l) (ok : KeepsFollowing name r l w c) :
    (w.execute c).1.Following name r l := by
  have named := (sheetNamed?_execute w ok.named).trans h.named
  refine ⟨sound_execute h.sound c, named, ?_, ?_, ?_⟩
  · rw [(cast_execute w c).conducts]
    exact h.observes
  · rcases execute_course h.sound c with ⟨r₀, actions, acts⟩ | rests
    · by_cases same : r = r₀
      · subst same
        by_cases ended : ((w.execute c).1.sheet r).disposed = true
        · exact Or.inl ended
        · rcases h.listens with before | listens
          · have last := last_of_acts named acts
            exact Or.inl (acts.transition.layers_of_disposed last before).2
          · refine Or.inr ?_
            have stays := acts.transition.stays (Bool.eq_false_iff.mpr ended) listens
            exact stays.resolve_right (ok.stays acts.actor)
      · have alike := acts.others r same
        rw [alike.disposed, alike.stackListeners]
        exact h.listens
    · rw [(rests.sheets r).disposed, (rests.sheets r).stackListeners]
      exact h.listens
  · intro r' other listens
    rcases execute_course h.sound c with ⟨r₀, actions, acts⟩ | rests
    · by_cases same : r' = r₀
      · subst same
        have elsewhere : w.actor c ≠ some r := fun mine =>
          other (Option.some.inj (acts.actor.symm.trans mine))
        rcases acts.transition.joins listens with before | joined
        · exact h.elsewhere r' other before
        · exact ok.alone elsewhere joined
      · exact h.elsewhere r' other ((acts.others r' same).stackListeners ▸ listens)
    · exact h.elsewhere r' other ((rests.sheets r').stackListeners ▸ listens)

/-- What a follower sees when he is told of an event. -/
theorem sighting_told (h : w.Following name r l) (e : Event) :
    (w.scene.told e l).sighting = some (some (w.sheet r).sighting) := by
  rw [Scene.told, h.observes, Option.map_some, Scene.sight, h.named]
  rfl

theorem tracks_execute (h : w.Following name r l) (ok : KeepsFollowing name r l w c) :
    ∃ ds, Stage.Adds (Delivery.concerns l) w.stage (w.execute c).1.stage ds ∧
      Tracks (w.sheet r).layers ds ((w.execute c).1.sheet r).layers := by
  have after := following_execute h ok
  have ignores := (w.execute c).1.scene.ignores_concerns l
  rcases execute_course h.sound c with ⟨r₀, actions, acts⟩ | rests
  · refine ⟨_, acts.adds _ ignores, ?_⟩
    show Tracks _ (Sheet.heard _ l actions) _
    by_cases same : r = r₀
    · subst same
      have last := last_of_acts after.named acts
      rcases h.listens with ended | listens
      · have stranger : l ∉ (w.sheet r).stackListeners.toList := by
          rw [((h.sound.sheets r).ended ended).2]
          exact List.not_mem_nil
        rw [acts.transition.heard_by_stranger stranger,
          (acts.transition.layers_of_disposed last ended).1]
        exact .done _
      · rcases acts.transition.heard_by_listener (w.execute c).1.scene (h.sound.sheets r).listed
          last listens with ⟨silent, kept⟩ | ⟨e, heard, describes⟩
        · rw [silent, kept]
          exact .done _
        · rw [heard]
          have shown := sighting_told after (.stack e)
          have amended : ((w.execute c).1.scene.told (.stack e) l).amend (w.sheet r).layers =
              ((w.execute c).1.sheet r).layers := by
            rw [Delivery.amend, shown]
            exact describes
          exact .take shown amended (.done _)
    · rw [acts.transition.heard_by_stranger (h.elsewhere r₀ (Ne.symm same)),
        (acts.others r same).layers_eq]
      exact .done _
  · refine ⟨[], rests.adds _ ignores, ?_⟩
    rw [(rests.sheets r).layers_eq]
    exact .done _

theorem tracks_run (h : w.Following name r l) (cs : List Command)
    (keeps : Along (KeepsFollowing name r l) w cs) :
    ∃ ds, Stage.Adds (Delivery.concerns l) w.stage (w.run cs).stage ds ∧
      Tracks (w.sheet r).layers ds ((w.run cs).sheet r).layers := by
  induction cs generalizing w with
  | nil => exact ⟨[], .refl _ w.stage, .done _⟩
  | cons c cs ih =>
    obtain ⟨ds, adds, tracks⟩ := tracks_execute h keeps.1
    obtain ⟨es, adds', tracks'⟩ := ih (following_execute h keeps.1) keeps.2
    exact ⟨ds ++ es, adds.trans adds', tracks.append tracks'⟩

/-! ## From the registration on -/

theorem listenToStack_spec {s : Sheet} (live : s.disposed = false) (l : ListenerRef) :
    (s.listenToStack l).sheet.layers = s.layers ∧
      l ∈ (s.listenToStack l).sheet.stackListeners.toList := by
  rw [Sheet.listenToStack, if_neg (Bool.eq_false_iff.mp live)]
  by_cases known : l ∈ s.stackListeners.toList
  · rw [Roster.add_of_mem _ l known]
    exact ⟨rfl, known⟩
  · obtain ⟨grown, hadd, hgrown⟩ := Roster.add_of_not_mem _ l known
    have there : l ∈ grown.toList := by simp [hgrown]
    rw [hadd]
    by_cases first : grown.size = 1
    · simp only [first, if_true, Sheet.startRelay]
      rcases Option.eq_none_or_eq_some s.relay with idle | ⟨k, listening⟩
      · simp only [idle]
        exact ⟨rfl, there⟩
      · simp only [listening]
        exact ⟨rfl, there⟩
    · simp only [first, if_false]
      exact ⟨rfl, there⟩

/-- The world once the listener is registered under the name. -/
def follow (w : World) (name : String) (l : ListenerRef) : World :=
  (w.execute (.sheet name (.listenToStack l))).1

theorem sheet_follow (named : w.scene.sheetNamed? name = some r) (r' : SheetRef) :
    (w.follow name l).sheet r' =
      if r' = r then ((w.sheet r).listenToStack l).sheet else w.sheet r' := by
  rw [follow, execute, withSheet, named]
  exact sheet_perform w r _ r'

theorem following_follow (sound : w.Sound) (named : w.scene.sheetNamed? name = some r)
    (live : (w.sheet r).disposed = false) (observes : (w.scene.conducts l).observes = some name)
    (elsewhere : ∀ r', r' ≠ r → l ∉ (w.sheet r').stackListeners.toList) :
    (w.follow name l).Following name r l := by
  have untouched : (Command.sheet name (.listenToStack l)).rebinds ≠ some name :=
    (Option.some_ne_none name).symm
  refine ⟨sound_execute sound _, (sheetNamed?_execute w untouched).trans named, ?_, ?_, ?_⟩
  · rw [follow, (cast_execute w _).conducts]
    exact observes
  · rw [sheet_follow named, if_pos rfl]
    exact Or.inr (listenToStack_spec live l).2
  · intro r' other
    rw [sheet_follow named, if_neg other]
    exact elsewhere r' other

/-- The deliveries to a listener since an earlier world. -/
def heardSince (earlier w : World) (l : ListenerRef) : List Delivery :=
  (w.stage.deliveries.drop earlier.stage.deliveries.length).filter (·.listener == l)

/-- From its registration on, somebody who copies the layers of a live sheet and amends the copy by
what he hears has the layers of the sheet: after each structural event those that he sees, and after
any run those that are there. -/
theorem copy_eq_layers (reachable : w.Reachable) (named : w.scene.sheetNamed? name = some r)
    (live : (w.sheet r).disposed = false) (observes : (w.scene.conducts l).observes = some name)
    (elsewhere : ∀ r', r' ≠ r → l ∉ (w.sheet r').stackListeners.toList) (cs : List Command)
    (keeps : Along (KeepsFollowing name r l) (w.follow name l) cs) :
    let heard := heardSince (w.follow name l) ((w.follow name l).run cs) l
    heard.foldl Delivery.amend (w.sheet r).layers =
        (((w.follow name l).run cs).sheet r).layers ∧
      ∀ before d after, heard = before ++ d :: after → d.event.isStructural = true →
        ∃ seen, d.sighting = some (some seen) ∧
          (before ++ [d]).foldl Delivery.amend (w.sheet r).layers = seen.layers := by
  intro heard
  have following := following_follow reachable.sound named live observes elsewhere
  obtain ⟨ds, ⟨all, appended, concerning⟩, tracks⟩ := tracks_run following cs keeps
  have start : ((w.follow name l).sheet r).layers = (w.sheet r).layers := by
    rw [sheet_follow named, if_pos rfl]
    exact (listenToStack_spec live l).1
  have structural : heard.filter (·.event.isStructural) = ds := by
    rw [← concerning]
    simp only [heard, heardSince, appended, List.drop_left, List.filter_filter]
    exact List.filter_congr fun d _ => Bool.and_comm _ _
  rw [start] at tracks
  constructor
  · rw [← Delivery.foldl_amend_structural, structural]
    exact tracks.foldl_amend
  · intro before d after split own
    have same : ds = before.filter (·.event.isStructural) ++
        d :: after.filter (·.event.isStructural) := by
      rw [← structural, split]
      simp [own]
    obtain ⟨seen, shown, current⟩ := tracks.current same
    refine ⟨seen, shown, ?_⟩
    rw [← Delivery.foldl_amend_structural]
    simpa [own] using current

/-- A batch comes in, one of its layers goes to the top, some go again in another batch, and the
listener shows a layer each time that he is called. -/
theorem copy_eq_layers_after_batches :
    let l (n : Nat) : LayerHandle := { object := n, id := .numbered n }
    let name := "m"
    let conduct : Conduct :=
      { observes := some name, pokes := [{ object := 2, visible := some false }], fails := .always }
    let w : World := (opening (List.replicate 4 (.blank, {})) [conduct]).run
      [.create name none none ({} : TransformTable Float).reprojector, .sheet name (.add (l 0))]
    let cs : List Command :=
      [.sheet name (.addAll [l 1, l 2, l 1, l 3]), .sheet name (.swap 0 3),
        .layer 2 (.setVisible true), .sheet name (.removeAll [.numbered 3, .numbered 2]),
        .sheet name (.insert 0 (l 2))]
    (heardSince (w.follow name ⟨0⟩) ((w.follow name ⟨0⟩).run cs) ⟨0⟩).foldl Delivery.amend
      (w.sheet ⟨0⟩).layers = [l 2, l 1, l 0] := by
  intro l name conduct w cs
  have reachable : w.Reachable := ⟨_, _, _, rfl⟩
  have named : w.scene.sheetNamed? name = some ⟨0⟩ := by decide +kernel
  have live : (w.sheet ⟨0⟩).disposed = false := by decide +kernel
  have observes : (w.scene.conducts ⟨0⟩).observes = some name := by decide +kernel
  have elsewhere : ∀ r, r ≠ ⟨0⟩ → ⟨0⟩ ∉ (w.sheet r).stackListeners.toList := by
    intro r other
    have made : w.sheetsMade = 1 := by decide +kernel
    have unmade : w.sheetsMade ≤ r.number := by
      rw [made]
      by_contra below
      exact other (congrArg SheetRef.mk (by omega : r.number = 0))
    rw [(reachable.sound.unborn r unmade).stackListeners]
    exact List.not_mem_nil
  have keeps : Along (KeepsFollowing name ⟨0⟩ ⟨0⟩) (w.follow name ⟨0⟩) cs := by decide +kernel
  have copied := (copy_eq_layers reachable named live observes elsewhere cs keeps).1
  rw [copied]
  decide +kernel

end World
end LayeredMap
