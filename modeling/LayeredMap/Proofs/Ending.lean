import LayeredMap.Proofs.Refusal
import LayeredMap.Proofs.Source

/-!
# The end of a sheet is final

A sheet that is disposed takes leave of those who listen to its stack, if it
had a layer, and forgets everything but the number of its relays. From then on
it stays as it is: every operation is refused or comes to nothing, it touches
no layer and it tells nobody of anything, whatever layers do that still hold
one of its relays.
-/

namespace LayeredMap

/-- What a disposed sheet replies. -/
def SheetCommand.lateReply : SheetCommand → Reply
  | dispose => .done
  | listenToStack _ | unlistenToStack _ | listenToProperties _ | unlistenToProperties _
  | listenToViewport _ | unlistenToViewport _ => .flag false
  | _ => .refused .disposed

namespace Sheet

/-- What is left of a sheet. -/
def spent (relaysMade : Nat) : Sheet := { relaysMade, disposed := true }

/-- Nothing is left to be seen of the sheet. -/
structure Over (s : Sheet) : Prop where
  disposed : s.disposed = true
  layers : s.layers = []
  title : s.title = none
  data : s.dataEntries = []
  viewport : s.currentViewport = {}
  listening : s.isListening = false

theorem over_spent (n : Nat) : (spent n).Over := ⟨rfl, rfl, rfl, rfl, rfl, rfl⟩

theorem step_spent (n : Nat) (op : SheetCommand) :
    op.step (spent n) = .still (spent n) op.lateReply := by
  cases op <;> rfl

theorem drop_of_disposed {s : Sheet} (ended : s.disposed = true) : s.drop = .still s () := by
  rw [drop, ended, Bool.true_or, if_pos rfl]

variable {s : Sheet}

theorem dispose_of_live (live : s.disposed = false) :
    (SheetCommand.step s .dispose).sheet = spent s.relaysMade := by
  simp [SheetCommand.step, dispose, live, Step.map, spent]

/-- A sheet takes leave of those who listen to the stack, if a layer leaves it. -/
theorem publications_dispose (live : s.disposed = false) :
    publications (SheetCommand.step s .dispose).actions =
      if s.layers = [] then [] else [(s.stackListeners, .stack (.removed none .all))] := by
  have quiet : publications s.allLeaving = [] := s.publications_leaving s.layers
  have actions : (SheetCommand.step s .dispose).actions =
      s.allLeaving ++ .note (.sheetDisposed s.layerCount)
        :: if s.layerCount = 0 then [] else [s.publishStack (.removed none .all)] := by
    simp [SheetCommand.step, dispose, live, Step.map]
  rw [actions, publications_append, quiet, List.nil_append]
  by_cases vacant : s.layers = []
  · have none_there : s.layerCount = 0 := List.length_eq_zero_iff.mpr vacant
    rw [if_pos vacant, if_pos none_there]
    rfl
  · have some_there : s.layerCount ≠ 0 := mt List.length_eq_zero_iff.mp vacant
    rw [if_neg vacant, if_neg some_there]
    rfl

end Sheet

namespace World

variable {w : World} {r : SheetRef} {n : Nat} {c : Command}

/-! ## A sheet that is over stays as it is -/

/-- The sheet was made and is over. -/
structure Gone (w : World) (r : SheetRef) (n : Nat) : Prop where
  sound : w.Sound
  made : r.number < w.sheetsMade
  sheet : w.sheet r = .spent n

theorem Gone.ne_new (gone : w.Gone r n) : r ≠ ⟨w.sheetsMade⟩ := by
  rintro rfl
  exact Nat.lt_irrefl _ gone.made

theorem Gone.disposed (gone : w.Gone r n) : (w.sheet r).disposed = true := by
  rw [gone.sheet]
  rfl

theorem execute_of_gone {op : SheetCommand} (gone : w.Gone r n) (called : w.call? r c = some op) :
    w.execute c = (w, op.lateReply) := by
  obtain ⟨name, rfl, named⟩ := eq_of_call? called
  rw [execute, withSheet, named]
  apply perform_eq_self
  rw [gone.sheet]
  exact Sheet.step_spent n op

theorem settle_of_disposed (ended : (w.sheet r).disposed = true) : w.settle r = w := by
  rw [settle]
  split
  · rfl
  · exact congrArg Prod.fst (perform_eq_self (Sheet.drop_of_disposed ended))

theorem sheet_settle_of_disposed (ended : (w.sheet r).disposed = true) (r' : SheetRef) :
    (w.settle r').sheet r = w.sheet r := by
  by_cases same : r' = r
  · rw [same, settle_of_disposed ended]
  · rw [settle]
    split
    · rfl
    · rw [sheet_perform, if_neg (Ne.symm same)]

/-- Which names there are makes no difference to a sheet that is disposed. -/
theorem sheet_settle_renamed (ended : (w.sheet r).disposed = true)
    (handles : List (String × SheetRef)) (r' : SheetRef) :
    ({ w with scene := { w.scene with handles } }.settle r').sheet r = w.sheet r :=
  sheet_settle_of_disposed (w := { w with scene := { w.scene with handles } }) ended r'

theorem layers_settle_renamed (ended : (w.sheet r).disposed = true)
    (handles : List (String × SheetRef)) :
    ({ w with scene := { w.scene with handles } }.settle r).scene.layers = w.scene.layers := by
  rw [settle_of_disposed (w := { w with scene := { w.scene with handles } }) ended]

theorem sheet_bind_of_disposed (ended : (w.sheet r).disposed = true) (name : String)
    (target : SheetRef) : (w.bind name target).sheet r = w.sheet r := by
  rw [bind]
  cases w.scene.sheetNamed? name with
  | none => rfl
  | some old => exact sheet_settle_renamed ended _ old

/-- The world in which a sheet is made, before it gets its name. -/
def withNewSheet (w : World) (s : Sheet) (reprojector : Reprojector Float) : World :=
  let r : SheetRef := ⟨w.sheetsMade⟩
  { scene := { (w.setSheet r s).scene with reprojectors := put w.scene.reprojectors r reprojector }
    stage := w.stage
    sheetsMade := w.sheetsMade + 1 }

theorem sheet_execute_of_gone (gone : w.Gone r n) (c : Command) :
    (w.execute c).1.sheet r = w.sheet r := by
  have ended := gone.disposed
  cases c with
  | create name title crs reprojector =>
    have kept : (w.withNewSheet (.ofSettings title crs) reprojector).sheet r = w.sheet r :=
      put_of_ne _ _ gone.ne_new
    rw [← kept] at ended ⊢
    exact sheet_bind_of_disposed ended name ⟨w.sheetsMade⟩
  | share name another =>
    rw [execute, withSheet]
    cases w.scene.sheetNamed? name with
    | none => rfl
    | some target => exact sheet_bind_of_disposed ended another target
  | release name =>
    rw [execute, unbind]
    cases w.scene.sheetNamed? name with
    | none => rfl
    | some old => exact sheet_settle_renamed ended _ old
  | sheet name op =>
    rw [execute, withSheet]
    cases w.scene.sheetNamed? name with
    | none => rfl
    | some r' =>
      by_cases same : r = r'
      · subst same
        rw [sheet_perform, if_pos rfl, gone.sheet, Sheet.step_spent]
        rfl
      · exact (sheet_perform w r' _ r).trans (if_neg same)
  | maxBounds name =>
    rw [execute, withSheet]
    cases w.scene.sheetNamed? name with
    | none => rfl
    | some r' => exact congrFun (congrArg Scene.sheets (scene_notes w _)) r
  | maxBoundsIn name preferred =>
    rw [execute, withSheet]
    cases w.scene.sheetNamed? name with
    | none => rfl
    | some r' => exact congrFun (congrArg Scene.sheets (scene_notes w _)) r
  | layer object c =>
    obtain ⟨stage, eq, -⟩ := executeLayer_eq w object c
    rw [execute, eq]
    rfl

theorem gone_execute (gone : w.Gone r n) (c : Command) : (w.execute c).1.Gone r n := by
  have made := (cast_execute w c).sheetsMade
  have before := gone.made
  exact ⟨sound_execute gone.sound c, by omega, (sheet_execute_of_gone gone c).trans gone.sheet⟩

theorem gone_run (gone : w.Gone r n) (cs : List Command) : (w.run cs).Gone r n := by
  induction cs generalizing w with
  | nil => exact gone
  | cons c cs ih => exact ih (gone_execute gone c)

/-! ## What a sheet that is over does not do -/

theorem maxBounds_of_gone (gone : w.Gone r n) {name : String}
    (named : w.scene.sheetNamed? name = some r) :
    (w.execute (.maxBounds name)).2 = .bounds none := by
  rw [execute, withSheet, named]
  show Reply.bounds (w.maxBoundsOf r).2 = .bounds none
  rw [maxBoundsOf, maxBoundsIn, gone.sheet]
  rfl

theorem layers_bind_of_disposed (ended : (w.sheet r).disposed = true) {name : String}
    (named : w.scene.sheetNamed? name = some r) (target : SheetRef) :
    (w.bind name target).scene.layers = w.scene.layers := by
  rw [bind, named]
  exact layers_settle_renamed ended _

/-- What happens to the names of a sheet that is over is nothing to the layers. -/
theorem layers_execute_of_gone (gone : w.Gone r n) (actor : w.actor c = some r) :
    (w.execute c).1.scene.layers = w.scene.layers := by
  have ended := gone.disposed
  cases c with
  | create name title crs reprojector =>
    have kept : (w.withNewSheet (.ofSettings title crs) reprojector).sheet r = w.sheet r :=
      put_of_ne _ _ gone.ne_new
    rw [← kept] at ended
    exact layers_bind_of_disposed ended actor ⟨w.sheetsMade⟩
  | share name another =>
    rw [execute, withSheet]
    cases w.scene.sheetNamed? name with
    | none => rfl
    | some target => exact layers_bind_of_disposed ended actor target
  | release name =>
    have named : w.scene.sheetNamed? name = some r := actor
    rw [execute, unbind, named]
    exact layers_settle_renamed ended _
  | sheet name op =>
    have called := call?_of_named actor op
    rw [execute_of_gone gone called]
  | _ => exact absurd actor (Option.some_ne_none r).symm

theorem not_toldBy_of_gone (gone : w.Gone r n) (d : Delivery) : ¬ w.ToldBy c r d := by
  intro told
  cases told with
  | passedOn held index member listens =>
    rw [sheet_execute_of_gone gone c, gone.sheet] at listens
    exact absurd listens List.not_mem_nil
  | @published op _ _ _ called due listens =>
    rw [gone.sheet, Sheet.step_spent] at due
    exact absurd due List.not_mem_nil

theorem toldByLayerOr_of_gone (gone : w.Gone r n) (c : Command) :
    ∃ heard, (w.execute c).1.stage.deliveries = w.stage.deliveries ++ heard ∧
      ∀ d ∈ heard, w.ToldByLayerOr c (· ≠ r) d := by
  obtain ⟨heard, appended, told⟩ := toldBy_execute gone.sound c
  refine ⟨heard, appended, fun d hd => (told d hd).imp_right ?_⟩
  rintro ⟨r', -, told⟩
  refine ⟨r', ?_, told⟩
  rintro rfl
  exact not_toldBy_of_gone gone d told

/-- Layers change as the command says that is given to them, or as a sheet asks that fits. -/
def ChangedByCallerOr (w : World) (c : Command) (who : SheetRef → Prop) : Prop :=
  (∀ i, (w.execute c).1.layer i = (w.layer i).suffer i c) ∨
    ∃ r, ∃ actions : List Action, who r ∧ w.actor c = some r ∧
      ∀ i, (w.execute c).1.layer i = actions.foldl (Layer.receive r i) (w.layer i)

theorem changedByCallerOr_of_gone (gone : w.Gone r n) (c : Command) :
    w.ChangedByCallerOr c (· ≠ r) := by
  rcases execute_course gone.sound c with ⟨r', actions, acts⟩ | rests
  · by_cases same : r' = r
    · subst same
      left
      intro i
      rw [suffer_of_actor acts.actor]
      exact congrFun (layers_execute_of_gone gone acts.actor) i
    · exact .inr ⟨r', actions, same, acts.actor, acts.layers⟩
  · exact .inl rests.layers

/-! ## The end -/

variable {name : String}

theorem gone_of_dispose (sound : w.Sound) (named : w.scene.sheetNamed? name = some r)
    (live : (w.sheet r).disposed = false) :
    (w.execute (.sheet name .dispose)).1.Gone r (w.sheet r).relaysMade := by
  have called := call?_of_named named .dispose
  have made := (cast_execute w (.sheet name .dispose)).sheetsMade
  have bound := sound.bound _ (mem_of_sheetNamed? w named)
  refine ⟨sound_execute sound _, ?_, ?_⟩
  · rw [made]
    exact Nat.lt_of_lt_of_le bound (Nat.le_add_right _ _)
  · rw [(execute_of_call? called).1]
    exact Sheet.dispose_of_live live

/-- The leave that a sheet takes is all that it has to say while it is disposed. -/
theorem not_echo_of_dispose (sound : w.Sound) (named : w.scene.sheetNamed? name = some r)
    (live : (w.sheet r).disposed = false) {d : Delivery}
    (told : w.ToldBy (.sheet name .dispose) r d) : d.event.isEcho = false := by
  have gone := gone_of_dispose sound named live
  cases told with
  | passedOn held index member listens =>
    rw [gone.sheet] at listens
    exact absurd listens List.not_mem_nil
  | @published op roster e l called due listens =>
    obtain rfl : .dispose = op := Option.some.inj ((call?_of_named named .dispose).symm.trans called)
    rw [Sheet.publications_dispose live] at due
    split at due
    · exact absurd due List.not_mem_nil
    · obtain ⟨rfl, rfl⟩ := Prod.mk.inj (List.mem_singleton.mp due)
      rfl

/-- What is told while a sheet is disposed. Echoes apart, everyone who listens to its stack is told
once and in order that all layers are removed, if there is one. Whoever looks at the sheet sees it
empty and disposed. -/
structure TakesLeave (w : World) (name : String) (r : SheetRef) (heard : List Delivery) : Prop where
  appended : (w.execute (.sheet name .dispose)).1.stage.deliveries = w.stage.deliveries ++ heard
  leave : heard.filter (!·.event.isEcho) = if (w.sheet r).layers = [] then [] else
    (w.sheet r).stackListeners.toList.map
      ((w.execute (.sheet name .dispose)).1.scene.told (.stack (.removed none .all)))
  echoes : ∀ d ∈ heard, d.event.isEcho = true → w.ToldByLayerOr (.sheet name .dispose) (· ≠ r) d
  seen : ∀ d ∈ heard, ∀ other, (w.scene.conducts d.listener).observes = some other →
    w.scene.sheetNamed? other = some r → d.sighting = some (some
      { layers := [], title := none, listening := false, disposed := true, crs := none })
  silent : (w.sheet r).layers = [] → heard = []

/-- The sheet is over in this world, and no command makes it do anything. -/
structure Ended (w : World) (r : SheetRef) : Prop where
  spent : (w.sheet r).Over
  bounds : ∀ name, w.scene.sheetNamed? name = some r →
    (w.execute (.maxBounds name)).2 = .bounds none
  late : ∀ c op, w.call? r c = some op → w.execute c = (w, op.lateReply)
  mute : ∀ c d, ¬ w.ToldBy c r d
  told : ∀ c, ∃ heard, (w.execute c).1.stage.deliveries = w.stage.deliveries ++ heard ∧
    ∀ d ∈ heard, w.ToldByLayerOr c (· ≠ r) d
  layers : ∀ c, w.ChangedByCallerOr c (· ≠ r)

theorem ended_of_gone (gone : w.Gone r n) : w.Ended r := by
  constructor
  · rw [gone.sheet]
    exact Sheet.over_spent n
  · exact fun _ => maxBounds_of_gone gone
  · exact fun _ _ => execute_of_gone gone
  · exact fun _ => not_toldBy_of_gone gone
  · exact toldByLayerOr_of_gone gone
  · exact changedByCallerOr_of_gone gone

theorem takesLeave_of_dispose (sound : w.Sound) (named : w.scene.sheetNamed? name = some r)
    (live : (w.sheet r).disposed = false) : ∃ heard, w.TakesLeave name r heard := by
  let w' := (w.execute (.sheet name .dispose)).1
  have gone : w'.Gone r (w.sheet r).relaysMade := gone_of_dispose sound named live
  have speaks : w'.scene.Speaks (if (w.sheet r).layers = [] then [] else
      [((w.sheet r).stackListeners, .stack (.removed none .all))]) w.stage w'.stage := by
    rw [← Sheet.publications_dispose live]
    exact speaks_of_call sound (call?_of_named named .dispose)
  obtain ⟨heard, appended, told⟩ := toldBy_execute sound (.sheet name .dispose)
  obtain ⟨heard₁, appended₁, here⟩ := speaks.heard
  obtain ⟨heard₂, appended₂, leave⟩ := speaks.adds w'.scene.ignores_echoes
  obtain rfl : heard = heard₁ := List.append_cancel_left (appended.symm.trans appended₁)
  obtain rfl : heard = heard₂ := List.append_cancel_left (appended.symm.trans appended₂)
  refine ⟨heard, appended, ?_, ?_, ?_, ?_⟩
  · rw [leave]
    by_cases vacant : (w.sheet r).layers = []
    · rw [if_pos vacant, if_pos vacant]
      rfl
    · rw [if_neg vacant, if_neg vacant, List.flatMap_singleton]
      refine List.filter_eq_self.mpr fun d hd => ?_
      obtain ⟨l, -, rfl⟩ := List.mem_map.mp hd
      rfl
  · intro d hd echo
    refine (told d hd).imp_right ?_
    rintro ⟨r', -, told⟩
    refine ⟨r', ?_, told⟩
    rintro rfl
    exact Bool.false_ne_true ((not_echo_of_dispose sound named live told).symm.trans echo)
  · intro d hd other looks bound
    obtain ⟨e, l, rfl⟩ := here d hd
    have cast := cast_execute w (.sheet name .dispose)
    have kept : w'.scene.conducts = w.scene.conducts := cast.conducts
    have still : w'.scene.sheetNamed? other = some r :=
      (congrArg (List.lookup other) cast.handles).trans bound
    have mine : (w.scene.conducts l).observes = some other := looks
    have there : w'.scene.sheets r = .spent (w.sheet r).relaysMade := gone.sheet
    show (w'.scene.conducts l).observes.map w'.scene.sight = _
    rw [kept, mine, Option.map_some, Scene.sight, still, Option.map_some, there]
    rfl
  · intro vacant
    rw [if_pos vacant] at speaks
    exact List.append_right_eq_self.mp (appended.symm.trans speaks.still.deliveries)

/-- A live sheet that is disposed takes leave, and after any further run it is over and does nothing
any more. -/
theorem disposal_final (reachable : w.Reachable) (named : w.scene.sheetNamed? name = some r)
    (live : (w.sheet r).disposed = false) :
    (∃ heard, w.TakesLeave name r heard) ∧
      ∀ cs, ((w.execute (.sheet name .dispose)).1.run cs).Ended r := by
  constructor
  · exact takesLeave_of_dispose reachable.sound named live
  · intro cs
    exact ended_of_gone (gone_run (gone_of_dispose reachable.sound named live) cs)

/-- A layer that never lets a relay go is hidden after its sheet is disposed of. Of two who listened
to the stack one fails, and the other one looks on. -/
theorem disposal_final_sticky :
    let l : LayerHandle := { object := 0, id := .numbered 0 }
    let sticky : Layer := { Layer.blank with body := .foreign { report := .unknown, sticky := true } }
    let name := "m"
    let w : World := (opening [(sticky, {})] [{ fails := .always }, { observes := some name }]).run
      [.create name (some "t") none ({} : TransformTable Float).reprojector,
        .sheet name (.listenToStack ⟨0⟩), .sheet name (.listenToStack ⟨1⟩), .sheet name (.add l)]
    let w' := (w.execute (.sheet name .dispose)).1
    let w₂ := w'.run [.layer 0 (.setVisible false)]
    (∃ heard, w'.stage.deliveries = w.stage.deliveries ++ heard ∧
      heard.filter (!·.event.isEcho) = [w'.scene.told (.stack (.removed none .all)) ⟨0⟩,
        w'.scene.told (.stack (.removed none .all)) ⟨1⟩]) ∧
      (w₂.sheet ⟨0⟩).Over ∧
      w₂.execute (.sheet name (.add l)) = (w₂, .refused .disposed) := by
  intro l sticky name w w' w₂
  have reachable : w.Reachable := ⟨_, _, _, rfl⟩
  have named : w.scene.sheetNamed? name = some ⟨0⟩ := by decide +kernel
  have live : (w.sheet ⟨0⟩).disposed = false := by decide +kernel
  have listeners : (w.sheet ⟨0⟩).stackListeners.toList = [⟨0⟩, ⟨1⟩] := by decide +kernel
  have member : (w.sheet ⟨0⟩).layers = [l] := by decide +kernel
  have still : w₂.scene.sheetNamed? name = some ⟨0⟩ := by decide +kernel
  obtain ⟨⟨heard, leave⟩, final⟩ := disposal_final reachable named live
  have ended : w₂.Ended ⟨0⟩ := final [.layer 0 (.setVisible false)]
  refine ⟨⟨heard, leave.appended, ?_⟩, ended.spent, ended.late _ _ (call?_of_named still (.add l))⟩
  rw [leave.leave, member, listeners]
  rfl

end World
end LayeredMap
