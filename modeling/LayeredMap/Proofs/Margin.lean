import LayeredMap.Proofs.Ending

/-!
# What stands beside the stack

Title, user data and viewport stand beside the stack of a sheet, together with
those who listen to them. An operation on the stack leaves all of this as it
is, and so does every command that is no operation on the sheet. Of the other
operations each is about one topic: it publishes events on this topic alone,
to those who are listed for it.
-/

namespace LayeredMap

inductive Topic where
  | properties
  | viewport
  deriving DecidableEq

def Event.topic? : Event → Option Topic
  | property _ => some .properties
  | viewport _ => some .viewport
  | _ => none

namespace SheetCommand

/-- The topic that an operation may publish on. -/
def topic? : SheetCommand → Option Topic
  | setTitle _ | putData .. | removeData _ | extendData _ | clearData => some .properties
  | setViewport _ | setCrs _ | setBounds _ => some .viewport
  | _ => none

/-- Who asks to be listed for a topic. -/
def enrols : SheetCommand → Option (Topic × ListenerRef)
  | listenToProperties l => some (.properties, l)
  | listenToViewport l => some (.viewport, l)
  | _ => none

/-- Who asks to be struck off. -/
def strikes : SheetCommand → Option (Topic × ListenerRef)
  | unlistenToProperties l => some (.properties, l)
  | unlistenToViewport l => some (.viewport, l)
  | _ => none

/-- Whether an operation is on the stack or on those who listen to it, and leaves the rest alone. -/
def sparesMargin (op : SheetCommand) : Bool :=
  op.topic?.isNone && op.enrols.isNone && op.strikes.isNone &&
    match op with
    | dispose => false
    | _ => true

end SheetCommand

namespace Sheet

/-- Those who are listed for a topic. -/
def audience (s : Sheet) : Topic → Roster ListenerRef
  | .properties => s.propertyListeners
  | .viewport => s.viewportListeners

/-- The same title, user data and viewport, for the same listeners. -/
structure SameMargin (s s' : Sheet) : Prop where
  title : s'.title = s.title
  userData : s'.userData = s.userData
  viewport : s'.viewport = s.viewport
  audience : s'.audience = s.audience
  disposed : s'.disposed = s.disposed

variable {s s' : Sheet} {op : SheetCommand} {t : Topic}

theorem SameMargin.refl (s : Sheet) : s.SameMargin s := ⟨rfl, rfl, rfl, rfl, rfl⟩

theorem sameMargin_whenLive {ρ : Type} {step : Step (Except Failure ρ)}
    (h : s.SameMargin step.sheet) : s.SameMargin (s.whenLive step).sheet := by
  rw [whenLive]
  split
  · exact .refl s
  · exact h

theorem sameMargin_removeIf (s : Sheet) (doomed : LayerHandle → Bool) :
    s.SameMargin (s.removeIf doomed).sheet := by
  refine sameMargin_whenLive ?_
  dsimp only
  split
  · exact ⟨rfl, rfl, rfl, rfl, rfl⟩
  · exact .refl s

theorem sameMargin_swap (s : Sheet) (a b : Nat) : s.SameMargin (s.swap a b).sheet := by
  refine sameMargin_whenLive ?_
  split
  · exact .refl s
  · split
    · exact .refl s
    · dsimp only
      split <;> exact ⟨rfl, rfl, rfl, rfl, rfl⟩

theorem sameMargin_listenToStack (s : Sheet) (l : ListenerRef) :
    s.SameMargin (s.listenToStack l).sheet := by
  rw [listenToStack]
  split
  · exact .refl s
  · split
    · exact .refl s
    · dsimp only
      split
      · rw [startRelay]
        cases s.relay <;> exact ⟨rfl, rfl, rfl, rfl, rfl⟩
      · exact ⟨rfl, rfl, rfl, rfl, rfl⟩

theorem sameMargin_unlistenToStack (s : Sheet) (l : ListenerRef) :
    s.SameMargin (s.unlistenToStack l).sheet := by
  rw [unlistenToStack]
  split
  · exact .refl s
  · dsimp only
    split
    · rw [stopRelay]
      split <;> exact ⟨rfl, rfl, rfl, rfl, rfl⟩
    · exact ⟨rfl, rfl, rfl, rfl, rfl⟩

theorem sameMargin_step (s : Sheet) (h : op.sparesMargin = true) :
    s.SameMargin (op.step s).sheet := by
  cases op with
  | add l =>
    refine sameMargin_whenLive ?_
    split
    · exact .refl s
    · exact ⟨rfl, rfl, rfl, rfl, rfl⟩
  | insert i l =>
    refine sameMargin_whenLive ?_
    split
    · exact .refl s
    · split
      · exact .refl s
      · exact ⟨rfl, rfl, rfl, rfl, rfl⟩
  | addAll ls =>
    refine sameMargin_whenLive ?_
    dsimp only
    split
    · exact .refl s
    · exact ⟨rfl, rfl, rfl, rfl, rfl⟩
  | remove id =>
    refine sameMargin_whenLive ?_
    split
    · exact .refl s
    · split
      · exact .refl s
      · exact ⟨rfl, rfl, rfl, rfl, rfl⟩
  | removeAt i =>
    refine sameMargin_whenLive ?_
    split
    · exact .refl s
    · exact ⟨rfl, rfl, rfl, rfl, rfl⟩
  | removeAll ids | retain ids => exact sameMargin_removeIf s _
  | swap a b => exact sameMargin_swap s a b
  | clear => exact sameMargin_whenLive ⟨rfl, rfl, rfl, rfl, rfl⟩
  | listenToStack l => exact sameMargin_listenToStack s l
  | unlistenToStack l => exact sameMargin_unlistenToStack s l
  | _ => exact absurd h Bool.false_ne_true

theorem sameMargin_drop (s : Sheet) : s.SameMargin s.drop.sheet := by
  rw [drop]
  split
  · exact .refl s
  · exact ⟨rfl, rfl, rfl, rfl, rfl⟩

/-! ## Operations that are about a topic -/

theorem whenLive_of_disposed {ρ : Type} (ended : s.disposed = true)
    (step : Step (Except Failure ρ)) : s.whenLive step = .still s (.error .disposed) := if_pos ended

/-- A disposed sheet refuses what is about a topic. -/
theorem step_of_disposed (ended : s.disposed = true) (about : op.topic? = some t) :
    op.step s = .still s (.refused .disposed) := by
  have refused {ρ : Type} (step : Step (Except Failure ρ)) (f : ρ → Reply) :
      (s.whenLive step).map (Reply.ofResult f) = .still s (Reply.refused .disposed) := by
    rw [whenLive_of_disposed ended]
    rfl
  cases op with
  | setTitle _ | putData _ _ | removeData _ | extendData _ | clearData | setViewport _ | setCrs _
  | setBounds _ => exact refused _ _
  | _ => exact absurd about (Option.some_ne_none t).symm

theorem dispose_of_disposed (ended : s.disposed = true) :
    SheetCommand.step s .dispose = .still s .done := by
  simp [SheetCommand.step, dispose, ended, Step.still, Step.map]

/-- A viewport that equals the old one is not stored. -/
theorem updateViewport_of_same {update : Viewport → Viewport} (live : s.disposed = false)
    (same : (update s.currentViewport == s.currentViewport) = true) :
    s.updateViewport update = .still s (.ok ()) := by
  simp [updateViewport, whenLive, live, same]

theorem updateViewport_of_new {update : Viewport → Viewport} (live : s.disposed = false)
    (new : (update s.currentViewport == s.currentViewport) = false) :
    s.updateViewport update =
      { result := .ok ()
        sheet := { s with viewport := some (update s.currentViewport) }
        actions := (changedParts s.currentViewport (update s.currentViewport)).map fun part =>
          s.publishViewport
            { part, old := s.currentViewport, new := update s.currentViewport } } := by
  simp [updateViewport, whenLive, live, new]

section Keeping

variable {β : Type} {view : Sheet → β}

theorem whenLive_keeps {ρ : Type} {step : Step (Except Failure ρ)}
    (h : view step.sheet = view s) : view (s.whenLive step).sheet = view s := by
  rw [whenLive]
  split
  · rfl
  · exact h

theorem removeData_keeps (h : ∀ userData, view { s with userData } = view s) (k : String) :
    view (s.removeData k).sheet = view s := by
  refine whenLive_keeps ?_
  split
  · rfl
  · exact h _

theorem updateViewport_keeps (h : ∀ viewport, view { s with viewport } = view s)
    (update : Viewport → Viewport) : view (s.updateViewport update).sheet = view s := by
  cases live : s.disposed with
  | true =>
    rw [updateViewport, whenLive_of_disposed live]
    rfl
  | false =>
    cases same : update s.currentViewport == s.currentViewport with
    | true =>
      rw [updateViewport_of_same live same]
      rfl
    | false =>
      rw [updateViewport_of_new live same]
      exact h _

/-- An operation about the title or the user data keeps all but these. -/
theorem properties_keep (about : op.topic? = some .properties)
    (title : ∀ title, view { s with title } = view s)
    (userData : ∀ userData, view { s with userData } = view s) :
    view (op.step s).sheet = view s := by
  cases op with
  | setTitle _ => exact whenLive_keeps (title _)
  | putData _ _ | extendData _ | clearData => exact whenLive_keeps (userData _)
  | removeData k => exact removeData_keeps userData k
  | _ => exact absurd about (by simp [SheetCommand.topic?])

/-- An operation about the viewport keeps all but this. -/
theorem viewport_keeps (about : op.topic? = some .viewport)
    (viewport : ∀ viewport, view { s with viewport } = view s) :
    view (op.step s).sheet = view s := by
  cases op with
  | setViewport _ | setCrs _ | setBounds _ => exact updateViewport_keeps viewport _
  | _ => exact absurd about (by simp [SheetCommand.topic?])

end Keeping

/-! ## Those who are listed -/

/-- The same listeners, on a sheet that is no more disposed than before. -/
structure SameAudience (s s' : Sheet) : Prop where
  audience : s'.audience = s.audience
  disposed : s'.disposed = s.disposed

theorem SameAudience.refl (s : Sheet) : s.SameAudience s := ⟨rfl, rfl⟩

/-- Operations that are about a topic leave those who are listed alone. -/
theorem sameAudience_step (s : Sheet) (about : op.topic? = some t) :
    s.SameAudience (op.step s).sheet := by
  cases t with
  | properties =>
    exact ⟨properties_keep about (fun _ => rfl) fun _ => rfl,
      properties_keep about (fun _ => rfl) fun _ => rfl⟩
  | viewport => exact ⟨viewport_keeps about fun _ => rfl, viewport_keeps about fun _ => rfl⟩

/-- Who is listed for a topic after an operation: those who were, but for one who came or went, or
nobody any more. -/
inductive Relists (s s' : Sheet) (op : SheetCommand) (t : Topic) : Prop
  | kept (disposed : s'.disposed = s.disposed) (same : s'.audience t = s.audience t)
  | joined (l : ListenerRef) (live : s.disposed = false) (disposed : s'.disposed = s.disposed)
      (asks : op.enrols = some (t, l)) (now : s'.audience t = ((s.audience t).add l).2)
  | left (l : ListenerRef) (disposed : s'.disposed = s.disposed)
      (asks : op.strikes = some (t, l)) (now : s'.audience t = ((s.audience t).remove l).2)
  | finished (ended : s'.disposed = true) (now : s'.audience t = {})

theorem SameAudience.relists (h : s.SameAudience s') : s.Relists s' op t :=
  .kept h.disposed (congrFun h.audience t)

theorem SameMargin.relists (h : s.SameMargin s') : s.Relists s' op t :=
  .kept h.disposed (congrFun h.audience t)

theorem listenToProperties_of_live (live : s.disposed = false) (l : ListenerRef) :
    (s.listenToProperties l).sheet =
      { s with propertyListeners := (s.propertyListeners.add l).2 } := by
  simp [listenToProperties, live, Step.still]

theorem listenToViewport_of_live (live : s.disposed = false) (l : ListenerRef) :
    (s.listenToViewport l).sheet =
      { s with viewportListeners := (s.viewportListeners.add l).2 } := by
  simp [listenToViewport, live, Step.still]

theorem relists_listen (s : Sheet) (l : ListenerRef) (t : Topic) :
    s.Relists (s.listenToProperties l).sheet (.listenToProperties l) t ∧
      s.Relists (s.listenToViewport l).sheet (.listenToViewport l) t := by
  cases live : s.disposed with
  | true =>
    rw [listenToProperties, listenToViewport, if_pos live, if_pos live]
    exact ⟨(SameAudience.refl s).relists, (SameAudience.refl s).relists⟩
  | false =>
    rw [listenToProperties_of_live live, listenToViewport_of_live live]
    cases t with
    | properties => exact ⟨.joined l live rfl rfl rfl, .kept rfl rfl⟩
    | viewport => exact ⟨.kept rfl rfl, .joined l live rfl rfl rfl⟩

theorem relists_step (s : Sheet) (op : SheetCommand) (t : Topic) :
    s.Relists (op.step s).sheet op t := by
  cases op with
  | setTitle _ | putData _ _ | extendData _ | clearData | removeData _ | setViewport _ | setCrs _
  | setBounds _ => exact (sameAudience_step s rfl).relists
  | listenToProperties l => exact (relists_listen s l t).1
  | listenToViewport l => exact (relists_listen s l t).2
  | unlistenToProperties l =>
    cases t with
    | properties => exact .left l rfl rfl rfl
    | viewport => exact .kept rfl rfl
  | unlistenToViewport l =>
    cases t with
    | properties => exact .kept rfl rfl
    | viewport => exact .left l rfl rfl rfl
  | dispose =>
    cases live : s.disposed with
    | true =>
      rw [dispose_of_disposed live]
      exact (SameAudience.refl s).relists
    | false =>
      rw [dispose_of_live live]
      exact .finished rfl (by cases t <;> rfl)
  | _ => exact (sameMargin_step s rfl).relists

theorem disposed_step (s : Sheet) (op : SheetCommand) (ended : s.disposed = true) :
    (op.step s).sheet.disposed = true := by
  cases relists_step s op .properties with
  | kept disposed => exact disposed.trans ended
  | joined _ _ disposed => exact disposed.trans ended
  | left _ disposed => exact disposed.trans ended
  | finished now => exact now

/-! ## What is shown -/

/-- The same title, user data and viewport. -/
structure SameShown (s s' : Sheet) : Prop where
  title : s'.title = s.title
  userData : s'.userData = s.userData
  viewport : s'.viewport = s.viewport

theorem SameMargin.sameShown (h : s.SameMargin s') : s.SameShown s' :=
  ⟨h.title, h.userData, h.viewport⟩

theorem SameShown.refl (s : Sheet) : s.SameShown s := ⟨rfl, rfl, rfl⟩

theorem sameShown_listen (s : Sheet) (l : ListenerRef) :
    s.SameShown (s.listenToProperties l).sheet ∧ s.SameShown (s.listenToViewport l).sheet := by
  cases live : s.disposed with
  | true =>
    rw [listenToProperties, listenToViewport, if_pos live, if_pos live]
    exact ⟨.refl s, .refl s⟩
  | false =>
    rw [listenToProperties_of_live live, listenToViewport_of_live live]
    exact ⟨⟨rfl, rfl, rfl⟩, ⟨rfl, rfl, rfl⟩⟩

/-- An operation that is about no topic shows nothing new, but for disposal. -/
theorem sameShown_step (s : Sheet) (silent : op.topic? = none) (stays : op ≠ .dispose) :
    s.SameShown (op.step s).sheet := by
  cases op with
  | setTitle _ | putData _ _ | removeData _ | extendData _ | clearData | setViewport _ | setCrs _
  | setBounds _ => exact absurd silent (Option.some_ne_none _)
  | listenToProperties l => exact (sameShown_listen s l).1
  | listenToViewport l => exact (sameShown_listen s l).2
  | unlistenToProperties l | unlistenToViewport l => exact ⟨rfl, rfl, rfl⟩
  | dispose => exact absurd rfl stays
  | _ => exact (sameMargin_step s rfl).sameShown

theorem disposed_dispose (s : Sheet) : (SheetCommand.step s .dispose).sheet.disposed = true := by
  cases live : s.disposed with
  | true => exact disposed_step s .dispose live
  | false =>
    rw [dispose_of_live live]
    rfl

theorem ne_dispose_of_live (live : (op.step s).sheet.disposed = false) : op ≠ .dispose := by
  rintro rfl
  exact absurd (live.symm.trans (disposed_dispose s)) Bool.false_ne_true

theorem viewport_step (s : Sheet) (other : op.topic? ≠ some .viewport) (stays : op ≠ .dispose) :
    (op.step s).sheet.viewport = s.viewport := by
  rcases about : op.topic? with _ | _ | _
  · exact (sameShown_step s about stays).viewport
  · exact properties_keep about (fun _ => rfl) fun _ => rfl
  · exact absurd about other

theorem properties_step (s : Sheet) (other : op.topic? ≠ some .properties) (stays : op ≠ .dispose) :
    (op.step s).sheet.title = s.title ∧ (op.step s).sheet.userData = s.userData := by
  rcases about : op.topic? with _ | _ | _
  · have same := sameShown_step s about stays
    exact ⟨same.title, same.userData⟩
  · exact absurd about other
  · exact ⟨viewport_keeps about fun _ => rfl, viewport_keeps about fun _ => rfl⟩

/-! ## Events on a topic -/

/-- What actions publish on a topic. -/
def spoken (t : Topic) (actions : List Action) : List Event :=
  ((publications actions).map (·.2)).filter (·.topic? = some t)

/-- All that is published is on the topic, and for those who are listed for it. -/
def OnTopic (s : Sheet) (t : Topic) (actions : List Action) : Prop :=
  ∀ x ∈ publications actions, x.1 = s.audience t ∧ x.2.topic? = some t

theorem onTopic_whenLive {ρ : Type} {step : Step (Except Failure ρ)}
    (h : s.OnTopic t step.actions) : s.OnTopic t (s.whenLive step).actions := by
  rw [whenLive]
  split
  · exact fun x hx => absurd hx List.not_mem_nil
  · exact h

theorem onTopic_publishProperty (s : Sheet) (e : PropertyEvent) :
    s.OnTopic .properties [s.publishProperty e] := by
  intro x hx
  rw [List.mem_singleton.mp hx]
  exact ⟨rfl, rfl⟩

theorem onTopic_removeData (s : Sheet) (k : String) :
    s.OnTopic .properties (s.removeData k).actions := by
  refine onTopic_whenLive ?_
  split
  · exact fun x hx => absurd hx List.not_mem_nil
  · exact onTopic_publishProperty s _

theorem publications_parts (s : Sheet) (old new : Viewport) (parts : List ViewportPart) :
    publications (parts.map fun part => s.publishViewport { part, old, new }) =
      parts.map fun part => (s.viewportListeners, .viewport { part, old, new }) := by
  rw [publications, List.filterMap_map, ← List.filterMap_eq_map]
  rfl

theorem onTopic_updateViewport (s : Sheet) (update : Viewport → Viewport) :
    s.OnTopic .viewport (s.updateViewport update).actions := by
  intro x hx
  cases live : s.disposed with
  | true =>
    rw [updateViewport, whenLive_of_disposed live] at hx
    exact absurd hx List.not_mem_nil
  | false =>
    cases same : update s.currentViewport == s.currentViewport with
    | true =>
      rw [updateViewport_of_same live same] at hx
      exact absurd hx List.not_mem_nil
    | false =>
      rw [updateViewport_of_new live same, publications_parts] at hx
      obtain ⟨part, -, rfl⟩ := List.mem_map.mp hx
      exact ⟨rfl, rfl⟩

theorem onTopic_step (s : Sheet) (h : op.topic? = some t) : s.OnTopic t (op.step s).actions := by
  cases op with
  | setTitle _ | putData _ _ | extendData _ | clearData =>
    obtain rfl := Option.some.inj h
    exact onTopic_whenLive (onTopic_publishProperty s _)
  | removeData k =>
    obtain rfl := Option.some.inj h
    exact onTopic_removeData s k
  | setViewport _ | setCrs _ | setBounds _ =>
    obtain rfl := Option.some.inj h
    exact onTopic_updateViewport s _
  | _ => exact absurd h (Option.some_ne_none t).symm

theorem offTopic_step (h : s.Sound) (silent : op.topic? = none) :
    ∀ x ∈ publications (op.step s).actions, x.2.topic? = none := by
  cases onStack : op.onStack with
  | true =>
    obtain ⟨events, published, -⟩ := announced_step h onStack
    intro x hx
    rw [published] at hx
    obtain ⟨e, -, rfl⟩ := List.mem_map.mp hx
    rfl
  | false =>
    have mute : publications (op.step s).actions = [] := by
      cases op with
      | listenToStack l => exact s.publications_listenToStack l
      | unlistenToStack l => exact s.publications_unlistenToStack l
      | listenToProperties l => exact s.publications_listenToProperties l
      | listenToViewport l => exact s.publications_listenToViewport l
      | unlistenToProperties l | unlistenToViewport l => rfl
      | setTitle _ | putData _ _ | extendData _ | clearData | removeData _ | setViewport _
      | setCrs _ | setBounds _ => exact absurd silent (Option.some_ne_none _)
      | _ => exact absurd onStack.symm Bool.false_ne_true
    rw [mute]
    exact fun x hx => absurd hx List.not_mem_nil

/-- An event on a topic comes from an operation about the topic, and is for those who are listed. -/
theorem mem_publications_step (h : s.Sound) {x : Roster ListenerRef × Event}
    (hx : x ∈ publications (op.step s).actions) (on : x.2.topic? = some t) :
    op.topic? = some t ∧ x.1 = s.audience t := by
  cases about : op.topic? with
  | none => exact absurd (on.symm.trans (offTopic_step h about x hx)) (Option.some_ne_none t)
  | some t' =>
    have said := onTopic_step s about x hx
    rw [on] at said
    obtain rfl := Option.some.inj said.2
    exact ⟨rfl, said.1⟩

theorem spoken_of_topic (s : Sheet) (about : op.topic? = some t) :
    spoken t (op.step s).actions = (publications (op.step s).actions).map (·.2) := by
  refine List.filter_eq_self.mpr fun e he => ?_
  obtain ⟨x, hx, rfl⟩ := List.mem_map.mp he
  exact decide_eq_true (onTopic_step s about x hx).2

theorem spoken_of_other (h : s.Sound) (other : op.topic? ≠ some t) :
    spoken t (op.step s).actions = [] := by
  refine List.filter_eq_nil_iff.mpr fun e he on => ?_
  obtain ⟨x, hx, rfl⟩ := List.mem_map.mp he
  exact other (mem_publications_step h hx (of_decide_eq_true on)).1

end Sheet

/-! ## Commands -/

namespace World

open Sheet

variable {w : World} {r : SheetRef} {c : Command}

theorem sameMargin_settle (w : World) (r r' : SheetRef) :
    (w.sheet r).SameMargin ((w.settle r').sheet r) := by
  rw [settle]
  split
  · exact .refl _
  · rw [sheet_perform]
    split
    · rename_i same
      rw [same]
      exact sameMargin_drop _
    · exact .refl _

theorem sameMargin_bind (w : World) (name : String) (target r : SheetRef) :
    (w.sheet r).SameMargin ((w.bind name target).sheet r) := by
  rw [bind]
  cases w.scene.sheetNamed? name with
  | none => exact .refl _
  | some old =>
    let handles := (name, target) :: w.scene.handles.filter (·.1 ≠ name)
    exact sameMargin_settle { w with scene := { w.scene with handles } } r old

theorem sameMargin_notes (w : World) (ns : List Notice) (r : SheetRef) :
    (w.sheet r).SameMargin ((ns.foldl note w).sheet r) := by
  rw [sheet, sheet, scene_notes]
  exact .refl _

/-- A sheet on which no operation is carried out keeps what stands beside its stack, unless it is
just made. -/
theorem sheet_of_no_call (uncalled : w.call? r c = none) :
    (w.sheet r).SameMargin ((w.execute c).1.sheet r) ∨
      r = ⟨w.sheetsMade⟩ ∧ ∃ title crs,
        (Sheet.ofSettings title crs).SameMargin ((w.execute c).1.sheet r) := by
  cases c with
  | create name title crs reprojector =>
    have bound := sameMargin_bind (w.withNewSheet (.ofSettings title crs) reprojector) name
      ⟨w.sheetsMade⟩ r
    by_cases new : r = ⟨w.sheetsMade⟩
    · have made : (w.withNewSheet (.ofSettings title crs) reprojector).sheet r =
          .ofSettings title crs := by
        rw [new]
        exact put_self _ _ _
      rw [made] at bound
      exact .inr ⟨new, title, crs, bound⟩
    · have kept : (w.withNewSheet (.ofSettings title crs) reprojector).sheet r = w.sheet r :=
        put_of_ne _ _ new
      rw [kept] at bound
      exact .inl bound
  | share name another =>
    rw [execute, withSheet]
    cases w.scene.sheetNamed? name with
    | none => exact .inl (.refl _)
    | some target => exact .inl (sameMargin_bind w another target r)
  | release name =>
    rw [execute, unbind]
    cases w.scene.sheetNamed? name with
    | none => exact .inl (.refl _)
    | some old =>
      let handles := w.scene.handles.filter (·.1 ≠ name)
      exact .inl (sameMargin_settle { w with scene := { w.scene with handles } } r old)
  | sheet name op =>
    rw [execute, withSheet]
    cases named : w.scene.sheetNamed? name with
    | none => exact .inl (.refl _)
    | some r' =>
      by_cases same : r = r'
      · subst same
        rw [call?_of_named named] at uncalled
        exact absurd uncalled (Option.some_ne_none op)
      · have kept : (w.perform r' fun s => op.step s).1.sheet r = w.sheet r :=
          (sheet_perform w r' _ r).trans (if_neg same)
        show (w.sheet r).SameMargin ((w.perform r' fun s => op.step s).1.sheet r) ∨ _
        rw [kept]
        exact .inl (.refl _)
  | maxBounds name =>
    rw [execute, withSheet]
    cases w.scene.sheetNamed? name with
    | none => exact .inl (.refl _)
    | some r' => exact .inl (sameMargin_notes w _ r)
  | maxBoundsIn name preferred =>
    rw [execute, withSheet]
    cases w.scene.sheetNamed? name with
    | none => exact .inl (.refl _)
    | some r' => exact .inl (sameMargin_notes w _ r)
  | layer object c =>
    obtain ⟨stage, eq, -⟩ := executeLayer_eq w object c
    rw [execute, eq]
    exact .inl (.refl _)

theorem sameMargin_of_no_call (made : r.number < w.sheetsMade) (uncalled : w.call? r c = none) :
    (w.sheet r).SameMargin ((w.execute c).1.sheet r) := by
  rcases sheet_of_no_call uncalled with kept | ⟨rfl, -⟩
  · exact kept
  · exact absurd made (Nat.lt_irrefl _)

/-- What holds of a new sheet, goes by what stands beside the stack and is kept up by operations
holds of every sheet. -/
theorem Reachable.beside {P : Sheet → Prop} (fresh : ∀ title crs, P (.ofSettings title crs))
    (margin : ∀ {s s' : Sheet}, s.SameMargin s' → P s → P s')
    (step : ∀ (s : Sheet) (op : SheetCommand), P s → P (op.step s).sheet) (h : w.Reachable)
    (r : SheetRef) : P (w.sheet r) := by
  obtain ⟨layers, conducts, cs, rfl⟩ := h
  have kept (w : World) (c : Command) (h : ∀ r, P (w.sheet r)) (r : SheetRef) :
      P ((w.execute c).1.sheet r) := by
    cases called : w.call? r c with
    | some op =>
      rw [(execute_of_call? called).1]
      exact step _ op (h r)
    | none =>
      rcases sheet_of_no_call called with same | ⟨-, title, crs, new⟩
      · exact margin same (h r)
      · exact margin new (fresh title crs)
  have start : ∀ r, P ((opening layers conducts).sheet r) := fun _ => fresh none none
  revert r
  generalize opening layers conducts = w at start
  induction cs generalizing w with
  | nil => exact start
  | cons c cs ih => exact ih (w.execute c).1 (kept w c start)

end World
end LayeredMap
