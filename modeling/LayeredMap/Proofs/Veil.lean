import LayeredMap.Proofs.Publication

/-!
# Sheets behind a veil

Suppose that some listeners are hidden. Two sheets match if they differ in
hidden listeners only, and in relays, which come and go with listeners. Every
operation does the same to both, with the same result, and asks for the same
disposals and for the same events to be told to those who are not hidden. An
operation by which a hidden listener comes or goes does nothing of the kind.
-/

namespace LayeredMap

/-- Those on a roster who are not hidden. -/
def Roster.shown (hidden : ListenerRef → Bool) (r : Roster ListenerRef) : List ListenerRef :=
  r.toList.filter (!hidden ·)

/-- What shows of actions: a disposal, or an event and who is told of it. -/
def Action.gist (hidden : ListenerRef → Bool) :
    Action → Option (LayerHandle ⊕ List ListenerRef × Event)
  | .dispose l => some (.inl l)
  | .publish roster e => some (.inr (roster.shown hidden, e))
  | .subscribe .. | .unsubscribe .. | .note _ => none

def gists (hidden : ListenerRef → Bool) (actions : List Action) :
    List (LayerHandle ⊕ List ListenerRef × Event) :=
  actions.filterMap (Action.gist hidden)

variable {hidden : ListenerRef → Bool}

theorem gists_append (as bs : List Action) :
    gists hidden (as ++ bs) = gists hidden as ++ gists hidden bs :=
  List.filterMap_append

theorem gists_map {α : Type} (xs : List α) {f : α → Action}
    (veiled : ∀ x, (f x).gist hidden = none) : gists hidden (xs.map f) = [] := by
  refine List.filterMap_eq_nil_iff.mpr fun a ha => ?_
  obtain ⟨x, -, rfl⟩ := List.mem_map.mp ha
  exact veiled x

namespace Roster

variable {r r' : Roster ListenerRef} {l : ListenerRef}

theorem mem_shown : l ∈ r.shown hidden ↔ l ∈ r.toList ∧ hidden l = false := by
  simp [shown]

theorem mem_iff_of_shown (same : r'.shown hidden = r.shown hidden) (in_sight : hidden l = false) :
    l ∈ r'.toList ↔ l ∈ r.toList := by
  have both : l ∈ r'.shown hidden ↔ l ∈ r.shown hidden := by rw [same]
  simpa [mem_shown, in_sight] using both

theorem shown_add (same : r'.shown hidden = r.shown hidden) (in_sight : hidden l = false) :
    (r'.add l).1 = (r.add l).1 ∧ (r'.add l).2.shown hidden = (r.add l).2.shown hidden := by
  have listed := mem_iff_of_shown same in_sight
  by_cases there : l ∈ r.toList
  · rw [add_of_mem r l there, add_of_mem r' l (listed.mpr there)]
    exact ⟨rfl, same⟩
  · obtain ⟨grown, added, toList⟩ := add_of_not_mem r l there
    obtain ⟨grown', added', toList'⟩ := add_of_not_mem r' l fun h => there (listed.mp h)
    rw [added, added']
    refine ⟨rfl, ?_⟩
    rw [shown, shown, toList, toList', List.filter_append, List.filter_append]
    exact congrArg (· ++ _) same

theorem shown_remove_eq (r : Roster ListenerRef) (l : ListenerRef) :
    (r.remove l).2.shown hidden = (r.shown hidden).filter (· ≠ l) := by
  rw [shown, shown, toList_remove, List.filter_filter, List.filter_filter]
  exact List.filter_congr fun m _ => Bool.and_comm _ _

theorem shown_remove (same : r'.shown hidden = r.shown hidden) (in_sight : hidden l = false) :
    (r'.remove l).1 = (r.remove l).1 ∧
      (r'.remove l).2.shown hidden = (r.remove l).2.shown hidden := by
  have listed := mem_iff_of_shown same in_sight
  constructor
  · by_cases there : l ∈ r.toList
    · obtain ⟨rest, removed, -⟩ := remove_of_mem r l there
      obtain ⟨rest', removed', -⟩ := remove_of_mem r' l (listed.mpr there)
      rw [removed, removed']
    · rw [remove_of_not_mem r l there, remove_of_not_mem r' l fun h => there (listed.mp h)]
  · rw [shown_remove_eq, shown_remove_eq, same]

theorem shown_add_hidden (hides : hidden l = true) : (r.add l).2.shown hidden = r.shown hidden := by
  rw [shown, shown, toList_add]
  split
  · rfl
  · simp [hides]

theorem shown_remove_hidden (hides : hidden l = true) :
    (r.remove l).2.shown hidden = r.shown hidden := by
  rw [shown_remove_eq]
  refine List.filter_eq_self.mpr fun m hm => decide_eq_true fun same => ?_
  rw [same, mem_shown, hides] at hm
  exact Bool.false_ne_true hm.2.symm

end Roster

/-! ## Sheets and steps that match -/

structure Sheet.Matches (hidden : ListenerRef → Bool) (s s' : Sheet) : Prop where
  stack : s'.stack = s.stack
  title : s'.title = s.title
  userData : s'.userData = s.userData
  viewport : s'.viewport = s.viewport
  disposed : s'.disposed = s.disposed
  stackListeners : s'.stackListeners.shown hidden = s.stackListeners.shown hidden
  propertyListeners : s'.propertyListeners.shown hidden = s.propertyListeners.shown hidden
  viewportListeners : s'.viewportListeners.shown hidden = s.viewportListeners.shown hidden

structure Step.Matches {ρ : Type} (hidden : ListenerRef → Bool) (step step' : Step ρ) : Prop where
  result : step'.result = step.result
  sheet : step.sheet.Matches hidden step'.sheet
  actions : gists hidden step'.actions = gists hidden step.actions

theorem Step.Matches.map {ρ σ : Type} {step step' : Step ρ} (h : step.Matches hidden step')
    (f : ρ → σ) : (step.map f).Matches hidden (step'.map f) :=
  ⟨congrArg f h.result, h.sheet, h.actions⟩

namespace Sheet

variable {s s' s'' : Sheet} {ρ : Type}

theorem Matches.refl (s : Sheet) : s.Matches hidden s := ⟨rfl, rfl, rfl, rfl, rfl, rfl, rfl, rfl⟩

theorem Matches.symm (h : s.Matches hidden s') : s'.Matches hidden s :=
  ⟨h.stack.symm, h.title.symm, h.userData.symm, h.viewport.symm, h.disposed.symm,
    h.stackListeners.symm, h.propertyListeners.symm, h.viewportListeners.symm⟩

theorem Matches.trans (h : s.Matches hidden s') (h' : s'.Matches hidden s'') :
    s.Matches hidden s'' :=
  ⟨h'.stack.trans h.stack, h'.title.trans h.title, h'.userData.trans h.userData,
    h'.viewport.trans h.viewport, h'.disposed.trans h.disposed,
    h'.stackListeners.trans h.stackListeners, h'.propertyListeners.trans h.propertyListeners,
    h'.viewportListeners.trans h.viewportListeners⟩

/-! ## What is done with layers -/

theorem gists_entering (s : Sheet) (ls : List LayerHandle) :
    gists hidden (ls.flatMap s.entering) = [] := by
  refine List.filterMap_eq_nil_iff.mpr fun a ha => ?_
  obtain ⟨l, k, rfl⟩ := mem_entering ha
  rfl

theorem gists_leaving (s : Sheet) (ls : List LayerHandle) :
    gists hidden (ls.flatMap s.leaving) = ls.map .inl := by
  have disposal (l : LayerHandle) : gists hidden (s.leaving l) = [.inl l] := by
    rw [leaving]
    cases s.relay <;> rfl
  induction ls with
  | nil => rfl
  | cons l ls ih => rw [List.flatMap_cons, gists_append, disposal, ih, List.map_cons]; rfl

namespace Matches

variable (h : s.Matches hidden s')
include h

theorem layers : s'.layers = s.layers := congrArg Stack.layers h.stack

theorem layerCount : s'.layerCount = s.layerCount := congrArg Stack.size h.stack

theorem withStack (stack : Stack) :
    Sheet.Matches hidden { s with stack } { s' with stack } :=
  ⟨rfl, h.title, h.userData, h.viewport, h.disposed, h.stackListeners, h.propertyListeners,
    h.viewportListeners⟩

theorem still (result : ρ) : (Step.still s result).Matches hidden (.still s' result) :=
  ⟨rfl, h, rfl⟩

theorem whenLive {step step' : Step (Except Failure ρ)} (live : step.Matches hidden step') :
    (s.whenLive step).Matches hidden (s'.whenLive step') := by
  rw [Sheet.whenLive, Sheet.whenLive, h.disposed]
  split
  · exact h.still _
  · exact live

/-- Layers are seen to, and then one event on the stack is told. -/
theorem told {first first' : List Action} (same : gists hidden first' = gists hidden first)
    (result : ρ) (stack : Stack) (n : Notice) (e : StackEvent) :
    Step.Matches hidden
      { result, sheet := { s with stack }, actions := first ++ [.note n, s.publishStack e] }
      { result, sheet := { s' with stack }, actions := first' ++ [.note n, s'.publishStack e] } := by
  refine ⟨rfl, h.withStack stack, ?_⟩
  rw [gists_append, gists_append, same]
  exact congrArg (fun ls => _ ++ [Sum.inr (ls, Event.stack e)]) h.stackListeners

/-- Some layers came in before it was told. -/
theorem told_entering (ls : List LayerHandle) (result : ρ) (stack : Stack) (n : Notice)
    (e : StackEvent) :
    Step.Matches hidden
      { result, sheet := { s with stack }
        actions := ls.flatMap s.entering ++ [.note n, s.publishStack e] }
      { result, sheet := { s' with stack }
        actions := ls.flatMap s'.entering ++ [.note n, s'.publishStack e] } :=
  h.told ((s'.gists_entering ls).trans (s.gists_entering ls).symm) result stack n e

/-- Some layers went out before it was told. -/
theorem told_leaving (ls : List LayerHandle) (result : ρ) (stack : Stack) (n : Notice)
    (e : StackEvent) :
    Step.Matches hidden
      { result, sheet := { s with stack }
        actions := ls.flatMap s.leaving ++ [.note n, s.publishStack e] }
      { result, sheet := { s' with stack }
        actions := ls.flatMap s'.leaving ++ [.note n, s'.publishStack e] } :=
  h.told ((s'.gists_leaving ls).trans (s.gists_leaving ls).symm) result stack n e

/-! ## Operations on the stack -/

theorem add (l : LayerHandle) : (s.add l).Matches hidden (s'.add l) := by
  refine h.whenLive ?_
  rw [h.stack]
  cases s.stack.push l with
  | mk i stack =>
    cases i with
    | none => exact h.still _
    | some i =>
      simpa only [List.flatMap_singleton] using
        h.told_entering [l] (Except.ok true) stack (.layerAdded l.id i) (.added (some l) (.single i))

theorem insert (i : Nat) (l : LayerHandle) : (s.insert i l).Matches hidden (s'.insert i l) := by
  refine h.whenLive ?_
  rw [h.layerCount, h.stack]
  split
  · exact h.still _
  · cases s.stack.insert i l with
    | mk inserted stack =>
      cases inserted with
      | false => exact h.still _
      | true =>
        simpa only [List.flatMap_singleton] using
          h.told_entering [l] (Except.ok true) stack (.layerInserted l.id i) (.added (some l) (.single i))

theorem addAll (ls : List LayerHandle) : (s.addAll ls).Matches hidden (s'.addAll ls) := by
  refine h.whenLive ?_
  rw [h.layerCount, h.stack]
  cases pushAll s.stack ls with
  | mk stack added =>
    cases added with
    | nil => exact h.still _
    | cons l rest => exact h.told_entering (l :: rest) _ stack _ _

theorem removed (l : LayerHandle) (i : Nat) (result : ρ) (stack : Stack) :
    Step.Matches hidden { result, sheet := { s with stack }, actions := s.removed l i }
      { result, sheet := { s' with stack }, actions := s'.removed l i } := by
  simpa only [Sheet.removed, List.flatMap_singleton] using
    h.told_leaving [l] result stack (.layerRemoved l.id i) (.removed (some l) (.single i))

theorem remove (id : LayerId) : (s.remove id).Matches hidden (s'.remove id) := by
  refine h.whenLive ?_
  rw [h.stack]
  cases s.stack.indexOf? id with
  | none => exact h.still _
  | some i =>
    cases removal : s.stack.removeAt i with
    | mk l stack =>
      cases l with
      | none =>
        simp only [removal]
        exact h.still _
      | some l =>
        simp only [removal]
        exact h.removed l i _ stack

theorem removeAt (i : Nat) : (s.removeAt i).Matches hidden (s'.removeAt i) := by
  refine h.whenLive ?_
  rw [h.stack, h.layerCount]
  cases s.stack.removeAt i with
  | mk l stack =>
    cases l with
    | none => exact h.still _
    | some l => exact h.removed l i _ stack

theorem removeIf (doomed : LayerHandle → Bool) :
    (s.removeIf doomed).Matches hidden (s'.removeIf doomed) := by
  refine h.whenLive ?_
  rw [h.stack, h.layers]
  cases hfirst : (s.stack.positions doomed).head? with
  | none =>
    simp only [hfirst]
    exact h.still _
  | some first =>
    cases hlast : (s.stack.positions doomed).getLast? with
    | none =>
      simp only [hfirst, hlast]
      exact h.still _
    | some last =>
      simp only [hfirst, hlast]
      exact h.told_leaving _ _ _ _ _

theorem swap (a b : Nat) : (s.swap a b).Matches hidden (s'.swap a b) := by
  refine h.whenLive ?_
  rw [h.layerCount, h.stack]
  cases out : [a, b].find? (s.layerCount ≤ ·) with
  | some i => exact h.still _
  | none =>
    by_cases same : a = b
    · simp only [same, if_true]
      exact h.still _
    · simp only [same, if_false]
      cases (s.stack.swap a b).2.get? (max a b) with
      | none => exact ⟨rfl, h.withStack _, rfl⟩
      | some l =>
        have same : gists hidden [] = gists hidden [] := rfl
        exact h.told same _ _ _ _

theorem clear : s.clear.Matches hidden s'.clear := by
  refine h.whenLive ?_
  rw [allLeaving, allLeaving, h.layers, h.stack, h.layerCount]
  exact h.told_leaving s.layers _ _ _ _

theorem gists_allLeaving : gists hidden s'.allLeaving = gists hidden s.allLeaving := by
  rw [allLeaving, allLeaving, gists_leaving, gists_leaving, h.layers]

theorem dispose : s.dispose.Matches hidden s'.dispose := by
  rw [Sheet.dispose, Sheet.dispose, h.disposed]
  split
  · exact h.still _
  · refine ⟨rfl, ⟨rfl, rfl, rfl, rfl, rfl, rfl, rfl, rfl⟩, ?_⟩
    show gists hidden (s'.allLeaving ++ _) = gists hidden (s.allLeaving ++ _)
    rw [gists_append, gists_append, h.gists_allLeaving, h.layerCount]
    split
    · rfl
    · exact congrArg (fun ls => _ ++ [Sum.inr (ls, Event.stack (.removed none .all))])
        h.stackListeners

theorem drop : s.drop.Matches hidden s'.drop := by
  have idle : (s'.disposed || s'.stack.isEmpty) = (s.disposed || s.stack.isEmpty) := by
    rw [h.disposed, h.stack]
  rw [Sheet.drop, Sheet.drop, idle]
  split
  · exact h.still _
  · exact ⟨rfl, h.withStack {}, h.gists_allLeaving⟩

/-! ## Title, user data and viewport -/

theorem toldProperty {sheet sheet' : Sheet} (settled : sheet.Matches hidden sheet') (result : ρ)
    (e : PropertyEvent) :
    Step.Matches hidden { result, sheet := sheet, actions := [s.publishProperty e] }
      { result, sheet := sheet', actions := [s'.publishProperty e] } :=
  ⟨rfl, settled, congrArg (fun ls => [Sum.inr (ls, Event.property e)]) h.propertyListeners⟩

theorem data? (k : String) : s'.data? k = s.data? k := by rw [Sheet.data?, Sheet.data?, h.userData]

theorem withUserData (userData : Option UserData) :
    Sheet.Matches hidden { s with userData } { s' with userData } :=
  ⟨h.stack, h.title, rfl, h.viewport, h.disposed, h.stackListeners, h.propertyListeners,
    h.viewportListeners⟩

theorem setTitle (title : String) : (s.setTitle title).Matches hidden (s'.setTitle title) := by
  have settled : Sheet.Matches hidden { s with title := some title } { s' with title := some title } :=
    ⟨h.stack, rfl, h.userData, h.viewport, h.disposed, h.stackListeners, h.propertyListeners,
      h.viewportListeners⟩
  refine h.whenLive ?_
  rw [h.title]
  exact h.toldProperty settled _ _

theorem putData (k : String) (v : Json) : (s.putData k v).Matches hidden (s'.putData k v) := by
  refine h.whenLive ?_
  rw [h.data?, h.userData]
  exact h.toldProperty (h.withUserData _) _ _

theorem removeData (k : String) : (s.removeData k).Matches hidden (s'.removeData k) := by
  refine h.whenLive ?_
  rw [h.data?]
  cases s.data? k with
  | none => exact h.still _
  | some old =>
    rw [h.userData]
    exact h.toldProperty (h.withUserData _) _ _

theorem extendData (entries : List (String × Json)) :
    (s.extendData entries).Matches hidden (s'.extendData entries) := by
  refine h.whenLive ?_
  rw [h.userData]
  exact h.toldProperty (h.withUserData _) _ _

theorem clearData : s.clearData.Matches hidden s'.clearData := by
  refine h.whenLive ?_
  rw [h.userData]
  exact h.toldProperty (h.withUserData _) _ _

theorem updateViewport (update : Viewport → Viewport) :
    (s.updateViewport update).Matches hidden (s'.updateViewport update) := by
  have current : s'.currentViewport = s.currentViewport := by
    rw [currentViewport, currentViewport, h.viewport]
  refine h.whenLive ?_
  rw [current]
  by_cases same : update s.currentViewport == s.currentViewport
  · simp only [same, if_true]
    exact h.still _
  · simp only [same]
    refine ⟨rfl, ⟨h.stack, h.title, h.userData, rfl, h.disposed, h.stackListeners,
      h.propertyListeners, h.viewportListeners⟩, ?_⟩
    have told (e : ViewportEvent) :
        (s'.publishViewport e).gist hidden = (s.publishViewport e).gist hidden :=
      congrArg (fun ls => some (Sum.inr (ls, Event.viewport e))) h.viewportListeners
    show gists hidden (List.map _ _) = gists hidden (List.map _ _)
    rw [gists, gists, List.filterMap_map, List.filterMap_map]
    exact List.filterMap_congr fun part _ => told _

end Matches

/-! ## Listeners come and go -/

/-- Relays apart, the step comes to this sheet and this result, and nothing shows of it. -/
structure Settles (hidden : ListenerRef → Bool) (step : Step ρ) (sheet : Sheet) (result : ρ) :
    Prop where
  result : step.result = result
  sheet : sheet.Matches hidden step.sheet
  actions : gists hidden step.actions = []

theorem settles_still (s : Sheet) (result : ρ) : Settles hidden (.still s result) s result :=
  ⟨rfl, .refl s, rfl⟩

theorem gists_relaying {subscription : LayerHandle → Action}
    (veiled : ∀ l, (subscription l).gist hidden = none) (ls : List LayerHandle) (n : Notice) :
    gists hidden (ls.map subscription ++ [.note n]) = [] := by
  rw [gists_append, gists_map ls veiled]
  rfl

theorem settles_startRelay (s : Sheet) : Settles hidden s.startRelay s true := by
  rw [startRelay]
  cases s.relay with
  | none => exact ⟨rfl, ⟨rfl, rfl, rfl, rfl, rfl, rfl, rfl, rfl⟩, gists_relaying (fun _ => rfl) _ _⟩
  | some n => exact ⟨rfl, .refl s, gists_relaying (fun _ => rfl) _ _⟩

theorem settles_stopRelay (s : Sheet) : Settles hidden s.stopRelay s true := by
  rw [stopRelay]
  cases s.relay with
  | none => exact settles_still s true
  | some n => exact ⟨rfl, ⟨rfl, rfl, rfl, rfl, rfl, rfl, rfl, rfl⟩, gists_relaying (fun _ => rfl) _ _⟩

/-- A roster as a registration leaves it, and whether it changed. -/
def enroll (s : Sheet) (roster : Roster ListenerRef) (l : ListenerRef) : Bool × Roster ListenerRef :=
  if s.disposed then (false, roster) else roster.add l

theorem settles_listenToStack (s : Sheet) (l : ListenerRef) :
    Settles hidden (s.listenToStack l) { s with stackListeners := (s.enroll s.stackListeners l).2 }
      (s.enroll s.stackListeners l).1 := by
  rw [listenToStack, enroll]
  split
  · exact settles_still s false
  · by_cases there : l ∈ s.stackListeners.toList
    · rw [Roster.add_of_mem _ _ there]
      exact settles_still s false
    · obtain ⟨grown, added, -⟩ := Roster.add_of_not_mem _ _ there
      simp only [added]
      split
      · exact settles_startRelay _
      · exact settles_still _ true

theorem settles_unlistenToStack (s : Sheet) (l : ListenerRef) :
    Settles hidden (s.unlistenToStack l)
      { s with stackListeners := (s.stackListeners.remove l).2 } (s.stackListeners.remove l).1 := by
  rw [unlistenToStack]
  by_cases there : l ∈ s.stackListeners.toList
  · obtain ⟨rest, removed, -⟩ := Roster.remove_of_mem _ _ there
    simp only [removed]
    split
    · exact settles_stopRelay _
    · exact settles_still _ true
  · rw [Roster.remove_of_not_mem _ _ there]
    exact settles_still s false

theorem settles_listenToProperties (s : Sheet) (l : ListenerRef) :
    Settles hidden (s.listenToProperties l)
      { s with propertyListeners := (s.enroll s.propertyListeners l).2 }
      (s.enroll s.propertyListeners l).1 := by
  rw [listenToProperties, enroll]
  split
  · exact settles_still s false
  · exact settles_still _ _

theorem settles_listenToViewport (s : Sheet) (l : ListenerRef) :
    Settles hidden (s.listenToViewport l)
      { s with viewportListeners := (s.enroll s.viewportListeners l).2 }
      (s.enroll s.viewportListeners l).1 := by
  rw [listenToViewport, enroll]
  split
  · exact settles_still s false
  · exact settles_still _ _

theorem Settles.step_matches {step step' : Step ρ} {result result' : ρ} (h : s.Matches hidden s')
    (same : result' = result) (settles : Settles hidden step s result)
    (settles' : Settles hidden step' s' result') : step.Matches hidden step' := by
  subst same
  exact ⟨settles'.result.trans settles.result.symm,
    settles.sheet.symm.trans (h.trans settles'.sheet), settles'.actions.trans settles.actions.symm⟩

section
variable {l : ListenerRef} {roster roster' : Roster ListenerRef}

theorem Matches.enroll (h : s.Matches hidden s') (same : roster'.shown hidden = roster.shown hidden)
    (in_sight : hidden l = false) :
    (s'.enroll roster' l).1 = (s.enroll roster l).1 ∧
      (s'.enroll roster' l).2.shown hidden = (s.enroll roster l).2.shown hidden := by
  rw [Sheet.enroll, Sheet.enroll, h.disposed]
  split
  · exact ⟨rfl, same⟩
  · exact Roster.shown_add same in_sight

theorem shown_enroll_hidden (s : Sheet) (roster : Roster ListenerRef) (hides : hidden l = true) :
    (s.enroll roster l).2.shown hidden = roster.shown hidden := by
  rw [enroll]
  split
  · rfl
  · exact Roster.shown_add_hidden hides

theorem Matches.withStackListeners (h : s.Matches hidden s')
    (same : roster'.shown hidden = roster.shown hidden) :
    Sheet.Matches hidden { s with stackListeners := roster } { s' with stackListeners := roster' } :=
  ⟨h.stack, h.title, h.userData, h.viewport, h.disposed, same, h.propertyListeners,
    h.viewportListeners⟩

theorem Matches.withPropertyListeners (h : s.Matches hidden s')
    (same : roster'.shown hidden = roster.shown hidden) :
    Sheet.Matches hidden { s with propertyListeners := roster }
      { s' with propertyListeners := roster' } :=
  ⟨h.stack, h.title, h.userData, h.viewport, h.disposed, h.stackListeners, same,
    h.viewportListeners⟩

theorem Matches.withViewportListeners (h : s.Matches hidden s')
    (same : roster'.shown hidden = roster.shown hidden) :
    Sheet.Matches hidden { s with viewportListeners := roster }
      { s' with viewportListeners := roster' } :=
  ⟨h.stack, h.title, h.userData, h.viewport, h.disposed, h.stackListeners, h.propertyListeners,
    same⟩

end

end Sheet

/-! ## Commands -/

/-- The listener that comes or goes. -/
def SheetCommand.listener? : SheetCommand → Option ListenerRef
  | listenToStack l | unlistenToStack l | listenToProperties l | unlistenToProperties l
  | listenToViewport l | unlistenToViewport l => some l
  | _ => none

/-- A hidden listener comes or goes. -/
def SheetCommand.isVeiled (hidden : ListenerRef → Bool) (c : SheetCommand) : Bool :=
  c.listener?.any hidden

namespace Sheet

variable {s s' : Sheet} {c : SheetCommand}

/-- What is done in sight is done to both sheets alike. -/
theorem Matches.step (h : s.Matches hidden s') (seen : c.isVeiled hidden = false) :
    (c.step s).Matches hidden (c.step s') := by
  cases c with
  | add l => exact (h.add l).map _
  | insert i l => exact (h.insert i l).map _
  | addAll ls => exact (h.addAll ls).map _
  | remove id => exact (h.remove id).map _
  | removeAt i => exact (h.removeAt i).map _
  | removeAll ids => exact (h.removeIf _).map _
  | retain ids => exact (h.removeIf _).map _
  | swap a b => exact (h.swap a b).map _
  | clear => exact h.clear.map _
  | dispose => exact h.dispose.map fun _ => Reply.done
  | setTitle title => exact (h.setTitle title).map _
  | putData k v => exact (h.putData k v).map _
  | removeData k => exact (h.removeData k).map _
  | extendData entries => exact (h.extendData entries).map _
  | clearData => exact h.clearData.map _
  | setViewport v => exact (h.updateViewport _).map _
  | setCrs crs => exact (h.updateViewport _).map _
  | setBounds bounds => exact (h.updateViewport _).map _
  | listenToStack l =>
    obtain ⟨same, shown⟩ := h.enroll h.stackListeners seen
    exact (Settles.step_matches (h.withStackListeners shown) same
      (s.settles_listenToStack l) (s'.settles_listenToStack l)).map _
  | unlistenToStack l =>
    obtain ⟨same, shown⟩ := Roster.shown_remove h.stackListeners seen
    exact (Settles.step_matches (h.withStackListeners shown) same
      (s.settles_unlistenToStack l) (s'.settles_unlistenToStack l)).map _
  | listenToProperties l =>
    obtain ⟨same, shown⟩ := h.enroll h.propertyListeners seen
    exact (Settles.step_matches (h.withPropertyListeners shown) same
      (s.settles_listenToProperties l) (s'.settles_listenToProperties l)).map _
  | unlistenToProperties l =>
    obtain ⟨same, shown⟩ := Roster.shown_remove h.propertyListeners seen
    exact (Settles.step_matches (h.withPropertyListeners shown) same
      (settles_still _ _) (settles_still _ _)).map _
  | listenToViewport l =>
    obtain ⟨same, shown⟩ := h.enroll h.viewportListeners seen
    exact (Settles.step_matches (h.withViewportListeners shown) same
      (s.settles_listenToViewport l) (s'.settles_listenToViewport l)).map _
  | unlistenToViewport l =>
    obtain ⟨same, shown⟩ := Roster.shown_remove h.viewportListeners seen
    exact (Settles.step_matches (h.withViewportListeners shown) same
      (settles_still _ _) (settles_still _ _)).map _

/-- What is done behind the veil does not show. -/
theorem matches_step_of_veiled (s : Sheet) (veiled : c.isVeiled hidden = true) :
    s.Matches hidden (c.step s).sheet ∧ gists hidden (c.step s).actions = [] := by
  have here : s.Matches hidden s := .refl s
  cases c with
  | listenToStack l =>
    have settles : Settles hidden (s.listenToStack l) _ _ := s.settles_listenToStack l
    have shown := s.shown_enroll_hidden s.stackListeners veiled
    exact ⟨(here.withStackListeners shown).trans settles.sheet, settles.actions⟩
  | unlistenToStack l =>
    have settles : Settles hidden (s.unlistenToStack l) _ _ := s.settles_unlistenToStack l
    have shown := Roster.shown_remove_hidden (r := s.stackListeners) veiled
    exact ⟨(here.withStackListeners shown).trans settles.sheet, settles.actions⟩
  | listenToProperties l =>
    have settles : Settles hidden (s.listenToProperties l) _ _ := s.settles_listenToProperties l
    have shown := s.shown_enroll_hidden s.propertyListeners veiled
    exact ⟨(here.withPropertyListeners shown).trans settles.sheet, settles.actions⟩
  | unlistenToProperties l =>
    exact ⟨here.withPropertyListeners (Roster.shown_remove_hidden veiled), rfl⟩
  | listenToViewport l =>
    have settles : Settles hidden (s.listenToViewport l) _ _ := s.settles_listenToViewport l
    have shown := s.shown_enroll_hidden s.viewportListeners veiled
    exact ⟨(here.withViewportListeners shown).trans settles.sheet, settles.actions⟩
  | unlistenToViewport l =>
    exact ⟨here.withViewportListeners (Roster.shown_remove_hidden veiled), rfl⟩
  | _ => exact absurd veiled Bool.false_ne_true

end Sheet
end LayeredMap
