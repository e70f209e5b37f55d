import LayeredMap.Proofs.Copy
import LayeredMap.Proofs.Roster
import LayeredMap.World.Command

/-!
# What a step of a sheet can do

The operations on a sheet come to a few kinds of transition. Layers come in,
layers go out, all of it ends, the roster of those who listen to the stack
changes, or nothing that concerns the stack happens. Each transition says which
actions go along, and the events of those that change the stack describe the
change. No transition lets layers in and out at once.
-/

namespace LayeredMap

/-- Neither layers nor those who listen to the stack notice it. -/
inductive Action.Aside : Action → Prop
  | note (n : Notice) : Aside (.note n)
  | property (roster : Roster ListenerRef) (e : PropertyEvent) :
      Aside (.publish roster (.property e))
  | viewport (roster : Roster ListenerRef) (e : ViewportEvent) :
      Aside (.publish roster (.viewport e))

/-- What an operation brings along: layers, listeners to the stack that come or go, and whether it
may be the last one. -/
structure Offer where
  layers : List LayerHandle := []
  joining : Option ListenerRef := none
  quitting : Option ListenerRef := none
  last : Bool := false

def SheetCommand.offer : SheetCommand → Offer
  | add l | insert _ l => { layers := [l] }
  | addAll ls => { layers := ls }
  | listenToStack l => { joining := some l }
  | unlistenToStack l => { quitting := some l }
  | _ => {}

/-- Nobody comes on a roster or goes from it without having asked for it. -/
structure Offer.Heeded (offer : Offer) (old new : Roster ListenerRef) : Prop where
  joins : ∀ l ∈ new.toList, l ∈ old.toList ∨ offer.joining = some l
  stays : ∀ l ∈ old.toList, l ∈ new.toList ∨ offer.quitting = some l
  listed : new.toList.Nodup

namespace Sheet

/-- The same stack, heard by the same listeners through the same relay. -/
structure Alike (s s' : Sheet) : Prop where
  stack : s'.stack = s.stack
  stackListeners : s'.stackListeners = s.stackListeners
  relay : s'.relay = s.relay
  relaysMade : s'.relaysMade = s.relaysMade
  disposed : s'.disposed = s.disposed

theorem Alike.refl (s : Sheet) : s.Alike s := ⟨rfl, rfl, rfl, rfl, rfl⟩

theorem Alike.symm {s s' : Sheet} (h : s.Alike s') : s'.Alike s :=
  ⟨h.stack.symm, h.stackListeners.symm, h.relay.symm, h.relaysMade.symm, h.disposed.symm⟩

theorem Alike.trans {s s' s'' : Sheet} (h : s.Alike s') (h' : s'.Alike s'') : s.Alike s'' :=
  ⟨h'.stack.trans h.stack, h'.stackListeners.trans h.stackListeners, h'.relay.trans h.relay,
    h'.relaysMade.trans h.relaysMade, h'.disposed.trans h.disposed⟩

theorem Alike.layers_eq {s s' : Sheet} (h : s.Alike s') : s'.layers = s.layers :=
  congrArg Stack.layers h.stack

structure Sound (s : Sheet) : Prop where
  distinct : Distinct s.layers
  listed : s.stackListeners.toList.Nodup
  /-- There is a relay while somebody listens, and only then. -/
  listening : s.relay = none ↔ s.stackListeners.toList = []
  ended : s.disposed = true → s.layers = [] ∧ s.stackListeners.toList = []

inductive Transition (offer : Offer) (s : Sheet) : Sheet → List Action → Prop
  | aside {s' : Sheet} {actions : List Action} (alike : s.Alike s')
      (unheard : ∀ a ∈ actions, a.Aside) : Transition offer s s' actions
  | gain {stack : Stack} {ls : List LayerHandle} {n : Notice} {e : StackEvent}
      (live : s.disposed = false) (offered : ∀ l ∈ ls, l ∈ offer.layers)
      (grows : stack.layers.Perm (s.layers ++ ls)) (distinct : Distinct stack.layers)
      (describes : e.Describes s.layers stack.layers) :
      Transition offer s { s with stack } (ls.flatMap s.entering ++ [.note n, s.publishStack e])
  | lose {stack : Stack} {ls : List LayerHandle} {n : Notice} {e : StackEvent}
      (live : s.disposed = false) (shrinks : s.layers.Perm (ls ++ stack.layers))
      (describes : e.Describes s.layers stack.layers) :
      Transition offer s { s with stack } (ls.flatMap s.leaving ++ [.note n, s.publishStack e])
  | finish (live : s.disposed = false) (n : Notice) :
      Transition offer s { relaysMade := s.relaysMade, disposed := true }
        (s.allLeaving ++ .note n ::
          if s.layerCount = 0 then [] else [s.publishStack (.removed none .all)])
  | abandon (last : offer.last = true) (n : Notice) :
      Transition offer s { s with stack := {} } (.note n :: s.allLeaving)
  | relist {roster : Roster ListenerRef} (live : s.disposed = false)
      (listening : s.relay ≠ none) (heard : roster.toList ≠ [])
      (heeded : offer.Heeded s.stackListeners roster) :
      Transition offer s { s with stackListeners := roster } []
  | start {roster : Roster ListenerRef} {n : Notice} (live : s.disposed = false)
      (idle : s.relay = none) (heard : roster.toList ≠ [])
      (heeded : offer.Heeded s.stackListeners roster) :
      Transition offer s
        { s with
          stackListeners := roster
          relay := some s.relaysMade
          relaysMade := s.relaysMade + 1 }
        (s.layers.map (.subscribe · s.relaysMade) ++ [.note n])
  | stop {roster : Roster ListenerRef} {k : Nat} {n : Notice} (listening : s.relay = some k)
      (deserted : roster.toList = []) (heeded : offer.Heeded s.stackListeners roster) :
      Transition offer s { s with stackListeners := roster, relay := none }
        (s.layers.map (.unsubscribe · k) ++ [.note n])

variable {offer : Offer} {s s' : Sheet} {actions : List Action}

/-- Layers that come in are at most subscribed to. -/
theorem mem_entering {ls : List LayerHandle} {a : Action} (ha : a ∈ ls.flatMap s.entering) :
    ∃ l k, a = .subscribe l k := by
  obtain ⟨l, -, ha⟩ := List.mem_flatMap.mp ha
  rw [entering] at ha
  cases hr : s.relay with
  | none => simp [hr] at ha
  | some k =>
    rw [hr] at ha
    exact ⟨l, k, List.mem_singleton.mp ha⟩

/-- Layers that go out are at most unsubscribed from and disposed of. -/
theorem mem_leaving {ls : List LayerHandle} {a : Action} (ha : a ∈ ls.flatMap s.leaving) :
    (∃ l k, a = .unsubscribe l k) ∨ ∃ l, a = .dispose l := by
  obtain ⟨l, -, ha⟩ := List.mem_flatMap.mp ha
  rw [leaving] at ha
  cases hr : s.relay with
  | none =>
    rw [hr] at ha
    exact Or.inr ⟨l, List.mem_singleton.mp ha⟩
  | some k =>
    rw [hr] at ha
    rcases List.mem_pair.mp ha with first | second
    · exact Or.inl ⟨l, k, first⟩
    · exact Or.inr ⟨l, second⟩

theorem Transition.quiet (alike : s.Alike s') : Transition offer s s' [] :=
  .aside alike (by simp)

theorem Transition.still (s : Sheet) : Transition offer s s [] := .quiet (.refl s)

/-! ## Invariance -/

theorem Alike.sound (h : s.Sound) (alike : s.Alike s') : s'.Sound := by
  obtain ⟨hstack, hroster, hrelay, -, hdisposed⟩ := alike
  refine ⟨?_, ?_, ?_, ?_⟩
  · rw [layers, hstack]
    exact h.distinct
  · rw [hroster]
    exact h.listed
  · rw [hrelay, hroster]
    exact h.listening
  · rw [hdisposed, layers, hstack, hroster]
    exact h.ended

/-- A live sheet with the same listeners is sound if its layers are distinct. -/
theorem Sound.withStack (h : s.Sound) {stack : Stack} (distinct : Distinct stack.layers)
    (vacant : s.disposed = true → stack.layers = []) : ({ s with stack } : Sheet).Sound :=
  ⟨distinct, h.listed, h.listening, fun ended => ⟨vacant ended, (h.ended ended).2⟩⟩

theorem distinct_nil : Distinct [] := List.nodup_nil

theorem Transition.sound (h : s.Sound) (t : Transition offer s s' actions) : s'.Sound := by
  cases t with
  | aside alike _ => exact alike.sound h
  | gain live _ _ distinct _ =>
    exact h.withStack distinct fun ended => absurd ended (by simp [live])
  | lose live shrinks _ =>
    have distinct := (h.distinct.perm shrinks).sublist (List.sublist_append_right _ _)
    exact h.withStack distinct fun ended => absurd ended (by simp [live])
  | finish live n =>
    exact ⟨distinct_nil, List.nodup_nil, ⟨fun _ => rfl, fun _ => rfl⟩, fun _ => ⟨rfl, rfl⟩⟩
  | abandon _ n => exact h.withStack distinct_nil fun _ => rfl
  | relist live listening heard heeded =>
    refine ⟨h.distinct, heeded.listed, ?_, fun ended => absurd ended (by simp [live])⟩
    constructor
    · intro idle
      exact absurd idle listening
    · intro deserted
      exact absurd deserted heard
  | start live idle heard heeded =>
    refine ⟨h.distinct, heeded.listed, ?_, fun ended => absurd ended (by simp [live])⟩
    constructor
    · intro silent
      exact absurd silent (Option.some_ne_none _)
    · intro deserted
      exact absurd deserted heard
  | stop listening deserted heeded =>
    refine ⟨h.distinct, heeded.listed, by simp [deserted], ?_⟩
    intro ended
    exact ⟨(h.ended ended).1, deserted⟩

/-- A member was one before or has just been offered. -/
theorem Transition.mem_layers (t : Transition offer s s' actions) {l : LayerHandle}
    (h : l ∈ s'.layers) : l ∈ s.layers ∨ l ∈ offer.layers := by
  cases t with
  | aside alike _ => exact Or.inl (alike.layers_eq ▸ h)
  | gain _ offered grows _ _ =>
    exact (List.mem_append.mp (grows.mem_iff.mp h)).imp id (offered l)
  | lose _ shrinks _ => exact Or.inl (shrinks.mem_iff.mpr (List.mem_append_right _ h))
  | finish | abandon => exact absurd h List.not_mem_nil
  | relist | start | stop => exact Or.inl h

/-- Who listens afterwards listened before or has just come. -/
theorem Transition.joins (t : Transition offer s s' actions) {l : ListenerRef}
    (h : l ∈ s'.stackListeners.toList) :
    l ∈ s.stackListeners.toList ∨ offer.joining = some l := by
  cases t with
  | aside alike _ => exact Or.inl (alike.stackListeners ▸ h)
  | gain | lose | abandon => exact Or.inl h
  | finish => exact absurd h List.not_mem_nil
  | relist _ _ _ heeded => exact heeded.joins l h
  | start _ _ _ heeded => exact heeded.joins l h
  | stop _ _ heeded => exact heeded.joins l h

/-- Who listened still does, unless he has just gone or the sheet has ended. -/
theorem Transition.stays (t : Transition offer s s' actions) (live : s'.disposed = false)
    {l : ListenerRef} (h : l ∈ s.stackListeners.toList) :
    l ∈ s'.stackListeners.toList ∨ offer.quitting = some l := by
  cases t with
  | aside alike _ => exact Or.inl (alike.stackListeners.symm ▸ h)
  | gain | lose | abandon => exact Or.inl h
  | finish => exact absurd live.symm Bool.false_ne_true
  | relist _ _ _ heeded => exact heeded.stays l h
  | start _ _ _ heeded => exact heeded.stays l h
  | stop _ _ heeded => exact heeded.stays l h

/-! ## Operations -/

theorem whenLive_of_live {ρ : Type} (live : s.disposed = false) (step : Step (Except Failure ρ)) :
    s.whenLive step = step :=
  if_neg (Bool.eq_false_iff.mp live)

theorem transition_whenLive {ρ : Type} {step : Step (Except Failure ρ)}
    (h : s.disposed = false → Transition offer s step.sheet step.actions) :
    Transition offer s (s.whenLive step).sheet (s.whenLive step).actions := by
  rw [whenLive]
  cases live : s.disposed with
  | true => exact .still s
  | false => exact h live

theorem Transition.gain_one {stack : Stack} {l : LayerHandle} {n : Notice} {e : StackEvent}
    (live : s.disposed = false) (grows : stack.layers.Perm (l :: s.layers))
    (distinct : Distinct stack.layers) (describes : e.Describes s.layers stack.layers) :
    Transition { layers := [l] } s { s with stack } (s.entering l ++ [.note n, s.publishStack e]) := by
  have one : [l].flatMap s.entering = s.entering l := List.flatMap_singleton s.entering l
  rw [← one]
  exact .gain live (fun m hm => hm) (grows.trans (List.perm_append_singleton l s.layers).symm)
    distinct describes

theorem transition_add (h : s.Sound) (l : LayerHandle) :
    Transition { layers := [l] } s (s.add l).sheet (s.add l).actions := by
  refine transition_whenLive fun live => ?_
  cases known : s.stack.contains l.id with
  | true =>
    rw [Stack.push_of_known known]
    exact .still s
  | false =>
    have grows := List.perm_append_singleton l s.layers
    have describes := describes_added_single (some l) l (Nat.le_refl s.layers.length)
    rw [List.insertIdx_length_self] at describes
    rw [Stack.push_of_new known]
    exact .gain_one live grows (Stack.distinct_of_new h.distinct known grows) describes

theorem transition_insert (h : s.Sound) (i : Nat) (l : LayerHandle) :
    Transition { layers := [l] } s (s.insert i l).sheet (s.insert i l).actions := by
  refine transition_whenLive fun live => ?_
  by_cases outside : s.layerCount < i
  · rw [if_pos outside]
    exact .still s
  · rw [if_neg outside]
    have inside : i ≤ s.layers.length := Nat.le_of_not_lt outside
    cases known : s.stack.contains l.id with
    | true =>
      rw [Stack.insert_of_known known]
      exact .still s
    | false =>
      have grows := List.perm_insertIdx l s.layers inside
      rw [Stack.insert_of_new inside known]
      exact .gain_one live grows (Stack.distinct_of_new h.distinct known grows)
        (describes_added_single (some l) l inside)

theorem transition_addAll (h : s.Sound) (ls : List LayerHandle) :
    Transition { layers := ls } s (s.addAll ls).sheet (s.addAll ls).actions := by
  refine transition_whenLive fun live => ?_
  have grows : (pushAll s.stack ls).1.layers = s.layers ++ _ := layers_pushAll s.stack ls
  have offered : ∀ l ∈ (pushAll s.stack ls).2, l ∈ ls := fun l hl =>
    (pushAll_sublist s.stack ls).subset hl
  cases new : (pushAll s.stack ls).2 with
  | nil =>
    simp only [new, List.isEmpty_nil, if_true]
    exact .still s
  | cons l rest =>
    have some_new : (pushAll s.stack ls).2 ≠ [] := by simp [new]
    have describes : (StackEvent.added none (.span s.layers.length
        (s.layers.length + (pushAll s.stack ls).2.length - 1))).Describes s.layers
        (pushAll s.stack ls).1.layers :=
      grows ▸ describes_added_batch none some_new
    simp only [List.isEmpty_eq_false_iff.mpr some_new, Bool.false_eq_true, if_false]
    exact .gain live offered (List.Perm.of_eq grows) (distinct_pushAll h.distinct ls) describes

/-- One layer leaves its index. -/
theorem transition_removed {l : LayerHandle} {i : Nat} (live : s.disposed = false)
    (hi : s.stack.get? i = some l) :
    Transition offer s { s with stack := { layers := s.layers.eraseIdx i } } (s.removed l i) := by
  have one : [l].flatMap s.leaving = s.leaving l := List.flatMap_singleton s.leaving l
  rw [removed, ← one]
  exact .lose live (Stack.perm_cons_eraseIdx hi) (describes_removed_single l s.layers i)

theorem transition_remove (s : Sheet) (id : LayerId) :
    Transition offer s (s.remove id).sheet (s.remove id).actions := by
  refine transition_whenLive fun live => ?_
  cases hi : s.stack.indexOf? id with
  | none => exact .still s
  | some i =>
    obtain ⟨l, hl, -⟩ := Stack.get?_of_indexOf? hi
    simp only [Stack.removeAt_eq hl]
    exact transition_removed live hl

theorem transition_removeAt (s : Sheet) (i : Nat) :
    Transition offer s (s.removeAt i).sheet (s.removeAt i).actions := by
  refine transition_whenLive fun live => ?_
  cases hl : s.stack.get? i with
  | none =>
    simp only [Stack.removeAt, hl]
    exact .still s
  | some l =>
    rw [Stack.removeAt_eq hl]
    exact transition_removed live hl

theorem transition_removeIf (h : s.Sound) (doomed : LayerHandle → Bool) :
    Transition offer s (s.removeIf doomed).sheet (s.removeIf doomed).actions := by
  refine transition_whenLive fun live => ?_
  cases hfirst : (s.stack.positions doomed).head? with
  | none =>
    simp only [hfirst]
    exact .still s
  | some first =>
    cases hlast : (s.stack.positions doomed).getLast? with
    | none =>
      simp only [hfirst, hlast]
      exact .still s
    | some last =>
      simp only [hfirst, hlast]
      have range : ∀ i l, s.layers[i]? = some l → doomed l = true → first ≤ i ∧ i ≤ last := by
        intro i l hl gone
        have hi : i ∈ s.stack.positions doomed := Stack.mem_positions.mpr ⟨l, hl, gone⟩
        exact ⟨Stack.head?_positions_le hfirst hi, Stack.le_getLast?_positions hlast hi⟩
      have rest : (s.stack.retain (!doomed ·)).layers = s.layers.filter (!doomed ·) :=
        Stack.layers_retain s.stack (!doomed ·)
      refine .lose live ?_ ?_
      · rw [rest]
        exact (List.filter_append_perm doomed s.layers).symm
      · rw [rest]
        exact describes_removed_batch h.distinct doomed range

/-- The layer that comes to stand later is the one that is named. -/
theorem transition_moved (h : s.Sound) (live : s.disposed = false) {i j : Nat} {l m : LayerHandle}
    (n : Notice) (hi : s.layers[i]? = some l) (hj : s.layers[j]? = some m) :
    Transition offer s { s with stack := { layers := (s.layers.set i m).set j l } }
      [.note n, s.publishStack (.moved l j)] := by
  have same := Stack.perm_set_set hi hj
  have grows : ((s.layers.set i m).set j l).Perm (s.layers ++ []) := by
    rw [List.append_nil]
    exact same
  exact .gain live (fun m hm => absurd hm List.not_mem_nil) grows (h.distinct.perm same.symm)
    (describes_moved h.distinct hi hj)

theorem transition_swap (h : s.Sound) (a b : Nat) :
    Transition offer s (s.swap a b).sheet (s.swap a b).actions := by
  refine transition_whenLive fun live => ?_
  cases hout : [a, b].find? (s.layerCount ≤ ·) with
  | some i => exact .still s
  | none =>
    by_cases same : a = b
    · simp only [same, if_true]
      exact .still s
    · simp only [same, if_false]
      obtain ⟨ha, hb⟩ := inside_of_not_refused hout
      obtain ⟨i, l, m, hl, hm, swapped, named⟩ := Stack.swap_later same ha hb
      rw [named, swapped]
      exact transition_moved h live _ hl hm

theorem transition_clear (s : Sheet) : Transition offer s s.clear.sheet s.clear.actions :=
  transition_whenLive fun live =>
    .lose live (List.Perm.of_eq (List.append_nil s.layers).symm) (describes_removed_all none s.layers)

theorem transition_dispose (s : Sheet) : Transition offer s s.dispose.sheet s.dispose.actions := by
  rw [dispose]
  cases live : s.disposed with
  | true => exact .still s
  | false => exact .finish live _

theorem transition_drop (s : Sheet) (last : offer.last = true) :
    Transition offer s s.drop.sheet s.drop.actions := by
  rw [drop]
  split
  · exact .still s
  · exact .abandon last _

theorem heeded_add {roster : Roster ListenerRef} (h : roster.toList.Nodup) (l : ListenerRef) :
    ({ joining := some l } : Offer).Heeded roster (roster.add l).2 := by
  refine ⟨?_, ?_, Roster.nodup_toList_add roster l h⟩
  · intro m hm
    rw [Roster.mem_add] at hm
    exact hm.imp id fun same => congrArg some same.symm
  · intro m hm
    exact Or.inl ((Roster.mem_add roster l).mpr (Or.inl hm))

theorem heeded_remove {roster : Roster ListenerRef} (h : roster.toList.Nodup) (l : ListenerRef) :
    ({ quitting := some l } : Offer).Heeded roster (roster.remove l).2 := by
  refine ⟨?_, ?_, Roster.nodup_toList_remove roster l h⟩
  · intro m hm
    exact Or.inl ((Roster.mem_remove roster l).mp hm).1
  · intro m hm
    by_cases same : m = l
    · exact Or.inr (congrArg some same.symm)
    · exact Or.inl ((Roster.mem_remove roster l).mpr ⟨hm, same⟩)

theorem transition_listenToStack (h : s.Sound) (l : ListenerRef) :
    Transition { joining := some l } s (s.listenToStack l).sheet (s.listenToStack l).actions := by
  rw [listenToStack]
  by_cases ended : s.disposed = true
  · rw [if_pos ended]
    exact .still s
  · rw [if_neg ended]
    have live : s.disposed = false := Bool.eq_false_iff.mpr ended
    by_cases known : l ∈ s.stackListeners.toList
    · rw [Roster.add_of_mem _ l known]
      exact .still s
    · obtain ⟨grown, hadd, hgrown⟩ := Roster.add_of_not_mem _ l known
      have heeded := heeded_add h.listed l
      have heard : grown.toList ≠ [] := by simp [hgrown]
      rw [hadd] at heeded ⊢
      by_cases first : grown.size = 1
      · have idle : s.relay = none := h.listening.mpr (by simpa [Roster.size, hgrown] using first)
        simp only [first, if_true, startRelay, idle]
        exact .start live idle heard heeded
      · have listening : s.relay ≠ none := fun idle =>
          first (by simp [Roster.size, hgrown, h.listening.mp idle])
        simp only [first, if_false]
        exact .relist live listening heard heeded

theorem transition_unlistenToStack (h : s.Sound) (l : ListenerRef) :
    Transition { quitting := some l } s (s.unlistenToStack l).sheet (s.unlistenToStack l).actions := by
  rw [unlistenToStack]
  by_cases known : l ∈ s.stackListeners.toList
  · obtain ⟨rest, hremove, -⟩ := Roster.remove_of_mem _ l known
    have heeded := heeded_remove h.listed l
    have heard : s.stackListeners.toList ≠ [] := List.ne_nil_of_mem known
    have live : s.disposed = false :=
      Bool.eq_false_iff.mpr fun ended => heard (h.ended ended).2
    have listening : s.relay ≠ none := fun idle => heard (h.listening.mp idle)
    obtain ⟨k, hk⟩ := Option.ne_none_iff_exists'.mp listening
    rw [hremove] at heeded ⊢
    cases deserted : rest.isEmpty with
    | true =>
      simp only [deserted, if_true, stopRelay, hk]
      exact .stop hk (List.isEmpty_iff.mp deserted) heeded
    | false =>
      simp only [deserted]
      exact .relist live listening (List.isEmpty_eq_false_iff.mp deserted) heeded
  · rw [Roster.remove_of_not_mem _ l known]
    exact .still s

/-! ## Title, user data, viewport and their listeners -/

theorem transition_listenToProperties (s : Sheet) (l : ListenerRef) :
    Transition offer s (s.listenToProperties l).sheet (s.listenToProperties l).actions := by
  rw [listenToProperties]
  split
  · exact .still s
  · exact .quiet ⟨rfl, rfl, rfl, rfl, rfl⟩

theorem transition_listenToViewport (s : Sheet) (l : ListenerRef) :
    Transition offer s (s.listenToViewport l).sheet (s.listenToViewport l).actions := by
  rw [listenToViewport]
  split
  · exact .still s
  · exact .quiet ⟨rfl, rfl, rfl, rfl, rfl⟩

theorem transition_publishProperty {ρ : Type} {s' : Sheet} (result : Except Failure ρ)
    (e : PropertyEvent) (alike : s.Alike s') :
    Transition offer s
      (s.whenLive { result, sheet := s', actions := [s.publishProperty e] }).sheet
      (s.whenLive { result, sheet := s', actions := [s.publishProperty e] }).actions :=
  transition_whenLive fun _ => .aside alike fun a ha => by
    rw [List.mem_singleton.mp ha]
    exact .property _ e

theorem transition_removeData (s : Sheet) (k : String) :
    Transition offer s (s.removeData k).sheet (s.removeData k).actions := by
  cases held : s.data? k with
  | none =>
    refine transition_whenLive fun _ => ?_
    rw [held]
    exact .still s
  | some old =>
    rw [removeData, held]
    exact transition_publishProperty _ _ ⟨rfl, rfl, rfl, rfl, rfl⟩

theorem transition_updateViewport (s : Sheet) (update : Viewport → Viewport) :
    Transition offer s (s.updateViewport update).sheet (s.updateViewport update).actions := by
  refine transition_whenLive fun _ => ?_
  by_cases same : update s.currentViewport == s.currentViewport
  · simp only [same, if_true]
    exact .still s
  · simp only [same]
    refine .aside ⟨rfl, rfl, rfl, rfl, rfl⟩ ?_
    intro a ha
    obtain ⟨part, -, rfl⟩ := List.mem_map.mp ha
    exact .viewport _ _

/-! ## Every operation -/

theorem transition_step (h : s.Sound) (c : SheetCommand) :
    Transition c.offer s (c.step s).sheet (c.step s).actions := by
  cases c with
  | add l => exact transition_add h l
  | insert i l => exact transition_insert h i l
  | addAll ls => exact transition_addAll h ls
  | remove id => exact transition_remove s id
  | removeAt i => exact transition_removeAt s i
  | removeAll ids => exact transition_removeIf h _
  | retain ids => exact transition_removeIf h _
  | swap a b => exact transition_swap h a b
  | clear => exact transition_clear s
  | dispose => exact transition_dispose s
  | listenToStack l => exact transition_listenToStack h l
  | unlistenToStack l => exact transition_unlistenToStack h l
  | listenToProperties l => exact transition_listenToProperties s l
  | listenToViewport l => exact transition_listenToViewport s l
  | unlistenToProperties l => exact .quiet ⟨rfl, rfl, rfl, rfl, rfl⟩
  | unlistenToViewport l => exact .quiet ⟨rfl, rfl, rfl, rfl, rfl⟩
  | setTitle title => exact transition_publishProperty _ _ ⟨rfl, rfl, rfl, rfl, rfl⟩
  | putData k v => exact transition_publishProperty _ _ ⟨rfl, rfl, rfl, rfl, rfl⟩
  | removeData k => exact transition_removeData s k
  | extendData entries => exact transition_publishProperty _ _ ⟨rfl, rfl, rfl, rfl, rfl⟩
  | clearData => exact transition_publishProperty _ _ ⟨rfl, rfl, rfl, rfl, rfl⟩
  | setViewport v => exact transition_updateViewport s _
  | setCrs crs => exact transition_updateViewport s _
  | setBounds bounds => exact transition_updateViewport s _

end Sheet
end LayeredMap
