import LayeredMap.Proofs.Announcement
import LayeredMap.Proofs.Places
import LayeredMap.Proofs.Removal

/-!
# Indices that an operation relies on

An operation on the layers looks an index up, checks one that it is given or
counts one out, and relies on it from there on. Should nothing be there after
all, some of them would return without a word. None of them ever does: what was
found is there, what passed the check can be carried out, and what is counted
comes out. So no layer comes in, goes out or changes its place without the event
that says so, and every index that an event names is one of the stack.
-/

namespace LayeredMap

/-- The indices that the event names are those of layers: of the old ones if it tells what is gone,
of the new ones otherwise. -/
def StackEvent.Within (old new : List LayerHandle) : StackEvent → Prop
  | added _ (.span first last) => first ≤ last ∧ last < new.length
  | removed _ (.span first last) => first ≤ last ∧ last < old.length
  | added _ .all | removed _ .all => True
  | moved l i | changed l i _ => new[i]? = some l

section Announcements

variable {s : Sheet} {new : List LayerHandle} {op : SheetCommand} {reply : Reply}
  {events : List StackEvent}

theorem lt_length_of_getElem? {ls : List LayerHandle} {i : Nat} {l : LayerHandle}
    (h : ls[i]? = some l) : i < ls.length :=
  (List.getElem?_eq_some_iff.mp h).1

theorem Announces.within (h : Announces s new op reply events) :
    ∀ e ∈ events, e.Within s.layers new := by
  intro e he
  cases h with
  | added _ _ here | inserted _ _ _ here =>
    rw [List.mem_singleton.mp he]
    exact ⟨Nat.le_refl _, lt_length_of_getElem? here⟩
  | @batch _ _ first last _ some_new width here =>
    rw [List.mem_singleton.mp he]
    have ordered : first ≤ last := by omega
    obtain ⟨l, there, -⟩ := (here _).mp ⟨ordered, Nat.le_refl _⟩
    exact ⟨ordered, lt_length_of_getElem? there⟩
  | removed _ there | removedAt _ there =>
    rw [List.mem_singleton.mp he]
    exact ⟨Nat.le_refl _, lt_length_of_getElem? there⟩
  | thinned _ _ _ least greatest =>
    rw [List.mem_singleton.mp he]
    obtain ⟨l, there, -⟩ := greatest.1
    exact ⟨least.2 greatest.1, lt_length_of_getElem? there⟩
  | moved _ _ _ here =>
    rw [List.mem_singleton.mp he]
    exact here
  | cleared =>
    rw [List.mem_singleton.mp he]
    trivial
  | ended =>
    split at he
    · exact absurd he List.not_mem_nil
    · rw [List.mem_singleton.mp he]
      trivial
  | refused | declined => exact absurd he List.not_mem_nil

theorem Announces.length_le_one (h : Announces s new op reply events) : events.length ≤ 1 := by
  cases h with
  | ended => split <;> simp
  | _ => simp

end Announcements

namespace Sheet

variable {s s' : Sheet} {op : SheetCommand} {offer : Offer} {actions : List Action}

theorem layerCalls_aside (unheard : ∀ a ∈ actions, a.Aside) : layerCalls actions = [] := by
  refine List.filter_eq_nil_iff.mpr fun a ha => ?_
  cases unheard a ha <;> exact Bool.false_ne_true

/-- Without a word no layer comes, goes or moves. If nobody comes to listen or leaves, no call is
made on one either. -/
theorem Transition.untold (h : s.Sound) (t : Transition offer s s' actions)
    (mute : publications actions = []) (lasting : offer.last = false)
    (joining : offer.joining = none) (quitting : offer.quitting = none) :
    s'.layers = s.layers ∧ layerCalls actions = [] := by
  have spoken {first : List Action} {n : Notice} {e : StackEvent} :
      publications (first ++ [.note n, s.publishStack e]) ≠ [] := by
    rw [publications_append]
    exact List.append_ne_nil_of_right_ne_nil _ (List.cons_ne_nil _ _)
  cases t with
  | aside alike unheard => exact ⟨alike.layers_eq, layerCalls_aside unheard⟩
  | gain | lose => exact absurd mute spoken
  | finish live n =>
    by_cases vacant : s.layerCount = 0
    · have none_left : s.layers = [] := List.length_eq_zero_iff.mp vacant
      rw [if_pos vacant, allLeaving, none_left]
      exact ⟨rfl, rfl⟩
    · rw [if_neg vacant] at mute
      exact absurd mute spoken
  | abandon last => exact absurd (lasting.symm.trans last) Bool.false_ne_true
  | relist => exact ⟨rfl, rfl⟩
  | start _ idle heard heeded =>
    obtain ⟨l, hl⟩ := List.exists_mem_of_ne_nil _ heard
    rcases heeded.joins l hl with listed | comes
    · rw [h.listening.mp idle] at listed
      exact absurd listed List.not_mem_nil
    · exact absurd (joining.symm.trans comes) (Option.some_ne_none l).symm
  | @stop _ k _ listening deserted heeded =>
    have heard : s.stackListeners.toList ≠ [] := fun none_listed =>
      Option.some_ne_none k (listening.symm.trans (h.listening.mpr none_listed))
    obtain ⟨l, hl⟩ := List.exists_mem_of_ne_nil _ heard
    rcases heeded.stays l hl with listed | goes
    · rw [deserted] at listed
      exact absurd listed List.not_mem_nil
    · exact absurd (quitting.symm.trans goes) (Option.some_ne_none l).symm

/-- At most one event goes with an operation on the layers. It names indices of the stack, and
without one nothing is done to any layer. -/
theorem told_step (h : s.Sound) (onStack : op.onStack = true) :
    ∃ events, publications (op.step s).actions =
        events.map (fun e => (s.stackListeners, .stack e)) ∧ events.length ≤ 1 ∧
      (∀ e ∈ events, e.Within s.layers (op.step s).sheet.layers) ∧
      (events = [] → (op.step s).sheet.layers = s.layers ∧ layerCalls (op.step s).actions = []) := by
  obtain ⟨events, published, announces⟩ := announced_step h onStack
  refine ⟨events, published, announces.length_le_one, announces.within, fun silent => ?_⟩
  have mute : publications (op.step s).actions = [] := by
    rw [published, silent]
    rfl
  have joining : op.offer.joining = none := by
    cases op with
    | listenToStack => exact absurd onStack Bool.false_ne_true
    | _ => rfl
  have quitting : op.offer.quitting = none := by
    cases op with
    | unlistenToStack => exact absurd onStack Bool.false_ne_true
    | _ => rfl
  exact (transition_step h op).untold h mute (last_offer op) joining quitting

/-! ## What is relied on -/

/-- What an operation on the layers found, checked or counted holds when it goes on. -/
structure SureFooted (s : Sheet) : Prop where
  /-- A layer that is found by its identity is there, to be named or to be taken out. -/
  found : ∀ id i, s.stack.indexOf? id = some i → ∃ l, s.stack.get? i = some l ∧ l.id = id ∧
    s.stack.removeAt i = (some l, { layers := s.layers.eraseIdx i })
  /-- At an index that is not refused a layer is let in unless its identity is known. -/
  admitted : ∀ i l, ¬ s.layerCount < i →
    ((s.stack.insert i l).1 = true ↔ s.stack.contains l.id = false)
  /-- A layer is taken out at each index of the stack and at no other one. -/
  taken : ∀ i, (s.stack.removeAt i).1 ≠ none ↔ i < s.layerCount
  /-- Of two indices that are not refused the layers change places, and there is one at the later. -/
  exchanged : ∀ a b, [a, b].find? (s.layerCount ≤ ·) = none →
    (s.stack.swap a b).1 = true ∧ ∃ l, (s.stack.swap a b).2.get? (max a b) = some l
  /-- A batch with something new in it ends at the last index there is then. -/
  appended : ∀ ls, (pushAll s.stack ls).2 ≠ [] →
    0 < s.layerCount + (pushAll s.stack ls).2.length ∧
      s.layerCount + (pushAll s.stack ls).2.length - 1 + 1 = (pushAll s.stack ls).1.size
  /-- As many layers are dropped as positions were collected. -/
  dropped : ∀ doomed, (s.stack.positions doomed).length + (s.stack.retain (!doomed ·)).size =
    s.layerCount

theorem sureFooted (s : Sheet) : s.SureFooted := by
  refine ⟨?_, ?_, ?_, ?_, ?_, ?_⟩
  · intro id i found
    obtain ⟨l, there, own⟩ := Stack.get?_of_indexOf? found
    exact ⟨l, there, own, Stack.removeAt_eq there⟩
  · intro i l allowed
    rw [Stack.insert_eq_true_iff, ← Stack.contains_eq_false_iff]
    exact and_iff_right (Nat.le_of_not_lt allowed)
  · intro i
    cases there : s.stack.get? i with
    | none =>
      have beyond : s.layerCount ≤ i := List.getElem?_eq_none_iff.mp there
      rw [Stack.removeAt_of_beyond there]
      simp [beyond]
    | some l =>
      have inside : i < s.layerCount := lt_length_of_getElem? there
      rw [Stack.removeAt_eq there]
      simp [inside]
  · intro a b allowed
    obtain ⟨ha, hb⟩ := inside_of_not_refused allowed
    refine ⟨Stack.swap_eq_true_iff.mpr ⟨ha, hb⟩, Stack.exists_get?_of_lt ?_⟩
    have same : (s.stack.swap a b).2.size = s.stack.size := (s.stack.swap_perm a b).length_eq
    rw [same]
    exact Nat.max_lt.mpr ⟨ha, hb⟩
  · intro ls some_new
    have size : (pushAll s.stack ls).1.size = s.layerCount + (pushAll s.stack ls).2.length :=
      (congrArg List.length (layers_pushAll s.stack ls)).trans List.length_append
    have positive : 0 < (pushAll s.stack ls).2.length := List.length_pos_iff.mpr some_new
    omega
  · intro doomed
    have collected : (s.stack.positions doomed).length = s.layers.countP doomed :=
      s.stack.length_positions doomed
    have left : (s.stack.retain (!doomed ·)).size = (s.layers.filter (!doomed ·)).length :=
      congrArg List.length (Stack.layers_retain _ _)
    rw [collected, left, List.countP_eq_length_filter]
    exact (s.layers.length_eq_length_filter_add doomed).symm

end Sheet

namespace World

variable {w : World} {r : SheetRef} {e : LayerEvent} {i : Nat}

/-- An event of a member is passed on with the layer that is at its index. -/
theorem forward_of_found (held : w.scene.isOpen r = true)
    (found : (w.sheet r).stack.indexOf? e.layer = some i) (nested : Poke → Attempt) (st : Stage) :
    ∃ l, (w.sheet r).stack.get? i = some l ∧ l.id = e.layer ∧ w.scene.forward nested r e st =
      w.scene.notify nested (w.sheet r).stackListeners (.stack (.changed l i e)) st := by
  obtain ⟨l, there, own⟩ := Stack.get?_of_indexOf? found
  have index : (w.scene.sheets r).stack.indexOf? e.layer = some i := found
  have member : (w.scene.sheets r).stack.get? i = some l := there
  refine ⟨l, there, own, ?_⟩
  simp only [Scene.forward, held, index, member, if_true]
  rfl

/-- On every sheet, in whatever world a run leads to, an operation on the layers can rely on the
indices that it found, checked or counted. It publishes at most one event, which names indices of the
stack, and without an event nothing is done to any layer. A relay that finds the layer of an event
passes it on with the layer that is there. -/
theorem indices_hold (layers : List (Layer × Flags)) (conducts : List Conduct) (cs : List Command)
    (r : SheetRef) :
    let w := (opening layers conducts).run cs
    let s := w.sheet r
    s.SureFooted ∧
      (∀ op : SheetCommand, op.onStack = true → ∃ events,
        publications (op.step s).actions = events.map (fun e => (s.stackListeners, .stack e)) ∧
        events.length ≤ 1 ∧ (∀ e ∈ events, e.Within s.layers (op.step s).sheet.layers) ∧
        (events = [] →
          (op.step s).sheet.layers = s.layers ∧ layerCalls (op.step s).actions = [])) ∧
      ∀ (e : LayerEvent) (i : Nat), w.scene.isOpen r = true → s.stack.indexOf? e.layer = some i →
        ∀ nested st, ∃ l, s.stack.get? i = some l ∧ l.id = e.layer ∧
          w.scene.forward nested r e st =
            w.scene.notify nested s.stackListeners (.stack (.changed l i e)) st := by
  intro w s
  have sound : s.Sound := (sound_run (sound_opening layers conducts) cs).sheets r
  refine ⟨s.sureFooted, fun op onStack => Sheet.told_step sound onStack, ?_⟩
  exact fun e i held found nested st => forward_of_found held found nested st

end World
end LayeredMap
