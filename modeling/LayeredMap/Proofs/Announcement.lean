import Mathlib.Order.Bounds.Basic
import LayeredMap.Proofs.Publication
import LayeredMap.Proofs.Reachable
import LayeredMap.Proofs.Refusal

/-!
# What an operation on the stack announces

An operation that changes the layers publishes one event, and the event is the
one that describes the change: which layers came or went, and where they stand
now or stood before. One that changes nothing publishes nothing, whether it was
refused or had nothing to do, and it is neither without a reason: a live sheet
can always be cleared, and two layers of it can always change places. Every
listener is told once the sheet is settled, so whatever he looks at shows the
layers as the operation leaves them.
-/

namespace LayeredMap

/-- What a live sheet does not refuse, and yet nothing comes of it. -/
inductive Declines (s : Sheet) : SheetCommand → Reply → Prop
  | add {l : LayerHandle} (known : ¬ s.stack.Lacks l.id) : Declines s (.add l) (.flag false)
  | insert {i : Nat} {l : LayerHandle} (inside : i ≤ s.layerCount) (known : ¬ s.stack.Lacks l.id) :
      Declines s (.insert i l) (.flag false)
  | addAll {ls : List LayerHandle} (known : ∀ l ∈ ls, ¬ s.stack.Lacks l.id) :
      Declines s (.addAll ls) (.count 0)
  | remove {id : LayerId} (unknown : s.stack.Lacks id) : Declines s (.remove id) (.flag false)
  | removeAll {ids : List LayerId} (unknown : ∀ id ∈ ids, s.stack.Lacks id) :
      Declines s (.removeAll ids) (.count 0)
  | retain {ids : List LayerId} (listed : ∀ l ∈ s.layers, l.id ∈ ids) :
      Declines s (.retain ids) (.count 0)
  | swap {a : Nat} (inside : a < s.layerCount) : Declines s (.swap a a) .done

/-- What an operation announces, given the sheet before it, the layers after it and its reply. -/
inductive Announces (s : Sheet) (new : List LayerHandle) :
    SheetCommand → Reply → List StackEvent → Prop
  | added {l : LayerHandle} {i : Nat} (live : s.disposed = false) (fresh : s.stack.Lacks l.id)
      (here : new[i]? = some l) :
      Announces s new (.add l) (.flag true) [.added (some l) (.span i i)]
  | inserted {l : LayerHandle} {i : Nat} (live : s.disposed = false) (fresh : s.stack.Lacks l.id)
      (inside : i ≤ s.layerCount) (here : new[i]? = some l) :
      Announces s new (.insert i l) (.flag true) [.added (some l) (.span i i)]
  | batch {ls : List LayerHandle} {k first last : Nat} (live : s.disposed = false)
      (some_new : 0 < k) (width : last + 1 = first + k)
      (here : ∀ i, first ≤ i ∧ i ≤ last ↔ ∃ l, new[i]? = some l ∧ l ∉ s.layers) :
      Announces s new (.addAll ls) (.count k) [.added none (.span first last)]
  | removed {id : LayerId} {l : LayerHandle} {i : Nat} (live : s.disposed = false)
      (there : s.layers[i]? = some l) (own : l.id = id) (gone : l ∉ new) :
      Announces s new (.remove id) (.flag true) [.removed (some l) (.span i i)]
  | removedAt {l : LayerHandle} {i : Nat} (live : s.disposed = false)
      (there : s.layers[i]? = some l) (gone : l ∉ new) :
      Announces s new (.removeAt i) (.layer l) [.removed (some l) (.span i i)]
  | thinned {op : SheetCommand} {k first last : Nat} (live : s.disposed = false)
      (bulk : ∃ ids, op = .removeAll ids ∨ op = .retain ids) (some_gone : 0 < k)
      (least : IsLeast {i | ∃ l, s.layers[i]? = some l ∧ l ∉ new} first)
      (greatest : IsGreatest {i | ∃ l, s.layers[i]? = some l ∧ l ∉ new} last) :
      Announces s new op (.count k) [.removed none (.span first last)]
  | moved {a b : Nat} {l : LayerHandle} (live : s.disposed = false) (apart : a ≠ b)
      (inside : max a b < s.layerCount) (here : new[max a b]? = some l) :
      Announces s new (.swap a b) .done [.moved l (max a b)]
  | cleared (live : s.disposed = false) (vacant : new = []) :
      Announces s new .clear .done [.removed none .all]
  | ended (vacant : new = []) :
      Announces s new .dispose .done (if s.layers = [] then [] else [.removed none .all])
  | refused {op : SheetCommand} {e : Failure} (refuses : Refuses s op e) (kept : new = s.layers) :
      Announces s new op (.refused e) []
  | declined {op : SheetCommand} {reply : Reply} (live : s.disposed = false)
      (declines : Declines s op reply) (kept : new = s.layers) : Announces s new op reply []

/-- Whether the operation is on the layers of a sheet. -/
def SheetCommand.onStack : SheetCommand → Bool
  | add _ | insert .. | addAll _ | remove _ | removeAt _ | removeAll _ | retain _ | swap ..
  | clear | dispose => true
  | _ => false

section Announcements

variable {s : Sheet} {new : List LayerHandle} {op : SheetCommand} {reply : Reply}
  {events events' : List StackEvent}

theorem Announces.outspoken (h : Announces s new op reply events) :
    ∀ e ∈ events, (Event.stack e).isEcho = false := by
  intro e he
  cases h with
  | ended =>
    split at he
    · exact absurd he List.not_mem_nil
    · rw [List.mem_singleton.mp he]
      rfl
  | added | inserted | batch | removed | removedAt | thinned | moved | cleared =>
    rw [List.mem_singleton.mp he]
    rfl
  | refused | declined => exact absurd he List.not_mem_nil

/-- Where nothing comes of an operation, nothing is announced. -/
theorem Declines.silent (d : Declines s op reply) (h : Announces s new op reply events) :
    events = [] := by
  cases d with
  | add | insert | remove => cases h with | declined => rfl
  | addAll =>
    cases h with
    | batch _ some_new => exact absurd some_new (Nat.lt_irrefl 0)
    | thinned _ bulk => simp at bulk
    | declined => rfl
  | removeAll | retain =>
    cases h with
    | thinned _ _ some_gone => exact absurd some_gone (Nat.lt_irrefl 0)
    | declined => rfl
  | swap =>
    cases h with
    | moved _ apart => exact absurd rfl apart
    | declined => rfl

theorem eq_of_getElem?_eq {ls : List LayerHandle} (distinct : Distinct ls) {i j : Nat}
    {l : LayerHandle} (hi : ls[i]? = some l) (hj : ls[j]? = some l) : i = j :=
  (List.getElem?_inj (List.getElem?_eq_some_iff.mp hi).1 distinct.nodup).mp (hi.trans hj.symm)

/-- What an operation did and replied leaves one announcement. -/
theorem Announces.unique (before : Distinct s.layers) (after : Distinct new)
    (h : Announces s new op reply events) (h' : Announces s new op reply events') :
    events = events' := by
  by_cases declines : Declines s op reply
  · rw [declines.silent h, declines.silent h']
  cases h with
  | added _ _ here =>
    cases h' with
    | added _ _ here' => rw [eq_of_getElem?_eq after here here']
    | declined _ d => exact absurd d declines
  | inserted =>
    cases h' with
    | inserted => rfl
    | declined _ d => exact absurd d declines
  | @batch _ _ first last _ some_new width here =>
    cases h' with
    | @batch _ _ first' last' _ _ width' here' =>
      have same (i : Nat) : first ≤ i ∧ i ≤ last ↔ first' ≤ i ∧ i ≤ last' :=
        (here i).trans (here' i).symm
      have := same first
      have := same first'
      obtain rfl : first = first' := by omega
      obtain rfl : last = last' := by omega
      rfl
    | thinned _ bulk => simp at bulk
    | declined _ d => exact absurd d declines
  | removed _ there own =>
    cases h' with
    | removed _ there' own' =>
      have one := before.eq_of_id_eq (List.mem_of_getElem? there) (List.mem_of_getElem? there')
        (own.trans own'.symm)
      subst one
      rw [eq_of_getElem?_eq before there there']
    | declined _ d => exact absurd d declines
  | removedAt =>
    cases h' with
    | removedAt => rfl
    | declined _ d => exact absurd d declines
  | thinned _ bulk some_gone least greatest =>
    cases h' with
    | batch => simp at bulk
    | thinned _ _ _ least' greatest' => rw [least.unique least', greatest.unique greatest']
    | declined _ d => exact absurd d declines
  | moved _ apart _ here =>
    cases h' with
    | moved _ _ _ here' => rw [Option.some.inj (here.symm.trans here')]
    | declined _ d => exact absurd d declines
  | cleared =>
    cases h' with
    | cleared => rfl
    | declined _ d => exact absurd d declines
  | ended =>
    cases h' with
    | ended => rfl
    | declined _ d => exact absurd d declines
  | refused =>
    cases h' with
    | refused => rfl
    | declined _ d => exact absurd d declines
  | declined _ d => exact absurd d declines

/-- A live sheet can always be cleared, and says so even if there was nothing to clear. -/
theorem Announces.of_clear (live : s.disposed = false) (h : Announces s new .clear reply events) :
    reply = .done ∧ events = [.removed none .all] := by
  cases h with
  | cleared => exact ⟨rfl, rfl⟩
  | thinned _ bulk => simp at bulk
  | refused refuses => exact (refuses.misses live).elim
  | declined _ declines => cases declines

/-- Two layers of a live sheet can always change places. -/
theorem Announces.of_swap {a b : Nat} (live : s.disposed = false) (apart : a ≠ b)
    (inside : max a b < s.layerCount) (h : Announces s new (.swap a b) reply events) :
    reply = .done ∧ ∃ l, new[max a b]? = some l ∧ events = [.moved l (max a b)] := by
  cases h with
  | moved _ _ _ here => exact ⟨rfl, _, here, rfl⟩
  | thinned _ bulk => simp at bulk
  | refused refuses =>
    rcases refuses.misses live with beyond | beyond <;> omega
  | declined _ declines => cases declines with | swap => exact absurd rfl apart

end Announcements

namespace Sheet

variable {s : Sheet} {op : SheetCommand}

/-- The step publishes to the listeners what the operation has to announce, and nothing else. -/
def Announced (s : Sheet) (op : SheetCommand) (step : Step Reply) : Prop :=
  ∃ events, publications step.actions = events.map (fun e => (s.stackListeners, .stack e)) ∧
    Announces s step.sheet.layers op step.result events

theorem announced_quiet {step : Step Reply} (quiet : publications step.actions = [])
    (h : Announces s step.sheet.layers op step.result []) : s.Announced op step :=
  ⟨[], quiet, h⟩

/-- Layers are seen to first, then one event is published. -/
theorem announced_one {step : Step Reply} {first : List Action} {n : Notice} {e : StackEvent}
    (actions : step.actions = first ++ [.note n, s.publishStack e])
    (mute : publications first = [])
    (h : Announces s step.sheet.layers op step.result [e]) : s.Announced op step := by
  refine ⟨[e], ?_, h⟩
  rw [actions, publications_append, mute]
  rfl

theorem announced_whenLive {ρ : Type} {step : Step (Except Failure ρ)} {f : ρ → Reply}
    (fallible : op.isFallible = true) (h : s.disposed = false → s.Announced op (step.map (.ofResult f))) :
    s.Announced op ((s.whenLive step).map (.ofResult f)) := by
  rw [whenLive]
  cases live : s.disposed with
  | false => exact h live
  | true => exact announced_quiet rfl (.refused (.ended live fallible) rfl)

theorem publications_entering_one (s : Sheet) (l : LayerHandle) :
    publications (s.entering l) = [] := by
  have one := s.publications_entering [l]
  rwa [List.flatMap_singleton] at one

theorem publications_leaving_one (s : Sheet) (l : LayerHandle) :
    publications (s.leaving l) = [] := by
  have one := s.publications_leaving [l]
  rwa [List.flatMap_singleton] at one

/-! ## Layers that come in -/

theorem announced_add (s : Sheet) (l : LayerHandle) :
    s.Announced (.add l) (SheetCommand.step s (.add l)) := by
  refine announced_whenLive rfl fun live => ?_
  cases known : s.stack.contains l.id with
  | true =>
    rw [Stack.push_of_known known]
    exact announced_quiet rfl (.declined live (.add (Stack.contains_iff.mp known)) rfl)
  | false =>
    have top : (s.layers ++ [l])[s.stack.size]? = some l := List.getElem?_concat_length
    rw [Stack.push_of_new known]
    exact announced_one rfl (s.publications_entering_one l)
      (.added live (Stack.contains_eq_false_iff.mp known) top)

theorem announced_insert (s : Sheet) (i : Nat) (l : LayerHandle) :
    s.Announced (.insert i l) (SheetCommand.step s (.insert i l)) := by
  refine announced_whenLive rfl fun live => ?_
  by_cases outside : s.layerCount < i
  · rw [if_pos outside]
    exact announced_quiet rfl (.refused (.insert live outside) rfl)
  · rw [if_neg outside]
    have inside : i ≤ s.layers.length := Nat.le_of_not_lt outside
    cases known : s.stack.contains l.id with
    | true =>
      have declines := Declines.insert inside (Stack.contains_iff.mp known)
      rw [Stack.insert_of_known known]
      exact announced_quiet rfl (.declined live declines rfl)
    | false =>
      have here : (s.layers.insertIdx i l)[i]? = some l := by
        rw [List.getElem?_insertIdx_self, if_pos inside]
      rw [Stack.insert_of_new inside known]
      exact announced_one rfl (s.publications_entering_one l)
        (.inserted live (Stack.contains_eq_false_iff.mp known) inside here)

/-- What was appended stands where no old layer stands. -/
theorem getElem?_append_iff {old added : List LayerHandle} (distinct : Distinct (old ++ added))
    (some_new : 0 < added.length) (i : Nat) :
    old.length ≤ i ∧ i ≤ old.length + added.length - 1 ↔
      ∃ l, (old ++ added)[i]? = some l ∧ l ∉ old := by
  constructor
  · rintro ⟨above, below⟩
    have inside : i - old.length < added.length := by omega
    refine ⟨added[i - old.length], ?_, ?_⟩
    · rw [List.getElem?_append_right above]
      exact List.getElem?_eq_getElem inside
    · intro there
      exact List.disjoint_of_nodup_append distinct.nodup there (List.getElem_mem inside)
  · rintro ⟨l, here, fresh⟩
    have inside : i < (old ++ added).length := (List.getElem?_eq_some_iff.mp here).1
    rw [List.length_append] at inside
    have above : old.length ≤ i := by
      by_contra below
      rw [List.getElem?_append_left (Nat.lt_of_not_le below)] at here
      exact fresh (List.mem_of_getElem? here)
    omega

theorem announced_addAll (h : s.Sound) (ls : List LayerHandle) :
    s.Announced (.addAll ls) (SheetCommand.step s (.addAll ls)) := by
  refine announced_whenLive rfl fun live => ?_
  have grows : (pushAll s.stack ls).1.layers = s.layers ++ _ := layers_pushAll s.stack ls
  have distinct := distinct_pushAll h.distinct ls
  cases new : (pushAll s.stack ls).2 with
  | nil =>
    simp only [new, List.isEmpty_nil, if_true]
    exact announced_quiet rfl (.declined live (.addAll (known_of_pushAll new)) rfl)
  | cons l rest =>
    have some_new : 0 < (pushAll s.stack ls).2.length := by simp [new]
    have nonempty : (pushAll s.stack ls).2.isEmpty = false := by simp [new]
    rw [grows] at distinct
    have here := getElem?_append_iff distinct some_new
    have width : s.layers.length + (pushAll s.stack ls).2.length - 1 + 1 =
        s.layers.length + (pushAll s.stack ls).2.length := by omega
    simp only [nonempty, Bool.false_eq_true, if_false]
    refine announced_one rfl (s.publications_entering _) (.batch live some_new width ?_)
    · intro i
      show _ ↔ ∃ l, (pushAll s.stack ls).1.layers[i]? = some l ∧ l ∉ s.layers
      rw [grows]
      exact here i

/-! ## Layers that go out -/

theorem not_mem_eraseIdx {ls : List LayerHandle} (distinct : Distinct ls) {i : Nat} {l : LayerHandle}
    (there : ls[i]? = some l) : l ∉ ls.eraseIdx i := by
  have once := (Stack.perm_cons_eraseIdx there).nodup_iff.mp distinct.nodup
  exact (List.nodup_cons.mp once).1

theorem announced_remove (h : s.Sound) (id : LayerId) :
    s.Announced (.remove id) (SheetCommand.step s (.remove id)) := by
  refine announced_whenLive rfl fun live => ?_
  cases found : s.stack.indexOf? id with
  | none =>
    have declines := Declines.remove (Stack.indexOf?_eq_none_iff.mp found)
    exact announced_quiet rfl (.declined live declines rfl)
  | some i =>
    obtain ⟨l, there, rfl⟩ := Stack.get?_of_indexOf? found
    simp only [Stack.removeAt_eq there]
    exact announced_one rfl (s.publications_leaving_one l)
      (.removed live there rfl (not_mem_eraseIdx h.distinct there))

theorem announced_removeAt (h : s.Sound) (i : Nat) :
    s.Announced (.removeAt i) (SheetCommand.step s (.removeAt i)) := by
  refine announced_whenLive rfl fun live => ?_
  cases there : s.stack.get? i with
  | none =>
    have beyond : s.layerCount ≤ i := List.getElem?_eq_none_iff.mp there
    rw [Stack.removeAt_of_beyond there]
    exact announced_quiet rfl (.refused (.removeAt live beyond) rfl)
  | some l =>
    rw [Stack.removeAt_eq there]
    exact announced_one rfl (s.publications_leaving_one l)
      (.removedAt live there (not_mem_eraseIdx h.distinct there))

/-- The positions that are removed are those of the layers that are gone afterwards. -/
theorem mem_positions_iff_gone (s : Sheet) (doomed : LayerHandle → Bool) (i : Nat) :
    i ∈ s.stack.positions doomed ↔
      ∃ l, s.layers[i]? = some l ∧ l ∉ (s.stack.retain (!doomed ·)).layers := by
  rw [Stack.mem_positions, Stack.layers_retain]
  constructor
  · rintro ⟨l, there, fits⟩
    exact ⟨l, there, by simp [fits]⟩
  · rintro ⟨l, there, gone⟩
    have member : l ∈ s.stack.layers := List.mem_of_getElem? there
    exact ⟨l, there, by simpa [member] using gone⟩

theorem announced_removeIf (s : Sheet) (doomed : LayerHandle → Bool)
    (fallible : op.isFallible = true) (bulk : ∃ ids, op = .removeAll ids ∨ op = .retain ids)
    (declines : (∀ l ∈ s.layers, doomed l = false) → Declines s op (.count 0)) :
    s.Announced op ((s.removeIf doomed).map (.ofResult .count)) := by
  refine announced_whenLive fallible fun live => ?_
  cases positions : s.stack.positions doomed with
  | nil =>
    have spared := declines (Stack.positions_eq_nil_iff.mp positions)
    exact announced_quiet rfl (.declined live spared rfl)
  | cons first rest =>
    obtain ⟨last, hlast⟩ : ∃ last, (first :: rest).getLast? = some last :=
      ⟨_, List.getLast?_eq_some_getLast (List.cons_ne_nil first rest)⟩
    have first_there : first ∈ s.stack.positions doomed := by simp [positions]
    have last_there : last ∈ s.stack.positions doomed := positions ▸ List.mem_of_getLast? hlast
    simp only [List.head?_cons, hlast]
    refine announced_one rfl (s.publications_leaving _) (.thinned live bulk (Nat.succ_pos _) ?_ ?_)
    · refine ⟨(s.mem_positions_iff_gone doomed first).mp first_there, fun i hi => ?_⟩
      exact Stack.head?_positions_le (by rw [positions]; rfl)
        ((s.mem_positions_iff_gone doomed i).mpr hi)
    · refine ⟨(s.mem_positions_iff_gone doomed last).mp last_there, fun i hi => ?_⟩
      exact Stack.le_getLast?_positions (by rw [positions]; exact hlast)
        ((s.mem_positions_iff_gone doomed i).mpr hi)

theorem announced_removeAll (s : Sheet) (ids : List LayerId) :
    s.Announced (.removeAll ids) (SheetCommand.step s (.removeAll ids)) := by
  refine announced_removeIf s _ rfl ⟨ids, .inl rfl⟩ fun spared => .removeAll ?_
  intro id hid l hl own
  have unlisted : l.id ∉ ids := by simpa using spared l hl
  exact unlisted (own ▸ hid)

theorem announced_retain (s : Sheet) (ids : List LayerId) :
    s.Announced (.retain ids) (SheetCommand.step s (.retain ids)) := by
  refine announced_removeIf s _ rfl ⟨ids, .inr rfl⟩ fun spared => .retain fun l hl => ?_
  simpa using spared l hl

/-! ## Layers that stay or go all at once -/

theorem announced_swap (s : Sheet) (a b : Nat) :
    s.Announced (.swap a b) (SheetCommand.step s (.swap a b)) := by
  refine announced_whenLive rfl fun live => ?_
  cases out : [a, b].find? (s.layerCount ≤ ·) with
  | some i => exact announced_quiet rfl (.refused (.swap_of_found live out) rfl)
  | none =>
    obtain ⟨ha, hb⟩ := inside_of_not_refused out
    by_cases same : a = b
    · subst same
      simp only [if_true]
      exact announced_quiet rfl (.declined live (.swap ha) rfl)
    · simp only [same, if_false]
      obtain ⟨-, l, -, -, -, -, named⟩ := Stack.swap_later same ha hb
      have there : (s.stack.swap a b).2.layers[max a b]? = some l := named
      simp only [named]
      have mute : publications [] = [] := rfl
      exact announced_one rfl mute (.moved live same (Nat.max_lt.mpr ⟨ha, hb⟩) there)

theorem announced_clear (s : Sheet) : s.Announced .clear (SheetCommand.step s .clear) :=
  announced_whenLive rfl fun live =>
    announced_one rfl (s.publications_leaving s.layers) (.cleared live rfl)

theorem announced_dispose (h : s.Sound) : s.Announced .dispose (SheetCommand.step s .dispose) := by
  refine ⟨if s.layers = [] then [] else [.removed none .all], ?_, ?_⟩
  · rw [SheetCommand.step, dispose]
    cases live : s.disposed with
    | true =>
      rw [(h.ended live).1]
      rfl
    | false =>
      have mute : publications s.allLeaving = [] := s.publications_leaving s.layers
      show publications (s.allLeaving ++ .note (.sheetDisposed s.layerCount) :: if _ then _ else _) = _
      rw [publications_append, mute]
      by_cases vacant : s.layers = []
      · have none_left : s.layerCount = 0 := List.length_eq_zero_iff.mpr vacant
        rw [if_pos vacant, if_pos none_left]
        rfl
      · have some_left : s.layerCount ≠ 0 := fun zero => vacant (List.length_eq_zero_iff.mp zero)
        rw [if_neg vacant, if_neg some_left]
        rfl
  · rw [SheetCommand.step, dispose]
    cases live : s.disposed with
    | true => exact .ended (h.ended live).1
    | false => exact .ended rfl

theorem announced_step (h : s.Sound) (onStack : op.onStack = true) : s.Announced op (op.step s) := by
  cases op with
  | add l => exact announced_add s l
  | insert i l => exact announced_insert s i l
  | addAll ls => exact announced_addAll h ls
  | remove id => exact announced_remove h id
  | removeAt i => exact announced_removeAt h i
  | removeAll ids => exact announced_removeAll s ids
  | retain ids => exact announced_retain s ids
  | swap a b => exact announced_swap s a b
  | clear => exact announced_clear s
  | dispose => exact announced_dispose h
  | _ => exact absurd onStack Bool.false_ne_true

/-! ## Operations on other parts of the sheet -/

theorem publications_listenToStack (s : Sheet) (l : ListenerRef) :
    publications (s.listenToStack l).actions = [] := by
  rw [listenToStack]
  split
  · rfl
  · split
    · rfl
    · split
      · rw [startRelay, publications_append, publications_map _ fun _ => rfl]
        rfl
      · rfl

theorem publications_unlistenToStack (s : Sheet) (l : ListenerRef) :
    publications (s.unlistenToStack l).actions = [] := by
  rw [unlistenToStack]
  split
  · rfl
  · split
    · rw [stopRelay]
      split
      · rfl
      · rw [publications_append, publications_map _ fun _ => rfl]
        rfl
    · rfl

theorem publications_listenToProperties (s : Sheet) (l : ListenerRef) :
    publications (s.listenToProperties l).actions = [] := by
  rw [listenToProperties]
  split <;> rfl

theorem publications_listenToViewport (s : Sheet) (l : ListenerRef) :
    publications (s.listenToViewport l).actions = [] := by
  rw [listenToViewport]
  split <;> rfl

theorem publications_drop (s : Sheet) : publications s.drop.actions = [] := by
  rw [drop]
  split
  · rfl
  · exact s.publications_leaving s.layers

/-- No event of these is one that passes on a change of a layer. -/
def Outspoken (actions : List Action) : Prop := ∀ x ∈ publications actions, x.2.isEcho = false

theorem outspoken_of_mute {actions : List Action} (mute : publications actions = []) :
    Outspoken actions := by
  intro x hx
  rw [mute] at hx
  exact absurd hx List.not_mem_nil

theorem outspoken_whenLive {ρ : Type} {step : Step (Except Failure ρ)} (h : Outspoken step.actions) :
    Outspoken (s.whenLive step).actions := by
  rw [whenLive]
  split
  · exact outspoken_of_mute rfl
  · exact h

theorem outspoken_publishProperty (s : Sheet) (e : PropertyEvent) :
    Outspoken [s.publishProperty e] := by
  intro x hx
  rw [List.mem_singleton.mp hx]
  rfl

theorem outspoken_removeData (s : Sheet) (k : String) : Outspoken (s.removeData k).actions := by
  refine outspoken_whenLive ?_
  split
  · exact outspoken_of_mute rfl
  · exact outspoken_publishProperty s _

theorem outspoken_updateViewport (s : Sheet) (update : Viewport → Viewport) :
    Outspoken (s.updateViewport update).actions := by
  refine outspoken_whenLive ?_
  by_cases same : update s.currentViewport == s.currentViewport
  · simp only [same, if_true]
    exact outspoken_of_mute rfl
  · simp only [same]
    intro x hx
    obtain ⟨a, ha, told⟩ := List.mem_filterMap.mp hx
    obtain ⟨part, -, rfl⟩ := List.mem_map.mp ha
    rw [← Option.some.inj told]
    rfl

theorem outspoken_step (h : s.Sound) (op : SheetCommand) : Outspoken (op.step s).actions := by
  cases onStack : op.onStack with
  | true =>
    obtain ⟨events, published, announces⟩ := announced_step h onStack
    intro x hx
    rw [published] at hx
    obtain ⟨e, he, rfl⟩ := List.mem_map.mp hx
    exact announces.outspoken e he
  | false =>
    cases op with
    | listenToStack l => exact outspoken_of_mute (s.publications_listenToStack l)
    | unlistenToStack l => exact outspoken_of_mute (s.publications_unlistenToStack l)
    | listenToProperties l => exact outspoken_of_mute (s.publications_listenToProperties l)
    | listenToViewport l => exact outspoken_of_mute (s.publications_listenToViewport l)
    | unlistenToProperties l | unlistenToViewport l => exact outspoken_of_mute rfl
    | setTitle title => exact outspoken_whenLive (outspoken_publishProperty s _)
    | putData k v => exact outspoken_whenLive (outspoken_publishProperty s _)
    | removeData k => exact outspoken_removeData s k
    | extendData entries => exact outspoken_whenLive (outspoken_publishProperty s _)
    | clearData => exact outspoken_whenLive (outspoken_publishProperty s _)
    | setViewport v => exact outspoken_updateViewport s _
    | setCrs crs => exact outspoken_updateViewport s _
    | setBounds bounds => exact outspoken_updateViewport s _
    | _ => exact absurd onStack.symm Bool.false_ne_true

end Sheet

namespace World

variable {w : World} {name : String} {r : SheetRef}

/-- An operation on the layers of a sheet publishes what it has to announce, and only that, in the
world that it leaves. Echoes apart, each listener to the stack is told of it once, in order, and
nobody is told anything else; whoever is called meanwhile and looks at the sheet sees it as the
operation leaves it; and if there is nothing to announce, nobody is called. -/
theorem announced_after_commit (reachable : w.Reachable)
    (named : w.scene.sheetNamed? name = some r) (op : SheetCommand) (onStack : op.onStack = true) :
    let s := w.sheet r
    let w' := (w.execute (.sheet name op)).1
    let s' := w'.sheet r
    ∃ events heard,
      Announces s s'.layers op (w.execute (.sheet name op)).2 events ∧
      (∀ others, Announces s s'.layers op (w.execute (.sheet name op)).2 others →
        others = events) ∧
      w'.scene.Speaks (events.map fun e => (s.stackListeners, .stack e)) w.stage w'.stage ∧
      w'.stage.deliveries = w.stage.deliveries ++ heard ∧
      heard.filter (!·.event.isEcho) =
        events.flatMap (fun e => s.stackListeners.toList.map (w'.scene.told (.stack e))) ∧
      (∀ d ∈ heard, (w.scene.conducts d.listener).observes = some name →
        d.sighting = some (some s'.sighting)) ∧
      (events = [] → heard = []) := by
  intro s w' s'
  have sound : s.Sound := reachable.sound.sheets r
  have performed : w.execute (.sheet name op) = w.perform r fun s => op.step s := by
    rw [execute, withSheet, named]
  have settled : s' = (op.step s).sheet := by
    show (w.execute (.sheet name op)).1.sheet r = _
    rw [performed]
    exact (sheet_perform w r _ r).trans (if_pos rfl)
  obtain ⟨events, published, announces⟩ := Sheet.announced_step sound onStack
  have speaks : w'.scene.Speaks (events.map fun e => (s.stackListeners, .stack e)) w.stage w'.stage := by
    rw [← published]
    show (w.execute (.sheet name op)).1.scene.Speaks _ _ (w.execute (.sheet name op)).1.stage
    rw [performed]
    exact perform_speaks w r (Sheet.transition_step sound op).orderly
  obtain ⟨heard, appended, told⟩ := speaks.heard
  obtain ⟨heard', appended', outspoken⟩ := speaks.adds w'.scene.ignores_echoes
  obtain rfl : heard = heard' := List.append_cancel_left (appended.symm.trans appended')
  have fits : Announces s s'.layers op (w.execute (.sheet name op)).2 events := by
    rw [settled, performed]
    exact announces
  refine ⟨events, heard, fits, ?_, speaks, appended, ?_, ?_, ?_⟩
  · intro others also
    exact also.unique sound.distinct ((sound_execute reachable.sound _).sheets r).distinct fits
  · rw [outspoken, List.flatMap_map]
    refine List.filter_eq_self.mpr fun d hd => ?_
    obtain ⟨e, he, hd⟩ := List.mem_flatMap.mp hd
    obtain ⟨l, -, rfl⟩ := List.mem_map.mp hd
    show (!(Event.stack e).isEcho) = true
    rw [announces.outspoken e he]
    rfl
  · intro d hd looks
    obtain ⟨e, l, rfl⟩ := told d hd
    have cast := cast_execute w (.sheet name op)
    have bound : w'.scene.sheetNamed? name = some r :=
      (congrArg (List.lookup name) cast.handles).trans named
    show (w'.scene.conducts l).observes.map w'.scene.sight = _
    have kept : w'.scene.conducts = w.scene.conducts := cast.conducts
    have mine : (w.scene.conducts l).observes = some name := looks
    rw [kept, mine, Option.map_some, Scene.sight, bound]
    rfl
  · intro silent
    rw [silent] at speaks
    exact List.append_right_eq_self.mp (appended.symm.trans speaks.still.deliveries)

/-- Layers 0 and 2 change places while one listener shows a hidden layer and fails, and another one
looks on. A sheet that is empty by then is cleared all the same. -/
theorem announced_after_commit_swap :
    let l (n : Nat) : LayerHandle := { object := n, id := .numbered n }
    let layer (n : Nat) : Layer × Flags :=
      ({ id := .numbered n, body := .fixed { title := "t" } }, {})
    let name := "m"
    let busy : Conduct := { pokes := [{ object := 1, visible := some true }], fails := .always }
    let w : World := (opening [layer 0, layer 1, layer 2] [busy, { observes := some name }]).run
      [.create name none none ({} : TransformTable Float).reprojector,
        .sheet name (.addAll [l 0, l 1, l 2]), .sheet name (.listenToStack ⟨0⟩),
        .sheet name (.listenToStack ⟨1⟩), .layer 1 (.setVisible false)]
    let w' := (w.execute (.sheet name (.swap 2 0))).1
    let empty := w.run [.sheet name .clear]
    let empty' := (empty.execute (.sheet name .clear)).1
    (∃ heard, w'.stage.deliveries = w.stage.deliveries ++ heard ∧
      heard.filter (!·.event.isEcho) =
        [w'.scene.told (.stack (.moved (l 0) 2)) ⟨0⟩, w'.scene.told (.stack (.moved (l 0) 2)) ⟨1⟩] ∧
      (∀ d ∈ heard, d.listener = ⟨1⟩ → d.sighting = some (some (w'.sheet ⟨0⟩).sighting)) ∧
      (w'.sheet ⟨0⟩).layers = [l 2, l 1, l 0]) ∧
    ∃ heard, empty'.stage.deliveries = empty.stage.deliveries ++ heard ∧
      heard.filter (!·.event.isEcho) = [empty'.scene.told (.stack (.removed none .all)) ⟨0⟩,
        empty'.scene.told (.stack (.removed none .all)) ⟨1⟩] ∧
      (empty.sheet ⟨0⟩).layers = [] := by
  intro l layer name busy w w' empty empty'
  have reachable : w.Reachable := ⟨_, _, _, rfl⟩
  have reachable' : empty.Reachable := reachable.run _
  constructor
  · have named : w.scene.sheetNamed? name = some ⟨0⟩ := by decide +kernel
    have live : (w.sheet ⟨0⟩).disposed = false := by decide +kernel
    have count : (w.sheet ⟨0⟩).layerCount = 3 := by decide +kernel
    have after : (w'.sheet ⟨0⟩).layers = [l 2, l 1, l 0] := by decide +kernel
    have listeners : (w.sheet ⟨0⟩).stackListeners.toList = [⟨0⟩, ⟨1⟩] := by decide +kernel
    have onlooker : (w.scene.conducts ⟨1⟩).observes = some name := by decide +kernel
    obtain ⟨events, heard, announces, -, -, appended, told, seen, -⟩ :=
      announced_after_commit reachable named (.swap 2 0) rfl
    obtain ⟨-, m, here, rfl⟩ := announces.of_swap live (by decide) (by rw [count]; decide)
    rw [after] at here
    obtain rfl : l 0 = m := Option.some.inj here
    refine ⟨heard, appended, ?_, fun d hd looks => seen d hd (looks ▸ onlooker), after⟩
    rw [told, listeners]
    rfl
  · have named : empty.scene.sheetNamed? name = some ⟨0⟩ := by decide +kernel
    have live : (empty.sheet ⟨0⟩).disposed = false := by decide +kernel
    have vacant : (empty.sheet ⟨0⟩).layers = [] := by decide +kernel
    have listeners : (empty.sheet ⟨0⟩).stackListeners.toList = [⟨0⟩, ⟨1⟩] := by decide +kernel
    obtain ⟨events, heard, announces, -, -, appended, told, -⟩ :=
      announced_after_commit reachable' named .clear rfl
    obtain ⟨-, rfl⟩ := announces.of_clear live
    refine ⟨heard, appended, ?_, vacant⟩
    rw [told, listeners]
    rfl

end World
end LayeredMap
