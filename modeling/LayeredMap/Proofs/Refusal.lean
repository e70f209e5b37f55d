import LayeredMap.Proofs.Action
import LayeredMap.Proofs.Roster
import LayeredMap.Proofs.Stack

/-!
# What a sheet refuses

A disposed sheet refuses every change. A live one refuses nothing but an index
that it does not have, even for a layer that it would decline anyway. Whoever
is refused, or told that nothing came of it, finds the world as it was.
-/

namespace LayeredMap

/-- Whether the operation can be refused at all. -/
def SheetCommand.isFallible : SheetCommand → Bool
  | dispose | listenToStack _ | unlistenToStack _ | listenToProperties _ | unlistenToProperties _
  | listenToViewport _ | unlistenToViewport _ => false
  | _ => true

/-- What a sheet refuses, and for which reason. -/
inductive Refuses (s : Sheet) : SheetCommand → Failure → Prop
  | ended {op : SheetCommand} (disposed : s.disposed = true) (fallible : op.isFallible = true) :
      Refuses s op .disposed
  | insert {i : Nat} {l : LayerHandle} (live : s.disposed = false) (beyond : s.layerCount < i) :
      Refuses s (.insert i l) (.indexOutOfBounds i s.layerCount)
  | removeAt {i : Nat} (live : s.disposed = false) (beyond : s.layerCount ≤ i) :
      Refuses s (.removeAt i) (.indexOutOfBounds i s.layerCount)
  | swapFirst {a b : Nat} (live : s.disposed = false) (beyond : s.layerCount ≤ a) :
      Refuses s (.swap a b) (.indexOutOfBounds a s.layerCount)
  | swapSecond {a b : Nat} (live : s.disposed = false) (inside : a < s.layerCount)
      (beyond : s.layerCount ≤ b) : Refuses s (.swap a b) (.indexOutOfBounds b s.layerCount)

/-- Of two indices that a sheet does not have the first is named. -/
theorem Refuses.swap_of_found {s : Sheet} {a b i : Nat} (live : s.disposed = false)
    (found : [a, b].find? (s.layerCount ≤ ·) = some i) :
    Refuses s (.swap a b) (.indexOutOfBounds i s.layerCount) := by
  by_cases first : s.layerCount ≤ a
  · obtain rfl : a = i := by simpa [first] using found
    exact .swapFirst live first
  · obtain ⟨second, rfl⟩ : s.layerCount ≤ b ∧ b = i := by simpa [first] using found
    exact .swapSecond live (Nat.lt_of_not_le first) second

/-- Replies from which the caller learns that nothing came of an operation. -/
inductive Idle : SheetCommand → Reply → Prop
  | refused {op : SheetCommand} (e : Failure) : Idle op (.refused e)
  | declined {op : SheetCommand} : Idle op (.flag false)
  | none_concerned {op : SheetCommand} : Idle op (.count 0)
  | no_value {k : String} : Idle (.removeData k) (.value none)
  | in_place {a : Nat} {reply : Reply} : Idle (.swap a a) reply

/-- Neither refused, nor cut short by an error, nor sent to nobody. -/
def Reply.isAnswer : Reply → Bool
  | refused _ | crashed _ | noSheet => false
  | _ => true

theorem Refuses.fallible {s : Sheet} {op : SheetCommand} {e : Failure} (h : Refuses s op e) :
    op.isFallible = true := by
  cases h with
  | ended _ fallible => exact fallible
  | insert | removeAt | swapFirst | swapSecond => rfl

/-- An index is asked for that a sheet of so many layers does not have. -/
def SheetCommand.misses (count : Nat) : SheetCommand → Prop
  | insert i _ => count < i
  | removeAt i => count ≤ i
  | swap a b => count ≤ a ∨ count ≤ b
  | _ => False

/-- A live sheet refuses indices only. -/
theorem Refuses.misses {s : Sheet} {op : SheetCommand} {e : Failure} (live : s.disposed = false)
    (h : Refuses s op e) : op.misses s.layerCount := by
  cases h with
  | ended disposed => simp [live] at disposed
  | insert _ beyond | removeAt _ beyond => exact beyond
  | swapFirst _ beyond => exact .inl beyond
  | swapSecond _ _ beyond => exact .inr beyond

/-- There is never more than one reason. -/
theorem Refuses.unique {s : Sheet} {op : SheetCommand} {e e' : Failure} (h : Refuses s op e)
    (h' : Refuses s op e') : e = e' := by
  cases h with
  | ended disposed =>
    cases h' with
    | ended => rfl
    | insert live | removeAt live | swapFirst live | swapSecond live => simp [live] at disposed
  | insert live => cases h' with
    | ended disposed => simp [live] at disposed
    | insert => rfl
  | removeAt live => cases h' with
    | ended disposed => simp [live] at disposed
    | removeAt => rfl
  | swapFirst live beyond => cases h' with
    | ended disposed => simp [live] at disposed
    | swapFirst => rfl
    | swapSecond _ inside => omega
  | swapSecond live inside => cases h' with
    | ended disposed => simp [live] at disposed
    | swapFirst _ beyond => omega
    | swapSecond => rfl

namespace Sheet

variable {s : Sheet} {op : SheetCommand}

/-- The step is refused exactly when it should be, and does nothing if it has nothing to tell. -/
structure Judged (s : Sheet) (op : SheetCommand) (step : Step Reply) : Prop where
  refused_iff : ∀ e, step.result = .refused e ↔ Refuses s op e
  answers : step.result.isAnswer = true ∨ ∃ e, step.result = .refused e
  idle : Idle op step.result → step = .still s step.result

theorem judged_refused {e : Failure} (h : Refuses s op e) : s.Judged op (.still s (.refused e)) := by
  refine ⟨fun e' => ?_, .inr ⟨e, rfl⟩, fun _ => rfl⟩
  constructor
  · rintro ⟨⟩
    exact h
  · intro h'
    exact congrArg Reply.refused (h.unique h')

theorem judged_answer {step : Step Reply} (free : ∀ e, ¬ Refuses s op e)
    (answer : step.result.isAnswer = true) (idle : Idle op step.result → step = .still s step.result) :
    s.Judged op step := by
  refine ⟨fun e => ?_, .inl answer, idle⟩
  constructor
  · intro refused
    rw [refused] at answer
    exact absurd answer Bool.false_ne_true
  · intro h
    exact absurd h (free e)

theorem judged_whenLive {ρ : Type} {step : Step (Except Failure ρ)} {f : ρ → Reply}
    (fallible : op.isFallible = true)
    (h : s.disposed = false → s.Judged op (step.map (.ofResult f))) :
    s.Judged op ((s.whenLive step).map (.ofResult f)) := by
  rw [whenLive]
  cases live : s.disposed with
  | false => exact h live
  | true => exact judged_refused (.ended live fallible)

/-! ## Changes to the stack -/

theorem judged_add (s : Sheet) (l : LayerHandle) :
    s.Judged (.add l) (SheetCommand.step s (.add l)) := by
  refine judged_whenLive rfl fun live => ?_
  have free (e : Failure) (h : Refuses s (.add l) e) : False := h.misses live
  cases known : s.stack.contains l.id with
  | true =>
    rw [Stack.push_of_known known]
    exact judged_answer free rfl fun _ => rfl
  | false =>
    rw [Stack.push_of_new known]
    exact judged_answer free rfl nofun

theorem judged_insert (s : Sheet) (i : Nat) (l : LayerHandle) :
    s.Judged (.insert i l) (SheetCommand.step s (.insert i l)) := by
  refine judged_whenLive rfl fun live => ?_
  by_cases beyond : s.layerCount < i
  · rw [if_pos beyond]
    exact judged_refused (.insert live beyond)
  · rw [if_neg beyond]
    have free (e : Failure) (h : Refuses s (.insert i l) e) : False := beyond (h.misses live)
    cases known : s.stack.contains l.id with
    | true =>
      rw [Stack.insert_of_known known]
      exact judged_answer free rfl fun _ => rfl
    | false =>
      rw [Stack.insert_of_new (Nat.le_of_not_lt beyond) known]
      exact judged_answer free rfl nofun

theorem judged_addAll (s : Sheet) (ls : List LayerHandle) :
    s.Judged (.addAll ls) (SheetCommand.step s (.addAll ls)) := by
  refine judged_whenLive rfl fun live => ?_
  have free (e : Failure) (h : Refuses s (.addAll ls) e) : False := h.misses live
  cases new : (pushAll s.stack ls).2 with
  | nil =>
    simp only [new, List.isEmpty_nil, if_true]
    exact judged_answer free rfl fun _ => rfl
  | cons l rest =>
    simp only [new, List.isEmpty_cons, Bool.false_eq_true, if_false]
    exact judged_answer free rfl nofun

theorem judged_remove (s : Sheet) (id : LayerId) :
    s.Judged (.remove id) (SheetCommand.step s (.remove id)) := by
  refine judged_whenLive rfl fun live => ?_
  have free (e : Failure) (h : Refuses s (.remove id) e) : False := h.misses live
  cases found : s.stack.indexOf? id with
  | none => exact judged_answer free rfl fun _ => rfl
  | some i =>
    obtain ⟨l, there, -⟩ := Stack.get?_of_indexOf? found
    simp only [Stack.removeAt_eq there]
    exact judged_answer free rfl nofun

theorem judged_removeAt (s : Sheet) (i : Nat) :
    s.Judged (.removeAt i) (SheetCommand.step s (.removeAt i)) := by
  refine judged_whenLive rfl fun live => ?_
  cases there : s.stack.get? i with
  | none =>
    have beyond : s.layerCount ≤ i := List.getElem?_eq_none_iff.mp there
    rw [Stack.removeAt_of_beyond there]
    exact judged_refused (.removeAt live beyond)
  | some l =>
    have inside : i < s.layerCount := (List.getElem?_eq_some_iff.mp there).1
    rw [Stack.removeAt_eq there]
    exact judged_answer (fun e h => Nat.not_le_of_lt inside (h.misses live)) rfl nofun

theorem judged_removeIf (doomed : LayerHandle → Bool)
    (bulk : ∃ ids, op = .removeAll ids ∨ op = .retain ids) :
    s.Judged op ((s.removeIf doomed).map (.ofResult .count)) := by
  have fallible : op.isFallible = true := by
    obtain ⟨ids, rfl | rfl⟩ := bulk <;> rfl
  refine judged_whenLive fallible fun live => ?_
  have free (e : Failure) (h : Refuses s op e) : False := by
    obtain ⟨ids, rfl | rfl⟩ := bulk <;> exact h.misses live
  cases positions : s.stack.positions doomed with
  | nil => exact judged_answer free rfl fun _ => rfl
  | cons first rest =>
    obtain ⟨last, hlast⟩ : ∃ last, (first :: rest).getLast? = some last :=
      ⟨_, List.getLast?_eq_some_getLast (List.cons_ne_nil first rest)⟩
    simp only [List.head?_cons, hlast]
    refine judged_answer free rfl ?_
    obtain ⟨ids, rfl | rfl⟩ := bulk <;> rintro ⟨⟩

theorem judged_swap (s : Sheet) (a b : Nat) :
    s.Judged (.swap a b) (SheetCommand.step s (.swap a b)) := by
  refine judged_whenLive rfl fun live => ?_
  cases out : [a, b].find? (s.layerCount ≤ ·) with
  | some i => exact judged_refused (.swap_of_found live out)
  | none =>
    obtain ⟨ha, hb⟩ := inside_of_not_refused out
    have free (e : Failure) (h : Refuses s (.swap a b) e) : False :=
      (h.misses live).elim (Nat.not_le_of_lt ha) (Nat.not_le_of_lt hb)
    by_cases same : a = b
    · subst same
      simp only [if_true]
      exact judged_answer free rfl fun _ => rfl
    · obtain ⟨-, l, -, -, -, -, named⟩ := Stack.swap_later same ha hb
      simp only [same, if_false, named]
      refine judged_answer free rfl ?_
      rintro ⟨⟩
      exact absurd rfl same

/-- An operation on a live sheet that always has something to tell. -/
theorem judged_effective {ρ : Type} {step : Step (Except Failure ρ)} {f : ρ → Reply} {answer : ρ}
    (fallible : op.isFallible = true) (whole : ¬ op.misses s.layerCount)
    (ok : step.result = .ok answer) (isAnswer : (f answer).isAnswer = true)
    (effective : ¬ Idle op (f answer)) : s.Judged op ((s.whenLive step).map (.ofResult f)) := by
  refine judged_whenLive fallible fun live => ?_
  have result : (step.map (Reply.ofResult f)).result = f answer := congrArg (Reply.ofResult f) ok
  refine judged_answer (fun e h => whole (h.misses live)) ?_ ?_
  · rw [result]
    exact isAnswer
  · rw [result]
    exact fun idle => absurd idle effective

theorem judged_removeData (s : Sheet) (k : String) :
    s.Judged (.removeData k) (SheetCommand.step s (.removeData k)) := by
  refine judged_whenLive rfl fun live => ?_
  have free (e : Failure) (h : Refuses s (.removeData k) e) : False := h.misses live
  cases s.data? k with
  | none => exact judged_answer free rfl fun _ => rfl
  | some old => exact judged_answer free rfl nofun

theorem judged_updateViewport (update : Viewport → Viewport) (fallible : op.isFallible = true)
    (whole : ¬ op.misses s.layerCount) (effective : ¬ Idle op .done) :
    s.Judged op ((s.updateViewport update).map (.ofResult fun _ => .done)) := by
  refine judged_whenLive fallible fun live => ?_
  have free (e : Failure) (h : Refuses s op e) : False := whole (h.misses live)
  cases same : update s.currentViewport == s.currentViewport with
  | true =>
    simp only [same, if_true]
    exact judged_answer free rfl fun _ => rfl
  | false =>
    simp only [same, Bool.false_eq_true, if_false]
    exact judged_answer free rfl fun idle => absurd idle effective

/-! ## Listeners and the end -/

theorem judged_infallible {step : Step Reply} (infallible : op.isFallible = false)
    (answer : step.result.isAnswer = true) (idle : Idle op step.result → step = .still s step.result) :
    s.Judged op step := by
  refine judged_answer (fun e h => ?_) answer idle
  exact Bool.false_ne_true (infallible.symm.trans h.fallible)

/-- A registration or its withdrawal either counts or does nothing. -/
theorem judged_flag {step : Step Bool} (infallible : op.isFallible = false)
    (kept : step.result = true ∨ step = .still s false) : s.Judged op (step.map .flag) := by
  refine judged_infallible infallible rfl fun idle => ?_
  rcases kept with changed | rfl
  · have told : (step.map Reply.flag).result = .flag true := congrArg Reply.flag changed
    rw [told] at idle
    cases idle
    cases infallible
  · rfl

theorem kept_listenToStack (s : Sheet) (l : ListenerRef) :
    (s.listenToStack l).result = true ∨ s.listenToStack l = .still s false := by
  by_cases ended : s.disposed = true
  · exact .inr (if_pos ended)
  rw [listenToStack, if_neg ended]
  by_cases listed : l ∈ s.stackListeners.toList
  · rw [Roster.add_of_mem _ _ listed]
    exact .inr rfl
  · obtain ⟨grown, added, -⟩ := Roster.add_of_not_mem _ _ listed
    simp only [added]
    left
    by_cases first : grown.size = 1
    · rw [if_pos first]
      rfl
    · rw [if_neg first]
      rfl

theorem result_stopRelay (s : Sheet) : s.stopRelay.result = true := by
  rw [stopRelay]
  cases s.relay <;> rfl

theorem kept_unlistenToStack (s : Sheet) (l : ListenerRef) :
    (s.unlistenToStack l).result = true ∨ s.unlistenToStack l = .still s false := by
  rw [unlistenToStack]
  by_cases listed : l ∈ s.stackListeners.toList
  · obtain ⟨rest, removed, -⟩ := Roster.remove_of_mem _ _ listed
    simp only [removed]
    left
    by_cases last : rest.isEmpty = true
    · rw [if_pos last]
      exact result_stopRelay _
    · rw [if_neg last]
      rfl
  · rw [Roster.remove_of_not_mem _ _ listed]
    exact .inr rfl

theorem kept_listenToProperties (s : Sheet) (l : ListenerRef) :
    (s.listenToProperties l).result = true ∨ s.listenToProperties l = .still s false := by
  by_cases ended : s.disposed = true
  · exact .inr (if_pos ended)
  rw [listenToProperties, if_neg ended]
  rcases s.propertyListeners.add_counts l with added | kept
  · exact .inl added
  · rw [kept]
    exact .inr rfl

theorem kept_unlistenToProperties (s : Sheet) (l : ListenerRef) :
    (s.unlistenToProperties l).result = true ∨ s.unlistenToProperties l = .still s false := by
  rw [unlistenToProperties]
  rcases s.propertyListeners.remove_counts l with removed | kept
  · exact .inl removed
  · rw [kept]
    exact .inr rfl

theorem kept_listenToViewport (s : Sheet) (l : ListenerRef) :
    (s.listenToViewport l).result = true ∨ s.listenToViewport l = .still s false := by
  by_cases ended : s.disposed = true
  · exact .inr (if_pos ended)
  rw [listenToViewport, if_neg ended]
  rcases s.viewportListeners.add_counts l with added | kept
  · exact .inl added
  · rw [kept]
    exact .inr rfl

theorem kept_unlistenToViewport (s : Sheet) (l : ListenerRef) :
    (s.unlistenToViewport l).result = true ∨ s.unlistenToViewport l = .still s false := by
  rw [unlistenToViewport]
  rcases s.viewportListeners.remove_counts l with removed | kept
  · exact .inl removed
  · rw [kept]
    exact .inr rfl

theorem judged_dispose (s : Sheet) : s.Judged .dispose (SheetCommand.step s .dispose) := by
  refine judged_infallible rfl ?_ nofun
  show (Step.map (fun _ => Reply.done) s.dispose).result.isAnswer = true
  rfl

theorem judged_step (s : Sheet) (op : SheetCommand) : s.Judged op (SheetCommand.step s op) := by
  cases op with
  | add l => exact s.judged_add l
  | insert i l => exact s.judged_insert i l
  | addAll ls => exact s.judged_addAll ls
  | remove id => exact s.judged_remove id
  | removeAt i => exact s.judged_removeAt i
  | removeAll ids => exact judged_removeIf _ ⟨ids, .inl rfl⟩
  | retain ids => exact judged_removeIf _ ⟨ids, .inr rfl⟩
  | swap a b => exact s.judged_swap a b
  | clear | setTitle | putData | extendData | clearData =>
    exact judged_effective rfl id rfl rfl nofun
  | removeData k => exact s.judged_removeData k
  | setViewport | setCrs | setBounds => exact judged_updateViewport _ rfl id nofun
  | dispose => exact s.judged_dispose
  | listenToStack l => exact judged_flag rfl (s.kept_listenToStack l)
  | unlistenToStack l => exact judged_flag rfl (s.kept_unlistenToStack l)
  | listenToProperties l => exact judged_flag rfl (s.kept_listenToProperties l)
  | unlistenToProperties l => exact judged_flag rfl (s.kept_unlistenToProperties l)
  | listenToViewport l => exact judged_flag rfl (s.kept_listenToViewport l)
  | unlistenToViewport l => exact judged_flag rfl (s.kept_unlistenToViewport l)

end Sheet

namespace World

variable {w : World} {name : String} {r : SheetRef}

/-- An operation without effect on its sheet is without effect on the world. -/
theorem perform_eq_self {ρ : Type} {op : Sheet → Step ρ} {result : ρ}
    (still : op (w.sheet r) = .still (w.sheet r) result) : w.perform r op = (w, result) := by
  have same : w.setSheet r (w.sheet r) = w := by
    rw [setSheet, sheet, put_eq_self]
  rw [perform, still]
  exact congrArg (·, result) same

/-- A sheet refuses an operation exactly when it should, and whoever learns that nothing came of an
operation finds the world as it was: sheets, layers, listeners and the record. -/
theorem refused_iff_refuses (named : w.scene.sheetNamed? name = some r) (op : SheetCommand) :
    let reply := (w.execute (.sheet name op)).2
    (∀ e, reply = .refused e ↔ Refuses (w.sheet r) op e) ∧
      (reply.isAnswer = true ∨ ∃ e, reply = .refused e) ∧
      (Idle op reply → (w.execute (.sheet name op)).1 = w) := by
  have judged := (w.sheet r).judged_step op
  have performed : w.execute (.sheet name op) = w.perform r fun s => op.step s := by
    simp only [execute, withSheet, named]
  rw [performed]
  refine ⟨judged.refused_iff, judged.answers, fun idle => ?_⟩
  exact congrArg Prod.fst (perform_eq_self (judged.idle idle))

/-- A layer that is present is refused all the same at an index beyond the top. -/
theorem refused_iff_refuses_beyond :
    let l : LayerHandle := { object := 0, id := .numbered 0 }
    let w : World := (opening [(.blank, {})] [{ fails := .always }]).run
      [.create "m" none none ({} : TransformTable Float).reprojector, .sheet "m" (.add l),
        .sheet "m" (.listenToStack ⟨0⟩)]
    (w.execute (.sheet "m" (.insert 2 l))).2 = .refused (.indexOutOfBounds 2 1) ∧
      (w.execute (.sheet "m" (.insert 2 l))).1 = w := by
  intro l w
  have named : w.scene.sheetNamed? "m" = some ⟨0⟩ := by decide +kernel
  have live : (w.sheet ⟨0⟩).disposed = false := by decide +kernel
  have alone : (w.sheet ⟨0⟩).layerCount = 1 := by decide +kernel
  have refuses : Refuses (w.sheet ⟨0⟩) (.insert 2 l) (.indexOutOfBounds 2 1) := by
    rw [← alone]
    exact .insert live (by omega)
  obtain ⟨refused, -, kept⟩ := refused_iff_refuses named (.insert 2 l)
  have reply := (refused (.indexOutOfBounds 2 1)).mpr refuses
  exact ⟨reply, kept (reply ▸ .refused _)⟩

end World
end LayeredMap
