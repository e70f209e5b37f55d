import LayeredMap.Proofs.Passage
import LayeredMap.Proofs.Refusal

/-!
# Rounds that are cut short

A sheet catches whoever fails when it tells its listeners, and goes on. A layer
does not. Its subscribers are told in turn up to the first listener of its own
that fails, which the caller is told instead of those who come after. If there
is a relay among them, what the layer changed never reaches the listeners of the
sheet. It has changed all the same.
-/

namespace LayeredMap

namespace Scene

variable {sc : Scene} {e : LayerEvent} {st st' : Stage} {subs reached : List Subscriber}
  {error : Option String}

/-- Subscribers are told one after the other, up to one that fails. -/
inductive GoesRound (sc : Scene) (e : LayerEvent) :
    List Subscriber → Stage → (reached : List Subscriber) → Stage → Option String → Prop
  | nobody (st : Stage) : GoesRound sc e [] st [] st none
  | calm {s : Subscriber} {subs reached : List Subscriber} {st st₁ st' : Stage}
      {error : Option String} (told : sc.tell sc.poke e s st = (st₁, none))
      (rest : GoesRound sc e subs st₁ reached st' error) :
      GoesRound sc e (s :: subs) st (s :: reached) st' error
  | cut {s : Subscriber} {subs : List Subscriber} {st st' : Stage} {error : String}
      (told : sc.tell sc.poke e s st = (st', some error)) :
      GoesRound sc e (s :: subs) st [s] st' (some error)

theorem goesRound (sc : Scene) (e : LayerEvent) (subs : List Subscriber) (st : Stage) :
    ∃ reached, sc.GoesRound e subs st reached (attemptAll (sc.tell sc.poke e) subs st).1
      (attemptAll (sc.tell sc.poke e) subs st).2 := by
  induction subs generalizing st with
  | nil => exact ⟨[], .nobody st⟩
  | cons s subs ih =>
    rw [attemptAll]
    cases told : sc.tell sc.poke e s st with
    | mk st₁ error =>
      cases error with
      | some error => exact ⟨[s], .cut told⟩
      | none =>
        obtain ⟨reached, rest⟩ := ih st₁
        exact ⟨s :: reached, .calm told rest⟩

/-- Everybody was told, or everybody up to a listener of the layer's own that may fail. -/
inductive Ends (sc : Scene) (subs reached : List Subscriber) : Option String → Prop
  | complete (all : reached = subs) : Ends sc subs reached none
  | cut {earlier later : List Subscriber} {l : ListenerRef} {error : String}
      (whole : subs = earlier ++ .listener l :: later) (upTo : reached = earlier ++ [.listener l])
      (fallible : sc.Fallible l) : Ends sc subs reached (some error)

namespace Ends

theorem cons (h : sc.Ends subs reached error) (s : Subscriber) :
    sc.Ends (s :: subs) (s :: reached) error := by
  cases h with
  | complete all => exact .complete (congrArg (List.cons s) all)
  | @cut earlier later l error whole upTo fallible =>
    have whole' : s :: subs = s :: earlier ++ .listener l :: later := congrArg (List.cons s) whole
    exact .cut whole' (congrArg (List.cons s) upTo) fallible

theorem of_sure (h : sc.Ends subs reached error)
    (sure : ∀ l, .listener l ∈ subs → ¬sc.Fallible l) : error = none ∧ reached = subs := by
  cases h with
  | complete all => exact ⟨rfl, all⟩
  | cut whole _ fallible => exact absurd fallible (sure _ (by simp [whole]))

/-- Those whom nobody comes before that may fail are told. -/
theorem reaches (h : sc.Ends subs reached error) {earlier later : List Subscriber}
    (whole : subs = earlier ++ later) (sure : ∀ l, .listener l ∈ earlier → ¬sc.Fallible l) :
    earlier <+: reached := by
  cases h with
  | complete all => exact ⟨later, (all.trans whole).symm⟩
  | @cut first last l _ split upTo fallible =>
    rw [upTo]
    rcases List.append_eq_append_iff.mp (split.symm.trans whole) with
      ⟨between, rfl, rest⟩ | ⟨between, rfl, -⟩
    · cases between with
      | nil => exact ⟨[.listener l], by rw [List.append_nil]⟩
      | cons s between =>
        obtain ⟨rfl, -⟩ := List.cons.inj rest
        exact absurd fallible (sure l (by simp))
    · exact ⟨between ++ [.listener l], (List.append_assoc ..).symm⟩

end Ends

theorem tell_sure {s : Subscriber} (sure : ∀ l, s = .listener l → ¬sc.Fallible l) :
    Succeeds (sc.tell sc.poke e s) := by
  refine tell_succeeds sure fun l own q poked => ?_
  exact pokeWithin_succeeds _ fun m listens there => sure l own (.setsOff poked listens there)

namespace GoesRound

theorem ends (h : sc.GoesRound e subs st reached st' error) : sc.Ends subs reached error := by
  induction h with
  | nobody => exact .complete rfl
  | calm _ _ ih => exact ih.cons _
  | @cut s subs st st' error told =>
    cases s with
    | relay r k => exact absurd (congrArg Prod.snd told) (Option.some_ne_none error).symm
    | listener l =>
      have whole : .listener l :: subs = [] ++ .listener l :: subs := rfl
      refine .cut whole rfl (Classical.byContradiction fun sure => ?_)
      have calm := tell_sure (e := e) (s := .listener l) (by rintro _ ⟨⟩; exact sure) st
      rw [told] at calm
      exact Option.some_ne_none error calm

/-- What is told is what those who are reached make be told. -/
theorem speaks (h : sc.GoesRound e subs st reached st' error) :
    sc.Speaks (reached.flatMap (sc.audience e)) st st' := by
  induction h with
  | nobody st => exact .done (.refl st)
  | @calm s subs reached st st₁ st' error told _ ih =>
    have first : sc.Speaks (sc.audience e s) st (sc.tell sc.poke e s st).1 := tell_speaks e s st
    rw [told] at first
    exact first.append ih
  | @cut s subs st st' error told =>
    have first : sc.Speaks (sc.audience e s) st (sc.tell sc.poke e s st).1 := tell_speaks e s st
    rw [told] at first
    rwa [List.flatMap_singleton]

/-- Nobody behind a listener who never lets the event pass is told. -/
theorem stops {l : ListenerRef} (fails : ∀ st, (sc.tell sc.poke e (.listener l) st).2 ≠ none)
    {earlier later : List Subscriber}
    (h : sc.GoesRound e (earlier ++ .listener l :: later) st reached st' error) :
    error ≠ none ∧ reached <+: earlier ++ [.listener l] := by
  induction earlier generalizing st reached with
  | nil =>
    cases h with
    | calm told => exact absurd (congrArg Prod.snd told) (fails st)
    | cut => exact ⟨Option.some_ne_none _, List.prefix_rfl⟩
  | cons s earlier ih =>
    cases h with
    | calm _ rest =>
      obtain ⟨failed, within⟩ := ih rest
      exact ⟨failed, List.cons_prefix_cons.mpr ⟨rfl, within⟩⟩
    | cut => exact ⟨Option.some_ne_none _, List.cons_prefix_cons.mpr ⟨rfl, List.nil_prefix⟩⟩

end GoesRound

theorem call_fails {l : ListenerRef} (planned : ∀ n, (sc.conducts l).fails.includes n = true)
    (e : Event) (st : Stage) : (sc.call sc.poke e l st).2 ≠ none := by
  rw [call]
  split
  · exact Option.some_ne_none _
  · rw [if_pos (planned _)]
    exact Option.some_ne_none _

/-- All of this is told; and if nobody who is told changes a layer in turn, that is all that is on
record, and no switch has moved. -/
def Delivers (sc : Scene) (told : List (Roster ListenerRef × Event)) (st st' : Stage) : Prop :=
  sc.Speaks told st st' ∧
    (sc.Quiet told → st.Gains (told.flatMap fun x => x.1.toList.map (sc.told x.2)) st')

end Scene

namespace World

theorem replied_snd (x : World × Option String) : (replied x).2 = x.2.elim .done .crashed := by
  obtain ⟨w, error⟩ := x
  cases error <;> rfl

/-- A layer changes and tells of it. Its subscribers are told in turn, each once, up to the first
whose turn fails, and that error is the reply. It is the turn of a listener to the layer itself who
may fail. Where there is none all are told, whatever those do who listen to a sheet, and so are in
any case all that come before the first one; but behind one that always fails nobody is told, relays
included. The layer has changed all the same. -/
theorem round_goes_to_first_failure (w : World) (i : Nat) {c : LayerCommand} {e : LayerEvent}
    (change : c.isChange = true) (fired : c.fires (w.layer i) (w.stage.flags i) = some e) :
    let subs := (w.layer i).subscribers
    let w' := (w.execute (.layer i c)).1
    let sc := w'.scene
    sc = (w.changed i c).scene ∧
    ∃ reached error,
      (w.execute (.layer i c)).2 = error.elim .done .crashed ∧
      sc.GoesRound e subs (w.changed i c).stage reached w'.stage error ∧
      sc.Ends subs reached error ∧
      sc.Delivers (reached.flatMap (sc.audience e)) (w.changed i c).stage w'.stage ∧
      ((∀ l ∈ (w.layer i).directs, ¬sc.Fallible l) → error = none ∧ reached = subs) ∧
      (∀ earlier later, subs = earlier ++ later →
        (∀ l, .listener l ∈ earlier → ¬sc.Fallible l) → earlier <+: reached) ∧
      ∀ earlier l later, subs = earlier ++ .listener l :: later →
        (∀ n, (sc.conducts l).fails.includes n = true) →
        error ≠ none ∧ reached <+: earlier ++ [.listener l] := by
  intro subs w' sc
  let changed := w.changed i c
  have executed : w.execute (.layer i c) = replied (changed.fire i e) := by
    rw [execute_change change, fired]
  have left : w' = (changed.fire i e).1 := (congrArg Prod.fst executed).trans (replied_fst _)
  have same : sc = changed.scene := congrArg (·.scene) left
  have subscribers : (changed.scene.layers i).subscribers = subs := by
    show (put w.scene.layers i ((w.layer i).obey c) i).subscribers = subs
    rw [put_self, subscribers_obey change]
  obtain ⟨reached, round⟩ : ∃ reached, changed.scene.GoesRound e
      (changed.scene.layers i).subscribers changed.stage reached (changed.fire i e).1.stage
      (changed.fire i e).2 := changed.scene.goesRound e _ changed.stage
  rw [subscribers, ← left, ← same] at round
  have told := round.speaks
  refine ⟨same, reached, (changed.fire i e).2, ?_, round, round.ends,
    ⟨told, fun quiet => told.gains quiet⟩, ?_, fun _ _ whole => round.ends.reaches whole, ?_⟩
  · rw [executed, replied_snd]
  · intro sure
    exact round.ends.of_sure fun l hl => sure l (List.mem_filterMap.mpr ⟨_, hl, rfl⟩)
  · intro earlier l later split planned
    rw [split] at round
    exact round.stops (Scene.call_fails planned (.layer e))

/-- The layer is on a sheet that somebody listens to. Of its own listeners, who were there before,
the second one always fails: the first hears of the change, and so does he. -/
theorem round_goes_to_second :
    let layer : Layer := { id := .numbered 0, body := .fixed { title := "t" } }
    let w₀ := opening [(layer, {})] [{}, { fails := .always, error := "e" }]
    let cs : List Command :=
      [.layer 0 (.subscribe ⟨0⟩), .layer 0 (.subscribe ⟨1⟩),
        .create "m" none none ({} : TransformTable Float).reprojector,
        .sheet "m" (.add ⟨0, .numbered 0⟩), .sheet "m" (.listenToStack ⟨2⟩)]
    let w := w₀.run cs
    let w' := (w.execute (.layer 0 (.setVisible false))).1
    let e : LayerEvent := { layer := .numbered 0, change := .hidden }
    (∃ error, (w.execute (.layer 0 (.setVisible false))).2 = .crashed error) ∧
      (w'.stage.flags 0).visible = false ∧
      w'.stage.deliveries = w.stage.deliveries ++
        [w'.scene.told (.layer e) ⟨0⟩, w'.scene.told (.layer e) ⟨1⟩] := by
  intro layer w₀ cs w w' e
  have subscribers : (w.layer 0).subscribers =
      [.listener ⟨0⟩, .listener ⟨1⟩, .relay ⟨0⟩ 0] := by decide +kernel
  have fired : LayerCommand.fires (w.layer 0) (w.stage.flags 0) (.setVisible false) = some e := by
    decide +kernel
  have hidden : ((w.changed 0 (.setVisible false)).stage.flags 0).visible = false := by
    decide +kernel
  have all := round_goes_to_first_failure w 0 rfl fired
  have started : w = w₀.run cs := rfl
  clear_value w
  have kept : w.scene.conducts = w₀.scene.conducts := started ▸ conducts_run w₀ cs
  have conducts : w'.scene.conducts = w₀.scene.conducts :=
    (cast_execute w (.layer 0 (.setVisible false))).conducts.trans kept
  rw [subscribers] at all
  obtain ⟨-, reached, error, reply, -, ends, ⟨-, recorded⟩, -, -, stops⟩ := all
  have pokes (l : ListenerRef) : (w'.scene.conducts l).pokes = [] := by
    rw [conducts]
    match l with
    | ⟨0⟩ | ⟨1⟩ | ⟨n + 2⟩ => rfl
  have sure : ¬w'.scene.Fallible ⟨0⟩ := by
    rintro (planned | ⟨poked, -, -⟩)
    · rw [conducts] at planned
      exact Bool.false_ne_true planned
    · rw [pokes] at poked
      exact List.not_mem_nil poked
  obtain ⟨failed, within⟩ := stops [.listener ⟨0⟩] ⟨1⟩ [.relay ⟨0⟩ 0] rfl fun n => by
    rw [conducts]
    rfl
  -- The first one never fails, so the round was cut at the second.
  have both : reached = [.listener ⟨0⟩, .listener ⟨1⟩] ∧ ∃ text, error = some text := by
    cases ends with
    | complete => exact absurd rfl failed
    | @cut earlier _ l text _ upTo fallible =>
      rw [upTo] at within
      cases earlier with
      | nil =>
        obtain ⟨own, -⟩ := List.cons_prefix_cons.mp within
        exact absurd (Subscriber.listener.inj own ▸ fallible) sure
      | cons s earlier =>
        refine ⟨?_, text, rfl⟩
        rw [upTo]
        refine within.eq_of_length_le ?_
        exact Nat.succ_le_succ (by simp)
  obtain ⟨rfl, text, rfl⟩ := both
  obtain ⟨flags, appended⟩ := recorded fun _ _ l _ => pokes l
  refine ⟨⟨text, reply⟩, ?_, ?_⟩
  · rw [flags]
    exact hidden
  · rw [appended]
    rfl

/-- A failure that the layer does not catch. Whoever comes first among its own listeners fails; the
one after him and the one who listens to the sheet are told nothing, though the layer is on the
sheet and is hidden, and the caller is told of the failure. -/
theorem change_kept_from_sheet :
    let layer : Layer := { id := .numbered 0, body := .fixed { title := "t" } }
    let w := (opening [(layer, {})] [{ fails := .always, error := "e" }]).run
      [.layer 0 (.subscribe ⟨0⟩), .layer 0 (.subscribe ⟨1⟩),
        .create "m" none none ({} : TransformTable Float).reprojector,
        .sheet "m" (.add ⟨0, .numbered 0⟩), .sheet "m" (.listenToStack ⟨2⟩)]
    let w' := (w.execute (.layer 0 (.setVisible false))).1
    let called := w'.stage.deliveries.map (·.listener)
    (w.layer 0).directs = [⟨0⟩, ⟨1⟩] ∧ w.scene.isOpen ⟨0⟩ = true ∧
      (w.sheet ⟨0⟩).layers = [⟨0, .numbered 0⟩] ∧ (w.sheet ⟨0⟩).stackListeners.toList = [⟨2⟩] ∧
      (w.stage.flags 0).visible = true ∧ (w'.stage.flags 0).visible = false ∧
      ¬(⟨1⟩ ∈ called ∨ ⟨2⟩ ∈ called ∨ (w.execute (.layer 0 (.setVisible false))).2 = .done) := by
  intro layer w w' called
  have unanswered : (w.execute (.layer 0 (.setVisible false))).2.isAnswer = false := by
    decide +kernel
  have alone : called = [⟨0⟩] := by decide +kernel
  refine ⟨by decide +kernel, by decide +kernel, by decide +kernel, by decide +kernel,
    by decide +kernel, by decide +kernel, ?_⟩
  rw [alone]
  rintro (told | told | returned)
  · exact absurd told (by decide)
  · exact absurd told (by decide)
  · have answered := congrArg Reply.isAnswer returned
    exact absurd (unanswered.symm.trans answered) Bool.false_ne_true

end World
end LayeredMap
