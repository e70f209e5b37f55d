import LayeredMap.Proofs.Course

/-!
# Runs

Every world that a run leads to is sound, binds no name twice and has nothing
on the sheets that no name is bound to. Conditions on a run are conditions on
each of its commands where it is carried out.
-/

namespace LayeredMap.World

variable {w : World}

theorem sound_opening (layers : List (Layer × Flags)) (conducts : List Conduct) :
    (opening layers conducts).Sound := by
  refine ⟨?_, ?_, ?_⟩
  · intro r
    exact ⟨List.nodup_nil, List.nodup_nil, ⟨fun _ => rfl, fun _ => rfl⟩, fun _ => ⟨rfl, rfl⟩⟩
  · intro x hx
    exact absurd hx List.not_mem_nil
  · intro r _
    exact .refl {}

/-- What holds of the layers that are given, and of the blank one, holds of every layer. -/
theorem layer_opening {P : Layer → Prop} {layers : List (Layer × Flags)} (blank : P .blank)
    (given : ∀ x ∈ layers, P x.1) (conducts : List Conduct) (i : Nat) :
    P ((opening layers conducts).layer i) := by
  show P ((layers[i]?.map fun x => x.1).getD Layer.blank)
  cases hx : layers[i]? with
  | none => exact blank
  | some x => exact given x (List.mem_of_getElem? hx)

theorem bound_execute (sound : w.Sound) (c : Command) :
    ∀ x ∈ (w.execute c).1.scene.handles, x.2.number < (w.execute c).1.sheetsMade := by
  have cast := cast_execute w c
  rw [cast.handles, cast.sheetsMade]
  have kept : ∀ x ∈ w.scene.handles, x.2.number < w.sheetsMade + c.made := fun x hx =>
    Nat.lt_of_lt_of_le (sound.bound x hx) (Nat.le_add_right _ _)
  have thinned : ∀ name, ∀ x ∈ w.scene.handles.filter (·.1 ≠ name),
      x.2.number < w.sheetsMade + c.made := fun name x hx => kept x (List.mem_of_mem_filter hx)
  intro x hx
  cases c with
  | create name title crs reprojector =>
    rcases List.mem_cons.mp hx with rfl | hx
    · exact Nat.lt_succ_self w.sheetsMade
    · exact thinned name x hx
  | share name another =>
    rw [handlesAfter] at hx
    cases bound : w.scene.sheetNamed? name with
    | none =>
      rw [bound] at hx
      exact kept x hx
    | some r =>
      rw [bound] at hx
      rcases List.mem_cons.mp hx with rfl | hx
      · exact kept (name, r) (mem_of_sheetNamed? w bound)
      · exact thinned another x hx
  | release name => exact thinned name x hx
  | _ => exact kept x hx

theorem sound_execute (sound : w.Sound) (c : Command) : (w.execute c).1.Sound := by
  have made : (w.execute c).1.sheetsMade = w.sheetsMade + c.made := (cast_execute w c).sheetsMade
  refine ⟨?_, bound_execute sound c, ?_⟩
  · intro r
    rcases execute_course sound c with ⟨r₀, actions, acts⟩ | rests
    · by_cases same : r = r₀
      · rw [same]
        exact acts.transition.sound (sound.sheets r₀)
      · exact (acts.others r same).sound (sound.sheets r)
    · exact (rests.sheets r).sound (sound.sheets r)
  · intro r unmade
    have unborn : w.sheetsMade ≤ r.number := by omega
    rcases execute_course sound c with ⟨r₀, actions, acts⟩ | rests
    · have other : r ≠ r₀ := by
        rintro rfl
        obtain ⟨x, hx, rfl⟩ := (isOpen_iff w).mp (isOpen_of_actor acts.actor)
        exact Nat.not_lt_of_le unborn (sound.bound x hx)
      exact (sound.unborn r unborn).trans (acts.others r other)
    · exact (sound.unborn r unborn).trans (rests.sheets r)

/-- No name is bound twice, and a sheet that nobody holds is empty. -/
structure Settled (w : World) : Prop where
  names : w.NamesOnce
  closed : ∀ r, w.scene.isOpen r = false → (w.sheet r).layers = []

theorem settled_opening (layers : List (Layer × Flags)) (conducts : List Conduct) :
    (opening layers conducts).Settled :=
  ⟨List.nodup_nil, fun _ _ => rfl⟩

theorem actor_of_rebinds {c : Command} {name : String} (h : c.rebinds = some name) :
    w.actor c = w.scene.sheetNamed? name := by
  cases c with
  | create other title crs reprojector => exact congrArg w.scene.sheetNamed? (Option.some.inj h)
  | share source other => exact congrArg w.scene.sheetNamed? (Option.some.inj h)
  | release other => exact congrArg w.scene.sheetNamed? (Option.some.inj h)
  | _ => exact absurd h (Option.some_ne_none name).symm

theorem settled_execute (sound : w.Sound) (settled : w.Settled) (c : Command) :
    (w.execute c).1.Settled := by
  refine ⟨namesOnce_execute w settled.names c, ?_⟩
  intro r closed
  have vacant (alike : (w.sheet r).Alike ((w.execute c).1.sheet r))
      (before : w.scene.isOpen r = false) : ((w.execute c).1.sheet r).layers = [] :=
    alike.layers_eq.trans (settled.closed r before)
  by_cases held : w.scene.isOpen r = true
  · obtain ⟨name, rebinds, bound⟩ := sheetNamed?_of_closed w settled.names held closed
    have actor : w.actor c = some r := (actor_of_rebinds rebinds).trans bound
    rcases execute_course sound c with ⟨r₀, actions, acts⟩ | rests
    · obtain rfl := Option.some.inj (actor.symm.trans acts.actor)
      exact acts.closing closed
    · rw [rests.held r actor] at closed
      exact absurd closed.symm Bool.false_ne_true
  · have before : w.scene.isOpen r = false := Bool.eq_false_iff.mpr held
    rcases execute_course sound c with ⟨r₀, actions, acts⟩ | rests
    · have other : r ≠ r₀ := by
        rintro rfl
        exact held (isOpen_of_actor acts.actor)
      exact vacant (acts.others r other) before
    · exact vacant (rests.sheets r) before

theorem sheetsMade_run_le (w : World) (cs : List Command) :
    w.sheetsMade ≤ (w.run cs).sheetsMade := by
  induction cs generalizing w with
  | nil => exact Nat.le_refl _
  | cons c cs ih =>
    have made := (cast_execute w c).sheetsMade
    exact Nat.le_trans (by omega) (ih (w.execute c).1)

theorem conducts_run (w : World) (cs : List Command) :
    (w.run cs).scene.conducts = w.scene.conducts := by
  induction cs generalizing w with
  | nil => rfl
  | cons c cs ih => exact (ih (w.execute c).1).trans (cast_execute w c).conducts

/-! ## Along a run -/

/-- Each command of the run meets the condition where it is carried out. -/
def Along (ok : World → Command → Prop) (w : World) : List Command → Prop
  | [] => True
  | c :: cs => ok w c ∧ Along ok (w.execute c).1 cs

instance decidableAlong (ok : World → Command → Prop) [∀ w c, Decidable (ok w c)] :
    (w : World) → (cs : List Command) → Decidable (Along ok w cs)
  | _, [] => isTrue trivial
  | w, c :: cs =>
    have := decidableAlong ok (w.execute c).1 cs
    inferInstanceAs (Decidable (ok w c ∧ Along ok (w.execute c).1 cs))

/-- What each command keeps up under its condition is kept up by the run. -/
theorem run_keeps {ok : World → Command → Prop} (P : World → Prop)
    (step : ∀ w c, P w → ok w c → P (w.execute c).1) (cs : List Command) (w : World)
    (along : Along ok w cs) (h : P w) : P (w.run cs) := by
  induction cs generalizing w with
  | nil => exact h
  | cons c cs ih => exact ih (w.execute c).1 along.2 (step w c h along.1)

theorem sound_run (sound : w.Sound) (cs : List Command) : (w.run cs).Sound := by
  induction cs generalizing w with
  | nil => exact sound
  | cons c cs ih => exact ih (sound_execute sound c)

theorem settled_run (sound : w.Sound) (settled : w.Settled) (cs : List Command) :
    (w.run cs).Settled := by
  induction cs generalizing w with
  | nil => exact settled
  | cons c cs ih => exact ih (sound_execute sound c) (settled_execute sound settled c)

theorem run_append (w : World) (cs cs' : List Command) :
    w.run (cs ++ cs') = (w.run cs).run cs' := List.foldl_append

/-- A run from an opening leads there. -/
def Reachable (w : World) : Prop :=
  ∃ layers conducts cs, w = (opening layers conducts).run cs

theorem Reachable.run (h : w.Reachable) (cs : List Command) : (w.run cs).Reachable := by
  obtain ⟨layers, conducts, earlier, rfl⟩ := h
  exact ⟨layers, conducts, earlier ++ cs, (run_append _ earlier cs).symm⟩

theorem Reachable.sound (h : w.Reachable) : w.Sound := by
  obtain ⟨layers, conducts, cs, rfl⟩ := h
  exact sound_run (sound_opening layers conducts) cs

end LayeredMap.World
