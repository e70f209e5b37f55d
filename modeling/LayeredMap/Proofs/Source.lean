import LayeredMap.Proofs.Announcement
import LayeredMap.Proofs.Sequence

/-!
# Who tells

Nobody is called out of the blue. Whatever somebody is told in the course of a
command he is told by a layer itself or by a sheet, and a sheet tells either of
the change of a member, which it passes on, or of what an operation on it has
to publish. In both cases he is on the roster of that sheet.
-/

namespace LayeredMap.World

/-! ## Commands that leave the listeners alone -/

theorem still_perform {ρ : Type} {op : Sheet → Step ρ} (w : World) (r : SheetRef)
    (mute : publications (op (w.sheet r)).actions = []) :
    w.stage.Still (w.perform r op).1.stage :=
  still_foldl_act (w.setSheet r (op (w.sheet r)).sheet) r mute

theorem still_settle (w : World) (r : SheetRef) {st : Stage} (before : w.stage = st) :
    st.Still (w.settle r).stage := by
  subst before
  rw [settle]
  split
  · exact .refl w.stage
  · exact still_perform w r (w.sheet r).publications_drop

theorem still_bind (w : World) (name : String) (r : SheetRef) {st : Stage} (before : w.stage = st) :
    st.Still (w.bind name r).stage := by
  subst before
  rw [bind]
  cases w.scene.sheetNamed? name with
  | none => exact .refl w.stage
  | some old => exact still_settle _ old rfl

theorem still_notes (w : World) (ns : List Notice) : w.stage.Still (ns.foldl note w).stage := by
  induction ns generalizing w with
  | nil => exact .refl w.stage
  | cons n ns ih => exact (Stage.still_note w.stage n).trans (ih (w.note n))

/-! ## Tellings -/

/-- In the course of a command the sheet tells somebody of something. -/
inductive ToldBy (w : World) (c : Command) (r : SheetRef) : Delivery → Prop
  | passedOn {e : LayerEvent} {i : Nat} {m : LayerHandle} {l : ListenerRef}
      (held : (w.execute c).1.scene.isOpen r = true)
      (index : ((w.execute c).1.sheet r).stack.indexOf? e.layer = some i)
      (member : ((w.execute c).1.sheet r).stack.get? i = some m)
      (listens : l ∈ ((w.execute c).1.sheet r).stackListeners.toList) :
      ToldBy w c r ((w.execute c).1.scene.told (.stack (.changed m i e)) l)
  | published {op : SheetCommand} {roster : Roster ListenerRef} {e : Event} {l : ListenerRef}
      (called : w.call? r c = some op)
      (due : (roster, e) ∈ publications (op.step (w.sheet r)).actions) (listens : l ∈ roster.toList) :
      ToldBy w c r ((w.execute c).1.scene.told e l)

/-- A layer tells somebody, or a sheet that fits. -/
def ToldByLayerOr (w : World) (c : Command) (who : SheetRef → Prop) (d : Delivery) : Prop :=
  (∃ e l, d = (w.execute c).1.scene.told (.layer e) l) ∨ ∃ r, who r ∧ w.ToldBy c r d

variable {w : World} {c : Command}

theorem heard_of_adds {st st' : Stage} {known : Delivery → Prop}
    (h : ∀ p : Delivery → Bool, (∀ d, known d → p d = false) → Stage.Adds p st st' []) :
    ∃ heard, st'.deliveries = st.deliveries ++ heard ∧ ∀ d ∈ heard, known d := by
  classical
  let foreign : Delivery → Bool := fun d => decide ¬ known d
  obtain ⟨heard, appended, foreigners⟩ := h foreign fun d hd => by simp [foreign, hd]
  refine ⟨heard, appended, fun d hd => ?_⟩
  by_contra unknown
  exact List.filter_eq_nil_iff.mp foreigners d hd (decide_eq_true unknown)

/-- A test that no telling passes ignores the echoes. -/
theorem ignores_of_untold {p : Delivery → Bool}
    (untold : ∀ d, w.ToldByLayerOr c (fun _ => True) d → p d = false) :
    (w.execute c).1.scene.Ignores p := by
  intro d hd
  apply untold
  cases hd with
  | direct l e => exact .inl ⟨e, l, rfl⟩
  | passedOn r e i m l held index member listens =>
    exact .inr ⟨r, trivial, .passedOn held index member listens⟩

theorem adds_of_still {p : Delivery → Bool} {st st' : Stage} (still : st.Still st') :
    Stage.Adds p st st' [] := .of_deliveries_eq still.deliveries

theorem call?_of_named {r : SheetRef} {name : String} (named : w.scene.sheetNamed? name = some r)
    (op : SheetCommand) : w.call? r (.sheet name op) = some op := if_pos named

theorem speaks_of_call {r : SheetRef} {op : SheetCommand} (sound : w.Sound)
    (called : w.call? r c = some op) :
    (w.execute c).1.scene.Speaks (publications (op.step (w.sheet r)).actions) w.stage
      (w.execute c).1.stage := by
  obtain ⟨name, rfl, named⟩ := eq_of_call? called
  rw [execute, withSheet, named]
  exact perform_speaks w r (Sheet.transition_step (sound.sheets r) op).orderly

/-- Whatever command is carried out, whoever is called is called by a layer or by a sheet. -/
theorem toldBy_execute (sound : w.Sound) (c : Command) :
    ∃ heard, (w.execute c).1.stage.deliveries = w.stage.deliveries ++ heard ∧
      ∀ d ∈ heard, w.ToldByLayerOr c (fun _ => True) d := by
  refine heard_of_adds fun p untold => ?_
  have ignores := ignores_of_untold untold
  cases c with
  | create name title crs reprojector => exact adds_of_still (still_bind _ _ _ rfl)
  | share name another =>
    rw [execute, withSheet]
    cases w.scene.sheetNamed? name with
    | none => exact adds_of_still (.refl w.stage)
    | some r => exact adds_of_still (still_bind _ _ _ rfl)
  | release name =>
    rw [execute, unbind]
    cases w.scene.sheetNamed? name with
    | none => exact adds_of_still (.refl w.stage)
    | some r => exact adds_of_still (still_settle _ r rfl)
  | sheet name op =>
    cases named : w.scene.sheetNamed? name with
    | none =>
      rw [execute, withSheet, named]
      exact adds_of_still (.refl w.stage)
    | some r =>
      have called := call?_of_named named op
      have adds := (speaks_of_call sound called).adds ignores
      have unheard : ((publications (op.step (w.sheet r)).actions).flatMap fun x =>
          x.1.toList.map ((w.execute (.sheet name op)).1.scene.told x.2)).filter p = [] := by
        refine List.filter_eq_nil_iff.mpr fun d hd => ?_
        obtain ⟨x, due, hd⟩ := List.mem_flatMap.mp hd
        obtain ⟨l, listens, rfl⟩ := List.mem_map.mp hd
        rw [untold _ (.inr ⟨r, trivial, .published called due listens⟩)]
        exact Bool.false_ne_true
      rwa [unheard] at adds
  | maxBounds name =>
    rw [execute, withSheet]
    cases w.scene.sheetNamed? name with
    | none => exact adds_of_still (.refl w.stage)
    | some r => exact adds_of_still (still_notes w _)
  | maxBoundsIn name preferred =>
    rw [execute, withSheet]
    cases w.scene.sheetNamed? name with
    | none => exact adds_of_still (.refl w.stage)
    | some r => exact adds_of_still (still_notes w _)
  | layer object c =>
    obtain ⟨stage, eq, adds⟩ := executeLayer_eq w object c
    rw [execute, eq] at ignores ⊢
    exact adds p ((Scene.ignores_withLayers _).mp ignores)

end LayeredMap.World
