import LayeredMap.Proofs.Members

/-!
# Conservation of members

A sheet owes each layer object one disposal for each time that it let it in.
No step lets layers in and out at once, and each of those that go out is
disposed of in the step that lets it go, so at any time the debt is the number
of times that the object is a member: once or not at all.
-/

namespace LayeredMap

/-- The action disposes of the object. -/
def Action.disposes (object : Nat) : Action → Bool
  | .dispose l => l.object == object
  | _ => false

theorem Layer.disposals_subscribe (l : Layer) (s : Subscriber) :
    (l.subscribe s).disposals = l.disposals := by
  rw [subscribe]
  split <;> rfl

theorem Layer.disposals_unsubscribe (l : Layer) (s : Subscriber) :
    (l.unsubscribe s).disposals = l.disposals := by
  rw [unsubscribe]
  split <;> rfl

theorem Layer.disposals_receive (r : SheetRef) (i : Nat) (l : Layer) (a : Action) :
    (l.receive r i a).disposals = l.disposals + if a.disposes i then 1 else 0 := by
  cases a with
  | subscribe h n =>
    rw [receive]
    split
    · exact disposals_subscribe l _
    · rfl
  | unsubscribe h n =>
    rw [receive]
    split
    · exact disposals_unsubscribe l _
    · rfl
  | dispose h =>
    by_cases same : h.object = i
    · rw [receive, if_pos same]
      rcases dispose_cases l with eq | ⟨body, eq⟩ <;> simp [eq, Action.disposes, same]
    · simp [receive, Action.disposes, same]
  | note n => rfl
  | publish roster e => rfl

theorem Layer.disposals_foldl_receive (r : SheetRef) (i : Nat) (l : Layer)
    (actions : List Action) : (actions.foldl (receive r i) l).disposals =
      l.disposals + actions.countP (Action.disposes i) := by
  induction actions generalizing l with
  | nil => rfl
  | cons a rest ih =>
    rw [List.foldl_cons, ih, disposals_receive, List.countP_cons]
    omega

namespace Sheet

/-- How often an object is a member. -/
def copies (s : Sheet) (object : Nat) : Nat := s.layers.countP (·.object == object)

variable (s : Sheet) (i : Nat) (ls : List LayerHandle)

theorem countP_leaving :
    (ls.flatMap s.leaving).countP (Action.disposes i) = ls.countP (·.object == i) := by
  induction ls with
  | nil => rfl
  | cons l ls ih =>
    have one : (s.leaving l).countP (Action.disposes i) = if l.object == i then 1 else 0 := by
      rw [leaving]
      cases s.relay <;> simp [Action.disposes, List.countP_cons]
    rw [List.flatMap_cons, List.countP_append, one, ih, List.countP_cons, Nat.add_comm]

theorem countP_entering : (ls.flatMap s.entering).countP (Action.disposes i) = 0 := by
  apply List.countP_eq_zero.mpr
  intro a ha
  obtain ⟨l, k, rfl⟩ := mem_entering ha
  exact Bool.false_ne_true

theorem countP_resubscribing (f : LayerHandle → Action) (h : ∀ l, (f l).disposes i = false)
    (n : Notice) : (ls.map f ++ [Action.note n]).countP (Action.disposes i) = 0 := by
  apply List.countP_eq_zero.mpr
  intro a ha
  rcases List.mem_append.mp ha with ha | ha
  · obtain ⟨l, -, rfl⟩ := List.mem_map.mp ha
    exact Bool.eq_false_iff.mp (h l)
  · rw [List.mem_singleton.mp ha]
    exact Bool.false_ne_true

variable {s i} {s' : Sheet} {offer : Offer} {actions : List Action}

theorem Transition.conserves (t : Transition offer s s' actions) :
    (actions.countP (Action.disposes i) = 0 ∧ s.copies i ≤ s'.copies i) ∨
      actions.countP (Action.disposes i) + s'.copies i = s.copies i := by
  have told (n : Notice) (e : StackEvent) :
      [Action.note n, s.publishStack e].countP (Action.disposes i) = 0 := rfl
  cases t with
  | aside alike unheard =>
    refine Or.inl ⟨List.countP_eq_zero.mpr ?_, Nat.le_of_eq (congrArg _ alike.layers_eq.symm)⟩
    intro a ha
    cases unheard a ha <;> exact Bool.false_ne_true
  | gain _ _ grows _ _ =>
    refine Or.inl ⟨?_, ?_⟩
    · rw [List.countP_append, countP_entering, told]
    · have more := grows.countP_eq (·.object == i)
      rw [List.countP_append] at more
      exact Nat.le.intro more.symm
  | lose _ shrinks _ =>
    refine Or.inr ?_
    have less := shrinks.countP_eq (·.object == i)
    rw [List.countP_append] at less
    rw [List.countP_append, countP_leaving, told]
    exact less.symm
  | finish _ n =>
    have after (as : List Action) (h : as = [] ∨ ∃ e, as = [s.publishStack e]) :
        (Action.note n :: as).countP (Action.disposes i) = 0 := by
      rcases h with rfl | ⟨e, rfl⟩ <;> rfl
    refine Or.inr ?_
    rw [List.countP_append, allLeaving, countP_leaving, after]
    · rfl
    · split
      · exact Or.inl rfl
      · exact Or.inr ⟨_, rfl⟩
  | abandon _ n =>
    refine Or.inr ?_
    rw [List.countP_cons, allLeaving, countP_leaving]
    rfl
  | relist => exact Or.inl ⟨rfl, Nat.le_refl _⟩
  | start => exact Or.inl ⟨countP_resubscribing i _ _ (fun _ => rfl) _, Nat.le_refl _⟩
  | stop => exact Or.inl ⟨countP_resubscribing i _ _ (fun _ => rfl) _, Nat.le_refl _⟩

end Sheet

/-! ## Along a run -/

namespace World

/-- How often an object came into a sheet in a run. -/
def entries (r : SheetRef) (object : Nat) (w : World) : List Command → Nat
  | [] => 0
  | c :: cs =>
    (((w.execute c).1.sheet r).copies object - (w.sheet r).copies object)
      + entries r object (w.execute c).1 cs

/-- How often an object was disposed of in a run by commands on which a sheet acts. -/
def disposalsBy (r : SheetRef) (object : Nat) (w : World) : List Command → Nat
  | [] => 0
  | c :: cs =>
    (if w.actor c = some r then
      ((w.execute c).1.layer object).disposals - (w.layer object).disposals else 0)
      + disposalsBy r object (w.execute c).1 cs

variable {w : World}

/-- What one command disposes of has left, and what has left is disposed of. -/
theorem execute_conserves (sound : w.Sound) (c : Command) (r : SheetRef) (i : Nat) :
    (if w.actor c = some r then ((w.execute c).1.layer i).disposals - (w.layer i).disposals else 0)
      + ((w.execute c).1.sheet r).copies i =
    (w.sheet r).copies i + (((w.execute c).1.sheet r).copies i - (w.sheet r).copies i) := by
  rcases execute_course sound c with ⟨r₀, actions, acts⟩ | rests
  · by_cases mine : r = r₀
    · subst mine
      have made : ((w.execute c).1.layer i).disposals - (w.layer i).disposals =
          actions.countP (Action.disposes i) := by
        rw [acts.layers, Layer.disposals_foldl_receive]
        omega
      rw [if_pos acts.actor, made]
      rcases acts.transition.conserves (i := i) with ⟨none_disposed, more⟩ | lost
      · omega
      · omega
    · have other : w.actor c ≠ some r := fun h => mine (Option.some.inj (h.symm.trans acts.actor))
      have same : ((w.execute c).1.sheet r).copies i = (w.sheet r).copies i :=
        congrArg _ (acts.others r mine).layers_eq
      rw [if_neg other]
      omega
  · have same : ((w.execute c).1.sheet r).copies i = (w.sheet r).copies i :=
      congrArg _ (rests.sheets r).layers_eq
    by_cases mine : w.actor c = some r
    · have kept : (w.execute c).1.layer i = w.layer i :=
        (rests.layers i).trans (suffer_of_actor mine i _)
      rw [if_pos mine, kept]
      omega
    · rw [if_neg mine]
      omega

theorem run_conserves (sound : w.Sound) (cs : List Command) (r : SheetRef) (i : Nat) :
    disposalsBy r i w cs + ((w.run cs).sheet r).copies i =
      (w.sheet r).copies i + entries r i w cs := by
  induction cs generalizing w with
  | nil => exact Nat.add_comm 0 _
  | cons c cs ih =>
    have first := execute_conserves sound c r i
    have later := ih (sound_execute sound c)
    have same : w.run (c :: cs) = (w.execute c).1.run cs := rfl
    rw [same, disposalsBy, entries]
    omega

/-- A genuine member is there once. -/
theorem copies_eq_ite (sound : w.Sound) (genuine : w.GenuineMembers) (r : SheetRef) (i : Nat) :
    (w.sheet r).copies i = if ∃ l ∈ (w.sheet r).layers, l.object = i then 1 else 0 := by
  have once := nodup_objects sound genuine r
  have counted : (w.sheet r).copies i = ((w.sheet r).layers.map (·.object)).count i := by
    rw [List.count_eq_countP, List.countP_map]
    rfl
  rw [counted, once.count]
  exact if_congr List.mem_map rfl rfl

theorem copies_of_gone (sound : w.Sound) (settled : w.Settled) {r : SheetRef}
    (gone : (w.sheet r).disposed = true ∨ w.scene.isOpen r = false) (i : Nat) :
    (w.sheet r).copies i = 0 := by
  have vacant : (w.sheet r).layers = [] := by
    rcases gone with ended | closed
    · exact ((sound.sheets r).ended ended).1
    · exact settled.closed r closed
  rw [Sheet.copies, vacant]
  rfl

/-- In a run from an opening, a sheet disposes of an object as often as it came in, less once if it
is a member at the end. Nothing is a member of a sheet that is disposed or that nobody holds. -/
theorem disposalsBy_eq_entries (layers : List (Layer × Flags)) (conducts : List Conduct)
    (cs : List Command) (genuine : Along Genuine (opening layers conducts) cs) (r : SheetRef)
    (i : Nat) :
    let w := opening layers conducts
    (disposalsBy r i w cs +
        (if ∃ l ∈ ((w.run cs).sheet r).layers, l.object = i then 1 else 0) = entries r i w cs) ∧
      (((w.run cs).sheet r).disposed = true ∨ (w.run cs).scene.isOpen r = false →
        disposalsBy r i w cs = entries r i w cs) := by
  intro w
  have sound : w.Sound := sound_opening layers conducts
  have members : (w.run cs).GenuineMembers :=
    (run_keeps (fun w => w.Sound ∧ w.GenuineMembers)
      (fun w c h ok => ⟨sound_execute h.1 c, genuineMembers_execute h.1 ok h.2⟩) cs w genuine
      ⟨sound, genuineMembers_opening layers conducts⟩).2
  have none_yet : (w.sheet r).copies i = 0 := rfl
  have law := run_conserves sound cs r i
  constructor
  · rw [← copies_eq_ite (sound_run sound cs) members]
    omega
  · intro gone
    rw [copies_of_gone (sound_run sound cs)
      (settled_run sound (settled_opening layers conducts) cs) gone] at law
    omega

/-- A layer that came in twice, once in a batch that names it twice, and was let go when its sheet
was replaced. -/
theorem disposalsBy_eq_entries_readded :
    let l : LayerHandle := { object := 0, id := .numbered 0 }
    let twin : LayerHandle := { object := 1, id := .numbered 0 }
    let sticky : Layer := { Layer.blank with body := .foreign { report := .unknown, sticky := true } }
    let w : World := .opening [(sticky, {}), (.blank, {})] []
    let make : Command := .create "m" none none ({} : TransformTable Float).reprojector
    let cs : List Command :=
      [make, .sheet "m" (.add l), .sheet "m" (.add twin), .sheet "m" (.remove l.id),
        .sheet "m" (.addAll [l, l, twin]), make]
    Along Genuine w cs ∧ disposalsBy ⟨0⟩ 0 w cs = 2 ∧ disposalsBy ⟨0⟩ 1 w cs = 0 := by
  intro l twin sticky w make cs
  have genuine : Along Genuine w cs := by decide +kernel
  have gone : (w.run cs).scene.isOpen ⟨0⟩ = false := by decide +kernel
  have law (i : Nat) : disposalsBy ⟨0⟩ i w cs = entries ⟨0⟩ i w cs :=
    (disposalsBy_eq_entries _ _ cs genuine ⟨0⟩ i).2 (Or.inr gone)
  refine ⟨genuine, ?_, ?_⟩
  · rw [law]
    decide +kernel
  · rw [law]
    decide +kernel

end World
end LayeredMap
