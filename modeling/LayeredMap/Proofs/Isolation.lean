import LayeredMap.Proofs.Chimes

/-!
# Listeners do not interfere

A run is compared with what it would have been without some listeners, or with
listeners that fail in other ways. Everything else goes on as before: commands
get the same replies, sheets and layers come to the same, layers are disposed
of as often, and everybody else is told the same in the same order. Without
some listeners, relays come up and go at other times, so it is needed that
whoever is left out pokes no layer, and neither does anybody who listens to a
layer itself, for a relay that is subscribed later is told later.
-/

namespace LayeredMap

variable {hidden : ListenerRef → Bool}

/-- What sheets told a listener, in order, with what he saw of a sheet but for whether it was
listening. -/
def Stage.heardBy (st : Stage) (l : ListenerRef) : List Delivery :=
  (st.deliveries.filter fun d => d.listener = l && !d.event.isDirect).map Delivery.outline

theorem Stage.heardBy_eq {l : ListenerRef} (in_sight : hidden l = false) (st : Stage) :
    st.heardBy l = (st.shown hidden).filter (·.listener = l) := by
  rw [heardBy, shown]
  induction st.deliveries with
  | nil => rfl
  | cons d ds ih =>
    have same : d.outline.listener = d.listener := rfl
    by_cases his : d.listener = l
    · cases direct : d.event.isDirect <;> simp [Delivery.shown?, same, his, in_sight, direct, ih]
    · cases hides : hidden d.listener <;> cases direct : d.event.isDirect <;>
        simp [Delivery.shown?, same, his, hides, direct, ih]

namespace World

/-- The replies to commands of a kind in the course of a run. -/
def replies (kind : Command → Bool) (w : World) : List Command → List Reply
  | [] => []
  | c :: cs =>
    let later := replies kind (w.execute c).1 cs
    if kind c then (w.execute c).2 :: later else later

/-- Sheets and layers have come to the same, and whoever is not hidden was told the same. -/
structure Indistinct (hidden : ListenerRef → Bool) (w w' : World) : Prop where
  handles : w'.scene.handles = w.scene.handles
  layers : ∀ r, (w'.sheet r).layers = (w.sheet r).layers
  title : ∀ r, (w'.sheet r).title = (w.sheet r).title
  userData : ∀ r, (w'.sheet r).userData = (w.sheet r).userData
  viewport : ∀ r, (w'.sheet r).viewport = (w.sheet r).viewport
  disposed : ∀ r, (w'.sheet r).disposed = (w.sheet r).disposed
  reprojectors : w'.scene.reprojectors = w.scene.reprojectors
  bodies : ∀ i, (w'.layer i).body = (w.layer i).body
  disposals : ∀ i, (w'.layer i).disposals = (w.layer i).disposals
  flags : w'.stage.flags = w.stage.flags
  heard : ∀ l, hidden l = false → w'.stage.heardBy l = w.stage.heardBy l

variable {w w' : World} {c : Command}

theorem Matches.indistinct (h : w.Matches hidden w') : w.Indistinct hidden w' where
  handles := h.scene.handles
  layers r := (h.scene.sheets r).layers
  title r := (h.scene.sheets r).title
  userData r := (h.scene.sheets r).userData
  viewport r := (h.scene.sheets r).viewport
  disposed r := (h.scene.sheets r).disposed
  reprojectors := h.scene.reprojectors
  bodies i := (h.scene.layers i).body
  disposals i := (h.scene.layers i).disposals
  flags := h.stage.flags
  heard l in_sight := by
    rw [Stage.heardBy_eq in_sight, Stage.heardBy_eq in_sight, h.stage.shown]

/-! ## Without some listeners -/

/-- Layers are in custody, and only onlookers listen to one. -/
structure Tended (w : World) : Prop where
  guarded : w.Guarded fun _ => True
  attended : ∀ i, (w.layer i).AttendedBy w.scene.Onlooker

theorem onlooker_execute (w : World) (c : Command) (l : ListenerRef) (h : w.scene.Onlooker l) :
    (w.execute c).1.scene.Onlooker l := by
  have same : (w.execute c).1.scene.conducts = w.scene.conducts := (cast_execute w c).conducts
  constructor
  · rw [same]
    exact h.pokes
  · rw [same]
    exact h.fails

theorem tended_execute (h : w.Tended) (ok : w.Guards (fun _ => True) c)
    (onlookers : ∀ i l, c = .layer i (.subscribe l) → w.scene.Onlooker l) :
    (w.execute c).1.Tended := by
  refine ⟨guarded_execute h.guarded ok, fun i => ?_⟩
  have attended := attended_execute h.guarded.sound h.attended onlookers i
  exact attended.mono (onlooker_execute w c)

theorem Matches.guards {which : Nat → Prop} (h : w.Matches hidden w')
    (after : (w.execute c).1.scene.Matches hidden (w'.execute c).1.scene) (ok : w.Guards which c) :
    w'.Guards which c := by
  have objects (r : SheetRef) : (w'.sheet r).objects = (w.sheet r).objects :=
    congrArg (List.map LayerHandle.object) (h.scene.sheets r).layers
  refine ⟨?_, ?_, ?_⟩
  · intro l hl
    exact (ok.genuine l hl).trans (h.scene.layers l.object).id.symm
  · intro x hx i hi own
    rw [h.scene.handles] at hx
    rw [objects] at hi
    exact ok.spared x hx i hi own
  · have objects' (r : SheetRef) :
        ((w'.execute c).1.sheet r).objects = ((w.execute c).1.sheet r).objects :=
      congrArg (List.map LayerHandle.object) (after.sheets r).layers
    intro x hx y hy other i hi own
    rw [after.handles] at hx hy
    rw [objects'] at hi ⊢
    exact ok.alone x hx y hy other i hi own

/-- Two worlds that match, with layers that are tended in both. -/
structure Abreast (hidden : ListenerRef → Bool) (w w' : World) : Prop where
  matched : w.Matches hidden w'
  cast : w'.scene.conducts = w.scene.conducts
  tended : w.Tended
  tended' : w'.Tended

/-- A hidden listener comes or goes in the one world, and the other stays behind. -/
theorem abreast_execute_of_veiled (h : w.Abreast hidden w') (ok : w.Guards (fun _ => True) c)
    (onlookers : ∀ i l, c = .layer i (.subscribe l) → w.scene.Onlooker l)
    (veiled : c.isVeiled hidden = true) : (w.execute c).1.Abreast hidden w' := by
  have aside : w.Matches hidden (w.execute c).1 :=
    execute_matches_of_veiled h.matched.scene.idle veiled
  have kept : (w.execute c).1.scene.conducts = w.scene.conducts := (cast_execute w c).conducts
  exact ⟨aside.symm.trans h.matched, h.cast.trans kept.symm, tended_execute h.tended ok onlookers,
    h.tended'⟩

/-- Anything else is done in both. -/
theorem abreast_execute (h : w.Abreast hidden w') (ok : w.Guards (fun _ => True) c)
    (onlookers : ∀ i l, c = .layer i (.subscribe l) → w.scene.Onlooker l)
    (seen : c.isVeiled hidden = false) :
    (w.execute c).1.Abreast hidden (w'.execute c).1 ∧ (w'.execute c).2 = (w.execute c).2 := by
  have scenes := scene_execute_matches h.matched seen
  have onlookers' (i : Nat) (l : ListenerRef) (same : c = .layer i (.subscribe l)) :
      w'.scene.Onlooker l := by
    have onlooker := onlookers i l same
    exact ⟨h.cast ▸ onlooker.pokes, h.cast ▸ onlooker.fails⟩
  have tended := tended_execute h.tended ok onlookers
  have tended' := tended_execute h.tended' (h.matched.guards scenes ok) onlookers'
  have chimes := tended.guarded.chimes tended'.guarded scenes tended.attended tended'.attended
  obtain ⟨matched, reply⟩ :=
    execute_matches h.matched h.tended.guarded.sound h.tended'.guarded.sound seen chimes
  have cast : (w'.execute c).1.scene.conducts = (w.execute c).1.scene.conducts := by
    rw [(cast_execute w' c).conducts, (cast_execute w c).conducts, h.cast]
  exact ⟨⟨matched, cast, tended, tended'⟩, reply⟩

/-- A run, and the same run without the commands by which hidden listeners come and go. -/
theorem run_without (cs : List Command) (w w' : World) (h : w.Abreast hidden w')
    (onlookers : ∀ i l, .layer i (.subscribe l) ∈ cs → w.scene.Onlooker l)
    (guards : Along (Guards fun _ => True) w cs) :
    let seen := fun c : Command => !c.isVeiled hidden
    w'.replies seen (cs.filter seen) = w.replies seen cs ∧
      (w.run cs).Matches hidden (w'.run (cs.filter seen)) := by
  intro seen
  induction cs generalizing w w' with
  | nil => exact ⟨rfl, h.matched⟩
  | cons c cs ih =>
    obtain ⟨ok, guards⟩ := guards
    have now (i : Nat) (l : ListenerRef) (same : c = .layer i (.subscribe l)) : w.scene.Onlooker l :=
      onlookers i l (same ▸ List.mem_cons_self)
    have later (i : Nat) (l : ListenerRef) (hc : .layer i (.subscribe l) ∈ cs) :
        (w.execute c).1.scene.Onlooker l :=
      onlooker_execute w c l (onlookers i l (List.mem_cons_of_mem c hc))
    rw [replies]
    cases veiled : c.isVeiled hidden with
    | true =>
      have next := abreast_execute_of_veiled h ok now veiled
      rw [List.filter_cons_of_neg (by simp [seen, veiled]), if_neg (by simp [seen, veiled])]
      exact ih _ w' next later guards
    | false =>
      obtain ⟨next, reply⟩ := abreast_execute h ok now veiled
      obtain ⟨rest, after⟩ := ih _ _ next later guards
      rw [List.filter_cons_of_pos (by simp [seen, veiled]), if_pos (by simp [seen, veiled]), replies,
        if_pos (by simp [seen, veiled]), reply, rest]
      exact ⟨rfl, after⟩

/-! ## With other failures -/

theorem recast_perform {conducts : ListenerRef → Conduct} (recast : w'.scene = { w.scene with conducts })
    {ρ : Type} (r : SheetRef) (op : Sheet → Step ρ) :
    (w'.perform r op).1.scene = { (w.perform r op).1.scene with conducts } := by
  have sheet : w'.sheet r = w.sheet r := by
    rw [World.sheet, recast]
    rfl
  have layers : (w'.perform r op).1.scene.layers = (w.perform r op).1.scene.layers := by
    funext i
    show (w'.perform r op).1.layer i = (w.perform r op).1.layer i
    rw [layer_perform, layer_perform, sheet, layer, recast]
    rfl
  have mine := scene_perform w r op
  have other := scene_perform w' r op
  rw [mine, other, layers, sheet, setSheet, recast]
  rfl

theorem congruence_recast (conducts : ListenerRef → Conduct) :
    Congruence (fun _ => True) fun sc sc' => sc' = { sc with conducts } where
  handles recast := by rw [recast]
  rename handles recast := by rw [recast]
  make r s reprojector recast := by rw [recast]
  drop r recast := recast_perform recast r _
  step r _ recast := recast_perform recast r _
  obey i c recast := by
    rw [recast]
    rfl

/-- The same scene in two worlds, but for how listeners behave who listen to no layer. -/
structure Recast (conducts conducts' : ListenerRef → Conduct) (w w' : World) : Prop where
  cast : w.scene.conducts = conducts
  recast : w'.scene = { w.scene with conducts := conducts' }
  matched : w.Matches (fun _ => false) w'
  sound : w.Sound
  sound' : w'.Sound
  steady : ∀ i, (w.layer i).AttendedBy fun l =>
    (conducts l).fails = .never ∧ (conducts' l).fails = .never

theorem seen_of_nobody_hidden (c : Command) : c.isVeiled (fun _ => false) = false := by
  have nobody (l? : Option ListenerRef) : (l?.any fun _ => false) = false := by cases l? <;> rfl
  cases c with
  | sheet name c => exact nobody c.listener?
  | _ => rfl

variable {conducts conducts' : ListenerRef → Conduct}

theorem recast_execute (h : w.Recast conducts conducts' w')
    (steady : ∀ i l, c = .layer i (.subscribe l) →
      (conducts l).fails = .never ∧ (conducts' l).fails = .never) :
    (w.execute c).1.Recast conducts conducts' (w'.execute c).1 ∧
      (w'.execute c).2 = (w.execute c).2 := by
  have cast : (w.execute c).1.scene.conducts = conducts := (cast_execute w c).conducts.trans h.cast
  have recast : (w'.execute c).1.scene = { (w.execute c).1.scene with conducts := conducts' } :=
    (congruence_recast conducts').execute h.recast h.matched.sheetsMade fun _ _ _ => trivial
  have attended := attended_execute h.sound h.steady steady
  have seen := seen_of_nobody_hidden c
  have chimes : Scene.Chimes (fun _ => false) (w.execute c).1.scene (w'.execute c).1.scene := by
    refine Scene.chimes_of_steady (scene_execute_matches h.matched seen) (by rw [recast]) ?_
    rw [recast, cast]
    exact attended
  obtain ⟨matched, reply⟩ := execute_matches h.matched h.sound h.sound' seen chimes
  exact ⟨⟨cast, recast, matched, sound_execute h.sound c, sound_execute h.sound' c, attended⟩, reply⟩

/-- A run, and the same run with listeners who fail in other ways. -/
theorem run_recast (cs : List Command) (w w' : World) (h : w.Recast conducts conducts' w')
    (steady : ∀ i l, .layer i (.subscribe l) ∈ cs →
      (conducts l).fails = .never ∧ (conducts' l).fails = .never) :
    w'.replies (fun _ => true) cs = w.replies (fun _ => true) cs ∧
      (w.run cs).Matches (fun _ => false) (w'.run cs) := by
  induction cs generalizing w w' with
  | nil => exact ⟨rfl, h.matched⟩
  | cons c cs ih =>
    obtain ⟨next, reply⟩ := recast_execute h fun i l same => steady i l (same ▸ List.mem_cons_self)
    obtain ⟨rest, after⟩ := ih _ _ next fun i l hc => steady i l (List.mem_cons_of_mem c hc)
    rw [replies, replies, reply, rest]
    exact ⟨rfl, after⟩

/-! ## Both comparisons -/

theorem tended_opening {layers : List (Layer × Flags)} (conducts : List Conduct)
    (fresh : ∀ x ∈ layers, x.1.subscribers = []) (loose : ∀ x ∈ layers, x.1.isSticky = false) :
    (opening layers conducts).Tended := by
  have unattended := layer_opening (P := (·.subscribers = [])) rfl fresh conducts
  refine ⟨guarded_opening conducts ?_ ?_, ?_⟩
  · intro i _
    exact layer_opening (P := (·.isSticky = false)) rfl loose conducts i
  · intro i _ r
    rw [Layer.relaysOf, unattended]
    rfl
  · intro i l hl
    rw [unattended] at hl
    exact absurd hl List.not_mem_nil

end World
end LayeredMap
