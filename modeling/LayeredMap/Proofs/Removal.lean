import LayeredMap.Proofs.Members
import LayeredMap.Proofs.Publication
import LayeredMap.Proofs.Sequence

/-!
# Removal in bulk

Layers go by a list of those to be removed or by a list of those to be kept.
Positions, calls on layers and what is left are worked out one after the other,
each by the same test, so two tests that agree on the members come to the same
step. Those that fit are let go of and disposed of once each from the bottom
up, and no call is made on those that stay.
-/

namespace LayeredMap

/-- What the actions do to layers, call after call. -/
def layerCalls (actions : List Action) : List Action := actions.filter (!·.sparesLayers)

theorem layerCalls_append (as bs : List Action) :
    layerCalls (as ++ bs) = layerCalls as ++ layerCalls bs :=
  List.filter_append as bs

/-- The layer after a sheet has let go of it: told to let go of the relay, if there is one, and then
disposed of. -/
def Layer.released (r : SheetRef) (relay : Option Nat) (l : Layer) : Layer :=
  match relay with
  | some k => (l.unsubscribe (.relay r k)).dispose.1
  | none => l.dispose.1

namespace Stack

/-- Tests that agree on the layers of a stack find the same positions. -/
theorem positions_congr {s : Stack} {p q : LayerHandle → Bool} (agree : ∀ l ∈ s.layers, p l = q l) :
    s.positions p = s.positions q := by
  have pairs : s.layers.zipIdx.filter (fun x => p x.1) = s.layers.zipIdx.filter fun x => q x.1 :=
    List.filter_congr fun x hx => agree x.1 (List.fst_mem_of_mem_zipIdx hx)
  exact congrArg (List.map Prod.snd) pairs

theorem retain_congr {s : Stack} {p q : LayerHandle → Bool} (agree : ∀ l ∈ s.layers, p l = q l) :
    s.retain p = s.retain q := by
  have kept : (s.retain p).layers = (s.retain q).layers := by
    rw [layers_retain, layers_retain]
    exact List.filter_congr agree
  exact congrArg Stack.mk kept

theorem retain_eq_self {s : Stack} {p : LayerHandle → Bool} (all : ∀ l ∈ s.layers, p l = true) :
    s.retain p = s := by
  have kept : (s.retain p).layers = s.layers := by
    rw [layers_retain]
    exact List.filter_eq_self.mpr all
  exact congrArg Stack.mk kept

end Stack

/-! ## The step of a sheet -/

namespace Sheet

variable {s : Sheet} {p q : LayerHandle → Bool}

theorem removeIf_congr (agree : ∀ l ∈ s.layers, p l = q l) : s.removeIf p = s.removeIf q := by
  have positions : s.stack.positions p = s.stack.positions q := Stack.positions_congr agree
  have gone : s.layers.filter p = s.layers.filter q := List.filter_congr agree
  have left : s.stack.retain (!p ·) = s.stack.retain (!q ·) :=
    Stack.retain_congr fun l hl => congrArg not (agree l hl)
  rw [removeIf, removeIf, positions, gone, left]

theorem layerCalls_leaving (ls : List LayerHandle) :
    layerCalls (ls.flatMap s.leaving) = ls.flatMap s.leaving := by
  refine List.filter_eq_self.mpr fun a ha => ?_
  rcases mem_leaving ha with ⟨l, k, rfl⟩ | ⟨l, rfl⟩ <;> rfl

/-- The layers that fit are counted and let go of in order, and the others are left. -/
theorem removeIf_spec (live : s.disposed = false) (p : LayerHandle → Bool) :
    (s.removeIf p).result = .ok (s.layers.countP p) ∧
      (s.removeIf p).sheet = { s with stack := s.stack.retain (!p ·) } ∧
      layerCalls (s.removeIf p).actions = (s.layers.filter p).flatMap s.leaving := by
  have count : (s.stack.positions p).length = s.layers.countP p := s.stack.length_positions p
  rw [removeIf, whenLive_of_live live]
  cases positions : s.stack.positions p with
  | nil =>
    have none_fits : s.layers.countP p = 0 := by
      rw [← count, positions]
      rfl
    have unfit : ∀ l ∈ s.layers, ¬ p l = true := List.countP_eq_zero.mp none_fits
    have kept : s.stack.retain (!p ·) = s.stack :=
      Stack.retain_eq_self fun l hl => by simp [unfit l hl]
    rw [none_fits, kept, List.filter_eq_nil_iff.mpr unfit]
    exact ⟨rfl, rfl, rfl⟩
  | cons first rest =>
    obtain ⟨last, hlast⟩ : ∃ last, (first :: rest).getLast? = some last :=
      ⟨_, List.getLast?_eq_some_getLast (List.cons_ne_nil first rest)⟩
    have calls : layerCalls ((s.layers.filter p).flatMap s.leaving ++
        [.note (.layersRemoved (first :: rest).length first last),
          s.publishStack (.removed none (.span first last))]) =
        (s.layers.filter p).flatMap s.leaving := by
      rw [layerCalls_append, layerCalls_leaving]
      exact List.append_nil _
    rw [← count, positions]
    simp only [List.head?_cons, hlast, calls, and_self]

/-- What is asked for when layers are named that are to go. -/
theorem step_removeAll (live : s.disposed = false) (removed : List LayerId) :
    let step := SheetCommand.step s (.removeAll removed)
    let gone := s.layers.filter (·.id ∈ removed)
    step.result = .count gone.length ∧ step.sheet.layers = s.layers.filter (·.id ∉ removed) ∧
      layerCalls step.actions = gone.flatMap s.leaving := by
  intro step gone
  have named : s.layers.filter (fun l => removed.contains l.id) = gone := by simp [gone]
  obtain ⟨count, sheet, calls⟩ := removeIf_spec live fun l => removed.contains l.id
  rw [List.countP_eq_length_filter, named] at count
  rw [named] at calls
  refine ⟨congrArg (Reply.ofResult .count) count, ?_, calls⟩
  refine (congrArg Sheet.layers sheet).trans ((Stack.layers_retain _ _).trans ?_)
  exact List.filter_congr fun l _ => by simp

end Sheet

/-! ## Layers -/

namespace Layer

variable {r : SheetRef} {i : Nat} {s : Sheet}

/-- Nothing but calls on layers is noticed by a layer. -/
theorem foldl_layerCalls (actions : List Action) (l : Layer) :
    (layerCalls actions).foldl (receive r i) l = actions.foldl (receive r i) l := by
  induction actions generalizing l with
  | nil => rfl
  | cons a rest ih =>
    cases a with
    | subscribe h k | unsubscribe h k | dispose h => exact ih _
    | note n | publish roster e => exact ih l

theorem foldl_leaving_one (h : LayerHandle) (l : Layer) :
    (s.leaving h).foldl (receive r i) l = if h.object = i then l.released r s.relay else l := by
  rw [Sheet.leaving]
  cases s.relay with
  | none => rfl
  | some k =>
    by_cases same : h.object = i
    · simp only [List.foldl_cons, List.foldl_nil, receive, if_pos same]
      rfl
    · simp only [List.foldl_cons, List.foldl_nil, receive, if_neg same]

/-- Of several objects that are let go of, each is so once. -/
theorem foldl_leaving {ls : List LayerHandle} (once : (ls.map (·.object)).Nodup) (l : Layer) :
    (ls.flatMap s.leaving).foldl (receive r i) l =
      if i ∈ ls.map (·.object) then l.released r s.relay else l := by
  induction ls generalizing l with
  | nil => rfl
  | cons h rest ih =>
    obtain ⟨absent, later⟩ := List.nodup_cons.mp once
    rw [List.flatMap_cons, List.foldl_append, foldl_leaving_one, ih later]
    by_cases same : h.object = i
    · subst same
      rw [if_neg absent, if_pos rfl, List.map_cons, if_pos List.mem_cons_self]
    · rw [if_neg same]
      exact if_congr (by simp [Ne.symm same]) rfl rfl

end Layer

namespace World

variable {w : World} {r : SheetRef} {name : String}

theorem execute_named (named : w.scene.sheetNamed? name = some r) (op : SheetCommand) :
    w.execute (.sheet name op) = w.perform r fun s => op.step s := by
  rw [execute, withSheet, named]

theorem perform_congr {ρ : Type} {op op' : Sheet → Step ρ} (same : op (w.sheet r) = op' (w.sheet r)) :
    w.perform r op = w.perform r op' := by
  rw [perform, perform, same]

/-- A bulk removal makes the calls on layers that its sheet asks for, and each layer that is let go of
is so once. -/
theorem layer_removeIf {ρ : Type} (op : Sheet → Step ρ) {p : LayerHandle → Bool}
    (genuine : w.GenuineMembers) (sound : w.Sound)
    (calls : layerCalls (op (w.sheet r)).actions =
      ((w.sheet r).layers.filter p).flatMap (w.sheet r).leaving) (i : Nat) :
    (w.perform r op).1.layer i =
      if i ∈ ((w.sheet r).layers.filter p).map (·.object) then
        (w.layer i).released r (w.sheet r).relay
      else w.layer i := by
  have once : (((w.sheet r).layers.filter p).map (·.object)).Nodup :=
    (nodup_objects sound genuine r).sublist (List.filter_sublist.map _)
  rw [layer_perform, ← Layer.foldl_layerCalls, calls, Layer.foldl_leaving once]

/-- The object of a member that stays is none of those that go. -/
theorem object_not_mem_of_stays {p : LayerHandle → Bool} (genuine : w.GenuineMembers)
    (sound : w.Sound) {l : LayerHandle} (member : l ∈ (w.sheet r).layers) (stays : ¬p l = true) :
    l.object ∉ ((w.sheet r).layers.filter p).map (·.object) := by
  intro there
  obtain ⟨m, hm, shared⟩ := List.mem_map.mp there
  obtain ⟨member', goes⟩ := List.mem_filter.mp hm
  have one : m = l :=
    List.inj_on_of_nodup_map (nodup_objects sound genuine r) member' member shared
  exact stays (one ▸ goes)

/-- In any run from an opening in which handles are genuine, on a sheet that is not disposed: to remove
what is named and to keep what is named are one step if each member is named on exactly one of the two
lists, whatever else is on them. It counts the layers that go; the others stay in order; on each that
goes the calls are to let go of the relay, if there is one, and then to be disposed of, from the bottom
up; and to those that stay nothing happens. -/
theorem bulk_removals_agree (layers : List (Layer × Flags)) (conducts : List Conduct)
    (cs : List Command) (genuine : Along Genuine (opening layers conducts) cs) (name : String)
    (r : SheetRef) (removed kept : List LayerId) :
    let w := (opening layers conducts).run cs
    let s := w.sheet r
    w.scene.sheetNamed? name = some r → s.disposed = false →
    (∀ l ∈ s.layers, l.id ∈ removed ↔ l.id ∉ kept) →
    let removing := SheetCommand.step s (.removeAll removed)
    let w' := (w.execute (.sheet name (.removeAll removed))).1
    let s' := w'.sheet r
    let gone := s.layers.filter (·.id ∈ removed)
    removing = SheetCommand.step s (.retain kept) ∧
      w.execute (.sheet name (.removeAll removed)) = w.execute (.sheet name (.retain kept)) ∧
      (w.execute (.sheet name (.removeAll removed))).2 = .count gone.length ∧
      gone.length + s'.layerCount = s.layerCount ∧
      s'.layers = s.layers.filter (·.id ∉ removed) ∧
      layerCalls removing.actions =
        gone.flatMap (fun l => (s.relay.map (Action.unsubscribe l)).toList ++ [.dispose l]) ∧
      (∀ l ∈ gone, w'.layer l.object = (w.layer l.object).released r s.relay) ∧
      (∀ l ∈ s'.layers, w'.layer l.object = w.layer l.object) ∧
      ∀ i, (∀ l ∈ gone, l.object ≠ i) → w'.layer i = w.layer i := by
  intro w s named live complementary removing w' s' gone
  have members : w.GenuineMembers := genuineMembers_run genuine
  have sound : w.Sound := sound_run (sound_opening layers conducts) cs
  have agree : ∀ l ∈ s.layers, removed.contains l.id = !kept.contains l.id := by
    intro l hl
    rw [Bool.eq_iff_iff]
    simpa using complementary l hl
  have same : removing = SheetCommand.step s (.retain kept) :=
    congrArg (Step.map (Reply.ofResult .count)) (Sheet.removeIf_congr agree)
  have executed : w.execute (.sheet name (.removeAll removed)) =
      w.perform r fun s => SheetCommand.step s (.removeAll removed) := execute_named named _
  obtain ⟨count, rest, calls⟩ := Sheet.step_removeAll live removed
  have left : s'.layers = s.layers.filter (·.id ∉ removed) := by
    have performed : s' = removing.sheet := by
      show (w.execute (.sheet name (.removeAll removed))).1.sheet r = _
      rw [executed]
      exact (sheet_perform w r _ r).trans (if_pos rfl)
    rw [performed]
    exact rest
  have moved (i : Nat) : w'.layer i =
      if i ∈ gone.map (·.object) then (w.layer i).released r s.relay else w.layer i := by
    show (w.execute (.sheet name (.removeAll removed))).1.layer i = _
    rw [executed]
    exact layer_removeIf _ members sound calls i
  refine ⟨same, ?_, ?_, ?_, left, ?_, ?_, ?_, ?_⟩
  · rw [executed, execute_named named]
    exact perform_congr same
  · rw [executed]
    exact count
  · have split := s.layers.length_eq_length_filter_add (·.id ∈ removed)
    show gone.length + s'.layers.length = s.layers.length
    rw [left]
    simpa [gone] using split.symm
  · refine calls.trans (congrArg (List.flatMap · gone) ?_)
    funext l
    rw [Sheet.leaving]
    cases s.relay <;> rfl
  · exact fun l hl => (moved l.object).trans (if_pos (List.mem_map_of_mem hl))
  · intro l hl
    rw [left] at hl
    obtain ⟨member, unnamed⟩ := List.mem_filter.mp hl
    have stays : ¬decide (l.id ∈ removed) = true := by simpa using unnamed
    exact (moved l.object).trans (if_neg (object_not_mem_of_stays members sound member stays))
  · intro i other
    refine (moved i).trans (if_neg fun there => ?_)
    obtain ⟨m, hm, same⟩ := List.mem_map.mp there
    exact other m hm same

/-- Two of four layers go that do not lie side by side. Both lists name strangers and name a member
twice, and one of those that listen fails. -/
theorem bulk_removals_agree_noisy :
    let l (n : Nat) : LayerHandle := { object := n, id := .numbered n }
    let layer (n : Nat) : Layer × Flags := ({ Layer.blank with id := .numbered n }, {})
    let layers := (List.range 4).map layer
    let conducts : List Conduct := [{ fails := .always, error := "e" }]
    let cs : List Command :=
      [.create "m" none none ({} : TransformTable Float).reprojector,
        .sheet "m" (.addAll ((List.range 4).map l)), .sheet "m" (.listenToStack ⟨0⟩),
        .sheet "m" (.listenToStack ⟨1⟩)]
    let removed := [3, 1, 1, 9].map LayerId.numbered
    let kept := [8, 2, 0, 0].map LayerId.numbered
    let w := (opening layers conducts).run cs
    let w' := (w.execute (.sheet "m" (.removeAll removed))).1
    Along Genuine (opening layers conducts) cs ∧
      (∀ l ∈ (w.sheet ⟨0⟩).layers, l.id ∈ removed ↔ l.id ∉ kept) ∧
      w.execute (.sheet "m" (.removeAll removed)) = w.execute (.sheet "m" (.retain kept)) ∧
      (w'.sheet ⟨0⟩).layers = [l 0, l 2] ∧
      layerCalls (SheetCommand.step (w.sheet ⟨0⟩) (.removeAll removed)).actions =
        [.unsubscribe (l 1) 0, .dispose (l 1), .unsubscribe (l 3) 0, .dispose (l 3)] ∧
      w'.layer 2 = w.layer 2 := by
  intro l layer layers conducts cs removed kept w w'
  have genuine : Along Genuine (opening layers conducts) cs := by decide +kernel
  have before : w.scene.sheetNamed? "m" = some ⟨0⟩ ∧ (w.sheet ⟨0⟩).disposed = false ∧
      (w.sheet ⟨0⟩).layers = [l 0, l 1, l 2, l 3] ∧ (w.sheet ⟨0⟩).relay = some 0 := by decide +kernel
  obtain ⟨named, live, members, listening⟩ := before
  have complementary : ∀ l ∈ (w.sheet ⟨0⟩).layers, l.id ∈ removed ↔ l.id ∉ kept := by
    rw [members]
    decide
  obtain ⟨-, executed, -, -, left, calls, -, spared, -⟩ :=
    bulk_removals_agree layers conducts cs genuine "m" ⟨0⟩ removed kept named live complementary
  refine ⟨genuine, complementary, executed, ?_, ?_, ?_⟩
  · refine left.trans ?_
    show (w.sheet ⟨0⟩).layers.filter _ = _
    rw [members]
    decide
  · refine calls.trans ?_
    show List.flatMap (fun l => ((w.sheet ⟨0⟩).relay.map (Action.unsubscribe l)).toList ++ _)
      ((w.sheet ⟨0⟩).layers.filter _) = _
    rw [members, listening]
    rfl
  · refine spared (l 2) (left.symm ▸ ?_)
    show l 2 ∈ (w.sheet ⟨0⟩).layers.filter _
    rw [members]
    decide

end World
end LayeredMap
