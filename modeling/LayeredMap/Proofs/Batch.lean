import LayeredMap.Proofs.Attendance
import LayeredMap.Proofs.Refusal
import LayeredMap.Proofs.Removal

/-!
# Batches of layers

To offer layers in one batch comes to offering them one after the other: what
is known by then is passed over, the rest goes on top in order. Either way the
scene is the old one with the newcomers put on the stack and each of them taken
in once. The batch tells of them in one event, whose span is made up of the
indices in the events of the single offers.
-/

namespace LayeredMap

namespace Sheet

/-- The sheet with layers put on top of its stack. -/
def heaped (s : Sheet) (added : List LayerHandle) : Sheet :=
  { s with stack := { layers := s.layers ++ added } }

variable {s : Sheet} {l : LayerHandle} {ls : List LayerHandle}

theorem heaped_nil (s : Sheet) : s.heaped [] = s := by
  have same : s.layers ++ [] = s.layers := List.append_nil _
  rw [heaped, same]
  rfl

theorem heaped_heaped (s : Sheet) (ls ms : List LayerHandle) :
    (s.heaped ls).heaped ms = s.heaped (ls ++ ms) :=
  congrArg (fun layers => { s with stack := { layers } }) (List.append_assoc s.layers ls ms)

/-- The layers that have to be let in come on top. -/
theorem pushAll_fst (s : Sheet) (ls : List LayerHandle) :
    (pushAll s.stack ls).1 = (s.heaped (pushAll s.stack ls).2).stack :=
  congrArg Stack.mk (layers_pushAll s.stack ls)

theorem add_of_known (live : s.disposed = false) (known : s.stack.contains l.id = true) :
    s.add l = .still s (.ok false) := by
  rw [add, whenLive_of_live live, Stack.push_of_known known]

/-- Newcomers are taken in, and then one event is published. -/
def intake (s : Sheet) (added : List LayerHandle) (n : Notice) (e : StackEvent) : List Action :=
  added.flatMap s.entering ++ [.note n, s.publishStack e]

theorem layerCalls_intake (s : Sheet) (added : List LayerHandle) (n : Notice) (e : StackEvent) :
    layerCalls (s.intake added n e) = added.flatMap s.entering := by
  have kept : layerCalls (added.flatMap s.entering) = added.flatMap s.entering := by
    refine List.filter_eq_self.mpr fun a ha => ?_
    obtain ⟨l, k, rfl⟩ := mem_entering ha
    rfl
  rw [intake, layerCalls_append, kept]
  exact List.append_nil _

theorem publications_intake (s : Sheet) (added : List LayerHandle) (n : Notice) (e : StackEvent) :
    publications (s.intake added n e) = [(s.stackListeners, .stack e)] := by
  rw [intake, publications_append, publications_entering]
  rfl

theorem add_of_new (live : s.disposed = false) (new : s.stack.contains l.id = false) :
    s.add l =
      { result := .ok true
        sheet := s.heaped [l]
        actions := s.intake [l] (.layerAdded l.id s.layerCount)
          (.added (some l) (.single s.layerCount)) } := by
  rw [add, whenLive_of_live live, Stack.push_of_new new, intake, List.flatMap_singleton]
  rfl

theorem addAll_of_none (live : s.disposed = false) (none_new : (pushAll s.stack ls).2 = []) :
    s.addAll ls = .still s (.ok 0) := by
  rw [addAll, whenLive_of_live live]
  simp only [none_new, List.isEmpty_nil, if_true]

theorem addAll_of_some (live : s.disposed = false) (some_new : (pushAll s.stack ls).2 ≠ []) :
    s.addAll ls =
      let added := (pushAll s.stack ls).2
      let last := s.layerCount + added.length - 1
      { result := .ok added.length
        sheet := s.heaped added
        actions := s.intake added (.layersAdded added.length s.layerCount last)
          (.added none (.span s.layerCount last)) } := by
  have told : (pushAll s.stack ls).2.isEmpty = false := by simpa using some_new
  rw [addAll, whenLive_of_live live]
  simp only [told, Bool.false_eq_true, if_false, pushAll_fst]
  rfl

/-- A sheet that is not disposed takes in what is new and counts it. -/
theorem addAll_of_live (live : s.disposed = false) (ls : List LayerHandle) :
    (s.addAll ls).result = .ok (pushAll s.stack ls).2.length ∧
      (s.addAll ls).sheet = s.heaped (pushAll s.stack ls).2 := by
  by_cases none_new : (pushAll s.stack ls).2 = []
  · rw [addAll_of_none live none_new, none_new, heaped_nil]
    exact ⟨rfl, rfl⟩
  · rw [addAll_of_some live none_new]
    exact ⟨rfl, rfl⟩

end Sheet

namespace Scene

/-- The scene with layers put on top of the stack of a sheet, and each of them taken in. -/
def heaped (sc : Scene) (r : SheetRef) (added : List LayerHandle) : Scene :=
  { sc with
    sheets := put sc.sheets r ((sc.sheets r).heaped added)
    layers := fun i =>
      (added.flatMap (sc.sheets r).entering).foldl (Layer.receive r i) (sc.layers i) }

theorem heaped_nil (sc : Scene) (r : SheetRef) : sc.heaped r [] = sc := by
  rw [heaped, Sheet.heaped_nil, put_eq_self]
  rfl

theorem heaped_heaped (sc : Scene) (r : SheetRef) (ls ms : List LayerHandle) :
    (sc.heaped r ls).heaped r ms = sc.heaped r (ls ++ ms) := by
  have sheet : (sc.heaped r ls).sheets r = (sc.sheets r).heaped ls := put_self _ r _
  have sheets : put (sc.heaped r ls).sheets r (((sc.sheets r).heaped ls).heaped ms) =
      put sc.sheets r ((sc.sheets r).heaped (ls ++ ms)) := by
    rw [Sheet.heaped_heaped]
    funext r'
    by_cases same : r' = r
    · rw [same, put_self, put_self]
    · rw [put_of_ne _ _ same, put_of_ne _ _ same]
      exact put_of_ne _ _ same
  rw [heaped, sheet, sheets]
  simp only [heaped, List.flatMap_append, List.foldl_append]
  rfl

end Scene

namespace World

variable {w : World} {r : SheetRef} {name : String} {l : LayerHandle}

/-- What a command makes a sheet publish, and to whom. -/
def publishedBy (w : World) (r : SheetRef) (c : Command) : List (Roster ListenerRef × Event) :=
  ((w.call? r c).map fun op => publications (op.step (w.sheet r)).actions).getD []

/-- What a run makes a sheet publish, in order. -/
def published (r : SheetRef) (w : World) : List Command → List (Roster ListenerRef × Event)
  | [] => []
  | c :: cs => w.publishedBy r c ++ published r (w.execute c).1 cs

theorem publishedBy_of_named (named : w.scene.sheetNamed? name = some r) (op : SheetCommand) :
    w.publishedBy r (.sheet name op) = publications (op.step (w.sheet r)).actions := by
  rw [publishedBy, call?_of_named named]
  rfl

theorem sheet_of_heaped {w' : World} {added : List LayerHandle}
    (scene : w'.scene = w.scene.heaped r added) : w'.sheet r = (w.sheet r).heaped added := by
  rw [sheet, scene]
  exact put_self _ r _

/-- If a sheet makes no other calls on layers, its newcomers are all that changes in the scene. -/
theorem scene_perform_intake {ρ : Type} {op : Sheet → Step ρ} {added : List LayerHandle}
    (sheet : (op (w.sheet r)).sheet = (w.sheet r).heaped added)
    (calls : layerCalls (op (w.sheet r)).actions = added.flatMap (w.sheet r).entering) :
    (w.perform r op).1.scene = w.scene.heaped r added := by
  have layers : (w.perform r op).1.scene.layers = (w.scene.heaped r added).layers := by
    funext i
    refine (layer_perform w r i op).trans ?_
    rw [← Layer.foldl_layerCalls, calls]
    rfl
  rw [scene_perform, sheet, layers]
  rfl

/-! ## One offer -/

theorem execute_add_of_known (named : w.scene.sheetNamed? name = some r)
    (live : (w.sheet r).disposed = false) (known : (w.sheet r).stack.contains l.id = true) :
    w.execute (.sheet name (.add l)) = (w, .flag false) ∧
      w.publishedBy r (.sheet name (.add l)) = [] := by
  have still : SheetCommand.step (w.sheet r) (.add l) = .still (w.sheet r) (.flag false) :=
    congrArg (Step.map (Reply.ofResult .flag)) (Sheet.add_of_known live known)
  rw [execute_named named, publishedBy_of_named named, still]
  exact ⟨perform_eq_self still, rfl⟩

theorem execute_add_of_new (named : w.scene.sheetNamed? name = some r)
    (live : (w.sheet r).disposed = false) (new : (w.sheet r).stack.contains l.id = false) :
    (w.execute (.sheet name (.add l))).1.scene = w.scene.heaped r [l] ∧
      (w.execute (.sheet name (.add l))).2 = .flag true ∧
      w.publishedBy r (.sheet name (.add l)) =
        [((w.sheet r).stackListeners, .stack (.added (some l) (.single (w.sheet r).layerCount)))] := by
  have step := congrArg (Step.map (Reply.ofResult .flag)) (Sheet.add_of_new live new)
  rw [execute_named named, publishedBy_of_named named]
  refine ⟨scene_perform_intake ?_ ?_, congrArg Step.result step, ?_⟩
  · exact congrArg Step.sheet step
  · refine (congrArg (layerCalls ∘ Step.actions) step).trans ?_
    exact Sheet.layerCalls_intake ..
  · refine (congrArg (publications ∘ Step.actions) step).trans ?_
    exact Sheet.publications_intake ..

/-! ## Offers in a row -/

/-- What comes of it when layers are offered one after the other and the given ones are new: those
are the ones that are answered to be, and an event tells of each at the index that it takes. -/
structure Taken (w : World) (r : SheetRef) (ls : List LayerHandle) (cs : List Command)
    (added : List LayerHandle) : Prop where
  scene : (w.run cs).scene = w.scene.heaped r added
  answers : ∃ answers : List Bool, (dialogue r w cs).map (·.2) = answers.map .flag ∧
    answers.length = ls.length ∧ ((ls.zip answers).filter (·.2)).map (·.1) = added
  published : published r w cs = (added.zipIdx (w.sheet r).layerCount).map fun x =>
    ((w.sheet r).stackListeners, .stack (.added (some x.1) (.single x.2)))

variable {ls added : List LayerHandle} {c : Command} {cs : List Command} {op : SheetCommand}

theorem taken_nil (w : World) (r : SheetRef) : w.Taken r [] [] [] :=
  ⟨(w.scene.heaped_nil r).symm, ⟨[], rfl, rfl, rfl⟩, rfl⟩

theorem Taken.skip (h : w.Taken r ls cs added) (called : w.call? r c = some op)
    (known : w.execute c = (w, .flag false)) (mute : w.publishedBy r c = []) (l : LayerHandle) :
    w.Taken r (l :: ls) (c :: cs) added := by
  obtain ⟨answers, replies, length, new⟩ := h.answers
  refine ⟨?_, ⟨false :: answers, ?_, congrArg Nat.succ length, new⟩, ?_⟩
  · show ((w.execute c).1.run cs).scene = _
    rw [known]
    exact h.scene
  · rw [dialogue, called, known]
    exact congrArg (Reply.flag false :: ·) replies
  · rw [World.published, mute, known]
    exact h.published

theorem Taken.take (h : (w.execute c).1.Taken r ls cs added) (called : w.call? r c = some op)
    (scene : (w.execute c).1.scene = w.scene.heaped r [l]) (new : (w.execute c).2 = .flag true)
    (told : w.publishedBy r c =
      [((w.sheet r).stackListeners, .stack (.added (some l) (.single (w.sheet r).layerCount)))]) :
    w.Taken r (l :: ls) (c :: cs) (l :: added) := by
  obtain ⟨answers, replies, length, chosen⟩ := h.answers
  have sheet := sheet_of_heaped scene
  refine ⟨?_, ⟨true :: answers, ?_, congrArg Nat.succ length, congrArg (l :: ·) chosen⟩, ?_⟩
  · refine h.scene.trans ?_
    rw [scene, Scene.heaped_heaped]
    rfl
  · rw [dialogue, called]
    show (w.execute c).2 :: (dialogue r (w.execute c).1 cs).map (·.2) = _
    rw [new, replies]
    rfl
  · have higher : ((w.sheet r).heaped [l]).layerCount = (w.sheet r).layerCount + 1 :=
      List.length_append
    rw [World.published, told, h.published, sheet, higher]
    rfl

/-- Which layers of a row are new is judged as the row goes on, as in a batch. -/
theorem taken_singles (named : w.scene.sheetNamed? name = some r)
    (live : (w.sheet r).disposed = false) (ls : List LayerHandle) :
    w.Taken r ls (ls.map fun l => .sheet name (.add l)) (Sheet.pushAll (w.sheet r).stack ls).2 := by
  induction ls generalizing w with
  | nil => exact taken_nil w r
  | cons l ls ih =>
    have called : w.call? r (.sheet name (.add l)) = some (.add l) := call?_of_named named _
    cases known : (w.sheet r).stack.contains l.id with
    | true =>
      obtain ⟨kept, mute⟩ := execute_add_of_known named live known
      rw [Sheet.pushAll_of_known known]
      exact (ih named live).skip called kept mute l
    | false =>
      obtain ⟨scene, new, told⟩ := execute_add_of_new named live known
      have sheet := sheet_of_heaped scene
      have later := ih (w := (w.execute (.sheet name (.add l))).1) (scene ▸ named) (sheet ▸ live)
      rw [sheet] at later
      rw [Sheet.pushAll_of_new known]
      exact later.take called scene new told

/-! ## The batch -/

theorem execute_addAll (named : w.scene.sheetNamed? name = some r)
    (live : (w.sheet r).disposed = false) (ls : List LayerHandle) :
    let s := w.sheet r
    let added := (Sheet.pushAll s.stack ls).2
    (w.execute (.sheet name (.addAll ls))).1.scene = w.scene.heaped r added ∧
      (w.execute (.sheet name (.addAll ls))).2 = .count added.length ∧
      w.publishedBy r (.sheet name (.addAll ls)) =
        if added = [] then [] else
          [(s.stackListeners, .stack (.added none
            (.span s.layerCount (s.layerCount + added.length - 1))))] := by
  intro s added
  rw [execute_named named, publishedBy_of_named named]
  by_cases none_new : added = []
  · have still : SheetCommand.step s (.addAll ls) = .still s (.count 0) :=
      congrArg (Step.map (Reply.ofResult .count)) (Sheet.addAll_of_none live none_new)
    have kept : w.perform r (SheetCommand.step · (.addAll ls)) = (w, .count 0) :=
      perform_eq_self still
    rw [kept, still, none_new, if_pos rfl, Scene.heaped_nil]
    exact ⟨rfl, rfl, rfl⟩
  · have step := congrArg (Step.map (Reply.ofResult .count)) (Sheet.addAll_of_some live none_new)
    rw [if_neg none_new]
    refine ⟨scene_perform_intake ?_ ?_, congrArg Step.result step, ?_⟩
    · exact congrArg Step.sheet step
    · refine (congrArg (layerCalls ∘ Step.actions) step).trans ?_
      exact Sheet.layerCalls_intake ..
    · refine (congrArg (publications ∘ Step.actions) step).trans ?_
      exact Sheet.publications_intake ..

/-- As many get in as are answered to be new. -/
theorem count_true_eq_length (ls : List LayerHandle) {answers : List Bool}
    (length : answers.length = ls.length) :
    answers.count true = (((ls.zip answers).filter (·.2)).map (·.1)).length := by
  have second : (ls.zip answers).map (·.2) = answers := List.map_snd_zip (Nat.le_of_eq length)
  calc answers.count true
      = ((ls.zip answers).map (·.2)).countP (· == true) := congrArg (List.countP (· == true)) second.symm
    _ = (ls.zip answers).countP (·.2) := by simp [List.countP_map, Function.comp_def]
    _ = (((ls.zip answers).filter (·.2)).map (·.1)).length := by
      rw [List.length_map, List.countP_eq_length_filter]

theorem publishes_singles (sound : w.Sound) (named : w.scene.sheetNamed? name = some r)
    (ls : List LayerHandle) :
    Along (fun w c => w.Publishes c r (w.publishedBy r c)) w
      (ls.map fun l => .sheet name (.add l)) := by
  induction ls generalizing w with
  | nil => trivial
  | cons l ls ih =>
    let c : Command := .sheet name (.add l)
    have unbound : c.rebinds ≠ some name := (Option.some_ne_none name).symm
    have still : (w.execute c).1.scene.sheetNamed? name = some r :=
      (sheetNamed?_execute w unbound).trans named
    refine ⟨?_, ih (sound_execute sound c) still⟩
    show w.Publishes c r (w.publishedBy r c)
    rw [publishedBy_of_named named]
    exact publishes_of_call sound (call?_of_named named _)

/-- On a sheet that is not disposed, whatever the layers that are offered: a batch leaves the scene
that single offers in the same order leave, with the list of members, the subscribers of every layer
and how often it was disposed of, and answers how many of the single offers are answered to be new.
Single offers publish an event for each newcomer, the first at the old size of the stack and the
others at the indices that follow; the batch publishes one event, from the first of these indices to
the last. If nothing is new neither publishes anything. All of it reaches those who listen. -/
theorem batch_as_singles (reachable : w.Reachable) (named : w.scene.sheetNamed? name = some r)
    (live : (w.sheet r).disposed = false) (ls : List LayerHandle) :
    let s := w.sheet r
    let batch : Command := .sheet name (.addAll ls)
    let singles : List Command := ls.map fun l => .sheet name (.add l)
    (w.execute batch).1.scene = (w.run singles).scene ∧
      ∃ (answers : List Bool) (added : List LayerHandle),
        (dialogue r w singles).map (·.2) = answers.map .flag ∧ answers.length = ls.length ∧
        ((ls.zip answers).filter (·.2)).map (·.1) = added ∧
        ((w.execute batch).1.sheet r).layers = s.layers ++ added ∧
        (w.execute batch).2 = .count (answers.count true) ∧ answers.count true = added.length ∧
        published r w singles = (added.zipIdx s.layerCount).map (fun x =>
          (s.stackListeners, .stack (.added (some x.1) (.single x.2)))) ∧
        w.publishedBy r batch = (if added = [] then [] else
          [(s.stackListeners, .stack (.added none
            (.span s.layerCount (s.layerCount + added.length - 1))))]) ∧
        w.Publishes batch r (w.publishedBy r batch) ∧
        Along (fun w c => w.Publishes c r (w.publishedBy r c)) w singles := by
  intro s batch singles
  have taken : w.Taken r ls singles (Sheet.pushAll s.stack ls).2 := taken_singles named live ls
  obtain ⟨scene, count, told⟩ := execute_addAll named live ls
  obtain ⟨answers, replies, length, new⟩ := taken.answers
  have size : answers.count true = (Sheet.pushAll s.stack ls).2.length := by
    rw [count_true_eq_length ls length, new]
  refine ⟨scene.trans taken.scene.symm, answers, _, replies, length, new, ?_, ?_, size,
    taken.published, told, ?_, publishes_singles reachable.sound named ls⟩
  · rw [sheet_of_heaped scene]
    rfl
  · rw [count, size]
  · rw [publishedBy_of_named named]
    exact publishes_of_call reachable.sound (call?_of_named named _)

/-- A batch with a member, with one layer twice and with another object of the same identity: two get
in. The first to be told of it fails. -/
theorem batch_as_singles_repeated :
    let l (object id : Nat) : LayerHandle := { object, id := .numbered id }
    let layer (id : Nat) : Layer × Flags := ({ Layer.blank with id := .numbered id }, {})
    let conducts : List Conduct := [{ fails := .always, error := "e" }]
    let w := (opening [layer 0, layer 1, layer 2, layer 1] conducts).run
      [.create "m" none none ({} : TransformTable Float).reprojector, .sheet "m" (.add (l 0 0)),
        .sheet "m" (.listenToStack ⟨0⟩), .sheet "m" (.listenToStack ⟨1⟩)]
    let roster : Roster ListenerRef := { slots := some [⟨0⟩, ⟨1⟩] }
    let ls := [l 0 0, l 1 1, l 1 1, l 3 1, l 2 2]
    let batch : Command := .sheet "m" (.addAll ls)
    let singles : List Command := ls.map fun l => .sheet "m" (.add l)
    w.Reachable ∧ w.scene.sheetNamed? "m" = some ⟨0⟩ ∧ (w.sheet ⟨0⟩).disposed = false ∧
      (w.execute batch).1.scene = (w.run singles).scene ∧
      ((w.run singles).sheet ⟨0⟩).layers = [l 0 0, l 1 1, l 2 2] ∧
      (w.execute batch).2 = .count 2 ∧
      published ⟨0⟩ w singles =
        [(roster, .stack (.added (some (l 1 1)) (.single 1))),
          (roster, .stack (.added (some (l 2 2)) (.single 2)))] ∧
      w.publishedBy ⟨0⟩ batch = [(roster, .stack (.added none (.span 1 2)))] := by
  intro l layer conducts w roster ls batch singles
  have reachable : w.Reachable := ⟨_, _, _, rfl⟩
  have before : w.scene.sheetNamed? "m" = some ⟨0⟩ ∧ (w.sheet ⟨0⟩).disposed = false ∧
      (w.sheet ⟨0⟩).layers = [l 0 0] ∧ (w.sheet ⟨0⟩).stackListeners = roster := by decide +kernel
  have after : ((w.execute batch).1.sheet ⟨0⟩).layers = [l 0 0, l 1 1, l 2 2] := by decide +kernel
  obtain ⟨named, live, members, listening⟩ := before
  -- From here on the world is known by these facts alone.
  clear_value w
  obtain ⟨scene, answers, added, -, -, -, grown, reply, size, singly, at_once, -, -⟩ :=
    batch_as_singles reachable named live ls
  obtain rfl : added = [l 1 1, l 2 2] := by
    rw [after, members] at grown
    exact (List.cons.inj grown).2.symm
  have alone : (w.sheet ⟨0⟩).layerCount = 1 := congrArg List.length members
  rw [listening, alone] at singly at_once
  refine ⟨reachable, named, live, scene, ?_, ?_, singly, at_once⟩
  · exact (congrArg (fun sc : Scene => (sc.sheets ⟨0⟩).layers) scene).symm.trans after
  · rw [reply, size]
    rfl

end World
end LayeredMap
