import Mathlib.Logic.Equiv.Basic
import LayeredMap.Proofs.Reachable

/-!
# The stack of a sheet as a plain sequence

A plain sequence is a list of layers that is open until it is closed for good.
It knows positions, identities and nothing else: no listeners, no relays, no
disposal. A sheet that is asked for one operation after the other holds the
layers that such a sequence holds, and gives the answers that it gives.
-/

namespace LayeredMap

structure Sequence where
  items : List LayerHandle := []
  closed : Bool := false
  deriving DecidableEq

namespace Sequence

/-- No layer has the identity. -/
def lacks (ls : List LayerHandle) (id : LayerId) : Bool := ls.all (·.id ≠ id)

/-- Those whose identity is not known yet, each identity once and in the order given. -/
def newcomers (known : List LayerId) : List LayerHandle → List LayerHandle
  | [] => []
  | l :: ls =>
    if l.id ∈ known then newcomers known ls else l :: newcomers (l.id :: known) ls

/-- Each position takes what the other one had. -/
def transpose (ls : List LayerHandle) (a b : Nat) : List LayerHandle :=
  ls.mapIdx fun k l => ls[Equiv.swap a b k]?.getD l

/-- The layers of an open sequence after an operation. -/
def edit (ls : List LayerHandle) : SheetCommand → List LayerHandle
  | .add l => if lacks ls l.id then ls ++ [l] else ls
  | .insert i l => if i ≤ ls.length ∧ lacks ls l.id then ls.take i ++ l :: ls.drop i else ls
  | .addAll new => ls ++ newcomers (ls.map (·.id)) new
  | .remove id => ls.eraseP (·.id = id)
  | .removeAt i => ls.take i ++ ls.drop (i + 1)
  | .removeAll ids => ls.filter (·.id ∉ ids)
  | .retain ids => ls.filter (·.id ∈ ids)
  | .swap a b => if a < ls.length ∧ b < ls.length then transpose ls a b else ls
  | .clear | .dispose => []
  | _ => ls

/-- What an open sequence answers. Operations that are not about it get no answer here. -/
def answer? (ls : List LayerHandle) : SheetCommand → Option Reply
  | .add l => some (.flag (lacks ls l.id))
  | .insert i l =>
    some (if i ≤ ls.length then .flag (lacks ls l.id)
      else .refused (.indexOutOfBounds i ls.length))
  | .addAll new => some (.count (newcomers (ls.map (·.id)) new).length)
  | .remove id => some (.flag (!lacks ls id))
  | .removeAt i =>
    some (match ls[i]? with
      | some l => .layer l
      | none => .refused (.indexOutOfBounds i ls.length))
  | .removeAll ids => some (.count (ls.countP (·.id ∈ ids)))
  | .retain ids => some (.count (ls.countP (·.id ∉ ids)))
  | .swap a b =>
    some (if ls.length ≤ a then .refused (.indexOutOfBounds a ls.length)
      else if ls.length ≤ b then .refused (.indexOutOfBounds b ls.length)
      else .done)
  | .clear | .dispose => some .done
  | _ => none

def closes : SheetCommand → Bool
  | .dispose => true
  | _ => false

/-- Nothing opens a sequence again. -/
def after (q : Sequence) (c : SheetCommand) : Sequence :=
  if q.closed then q else { items := edit q.items c, closed := closes c }

/-- A closed sequence refuses everything but to be closed once more. -/
def reply? (q : Sequence) (c : SheetCommand) : Option Reply :=
  if q.closed && !closes c then (answer? q.items c).map fun _ => .refused .disposed
  else answer? q.items c

def replay (q : Sequence) (cs : List SheetCommand) : Sequence := cs.foldl after q

/-- At each step the reply is the one that the sequence gives there, if it gives any. -/
def Accounts (q : Sequence) : List (SheetCommand × Reply) → Prop
  | [] => True
  | (c, reply) :: rest => (∀ a, q.reply? c = some a → reply = a) ∧ (q.after c).Accounts rest

end Sequence

open Sequence

/-! ## Lists -/

namespace Stack

variable {s : Stack}

theorem contains_eq_not_lacks (s : Stack) (id : LayerId) :
    s.contains id = !lacks s.layers id := by
  have lacking : lacks s.layers id = true ↔ s.Lacks id := by
    rw [lacks, List.all_eq_true]
    exact forall₂_congr fun _ _ => decide_eq_true_iff
  rw [Bool.eq_iff_iff, contains_iff, Bool.not_eq_true', ← Bool.not_eq_true, lacking]

theorem eraseP_of_indexOf? {id : LayerId} {i : Nat} (h : s.indexOf? id = some i) :
    s.layers.eraseP (·.id = id) = s.layers.eraseIdx i := by
  have found : s.layers.findIdx? (·.id = id) = some i := by simpa [indexOf?, BEq.beq] using h
  rw [List.eraseP_eq_eraseIdx, found]

theorem length_positions (s : Stack) (p : LayerHandle → Bool) :
    (s.positions p).length = s.layers.countP p := by
  have pairs : ∀ (ls : List LayerHandle) (k : Nat),
      ((ls.zipIdx k).filter fun x => p x.1).length = ls.countP p := by
    intro ls
    induction ls with
    | nil => exact fun _ => rfl
    | cons l ls ih =>
      intro k
      by_cases fits : p l = true <;> simp [fits, ih]
  rw [positions, List.length_map]
  exact pairs s.layers 0

end Stack

theorem getElem?_transpose (ls : List LayerHandle) {a b : Nat} (ha : a < ls.length)
    (hb : b < ls.length) (k : Nat) : (transpose ls a b)[k]? = ls[Equiv.swap a b k]? := by
  have inside : Equiv.swap a b k < ls.length ↔ k < ls.length := by
    rw [Equiv.swap_apply_def]
    split
    · omega
    · split <;> omega
  rw [transpose, List.getElem?_mapIdx]
  by_cases hk : k < ls.length
  · simp [hk, inside.mpr hk]
  · rw [List.getElem?_eq_none (Nat.le_of_not_lt hk),
      List.getElem?_eq_none (Nat.le_of_not_lt fun h => hk (inside.mp h))]
    rfl

theorem transpose_eq_set_set {ls : List LayerHandle} {a b : Nat} {l m : LayerHandle}
    (hl : ls[a]? = some l) (hm : ls[b]? = some m) :
    transpose ls a b = (ls.set a m).set b l := by
  obtain ⟨ha, rfl⟩ := List.getElem?_eq_some_iff.mp hl
  obtain ⟨hb, rfl⟩ := List.getElem?_eq_some_iff.mp hm
  refine List.ext_getElem? fun k => ?_
  rw [getElem?_transpose ls ha hb, Equiv.swap_apply_def, List.getElem?_set, List.getElem?_set]
  by_cases atA : k = a
  · grind
  · by_cases atB : k = b <;> grind

theorem insertIdx_eq_take_drop (l : LayerHandle) {ls : List LayerHandle} {i : Nat}
    (h : i ≤ ls.length) : ls.insertIdx i l = ls.take i ++ l :: ls.drop i := by
  obtain ⟨below, above, rfl, rfl, placed⟩ := List.exists_of_modifyTailIdx (List.cons l) h
  rw [List.take_left, List.drop_left]
  exact placed

theorem Sheet.pushAll_eq (ls : List LayerHandle) (s : Stack) (known : List LayerId)
    (h : ∀ id, id ∈ known ↔ id ∈ s.layers.map (·.id)) :
    pushAll s ls = ({ layers := s.layers ++ newcomers known ls }, newcomers known ls) := by
  induction ls generalizing s known with
  | nil => simp [pushAll, newcomers]
  | cons l ls ih =>
    by_cases old : l.id ∈ known
    · have there : s.contains l.id = true := by
        obtain ⟨m, hm, same⟩ := List.mem_map.mp ((h l.id).mp old)
        exact Stack.contains_iff.mpr fun lacking => lacking m hm same
      rw [pushAll_of_known there, newcomers, if_pos old]
      exact ih s known h
    · have absent : s.contains l.id = false := by
        refine Stack.contains_eq_false_iff.mpr fun m hm same => ?_
        exact old ((h l.id).mpr (List.mem_map.mpr ⟨m, hm, same⟩))
      have grown : ∀ id, id ∈ l.id :: known ↔ id ∈ (s.layers ++ [l]).map (·.id) := by
        intro id
        rw [List.mem_cons, h, List.map_append, List.mem_append, List.map_singleton,
          List.mem_singleton]
        exact Or.comm
      rw [pushAll_of_new absent, newcomers, if_neg old]
      simp only [ih { layers := s.layers ++ [l] } (l.id :: known) grown]
      simp

/-! ## One operation -/

namespace Sheet

/-- What is left of a sheet if only its layers count. -/
def sequence (s : Sheet) : Sequence := { items := s.layers, closed := s.disposed }

variable {s : Sheet} {c : SheetCommand}

/-- The step does to the sequence what the operation is to do, and the reply is the right one. -/
structure Follows (s : Sheet) (c : SheetCommand) (step : Step Reply) : Prop where
  sequence : step.sheet.sequence = s.sequence.after c
  reply : ∀ a, s.sequence.reply? c = some a → step.result = a

theorem Follows.of_live {step : Step Reply} (live : s.disposed = false)
    (layers : step.sheet.layers = edit s.layers c) (closed : step.sheet.disposed = closes c)
    (answer : answer? s.layers c = some step.result) : s.Follows c step := by
  have is_open : s.sequence.closed = false := live
  constructor
  · rw [Sequence.after, is_open, Sheet.sequence, layers, closed]
    rfl
  · intro a ha
    rw [Sequence.reply?, is_open] at ha
    exact Option.some.inj (answer.symm.trans ha)

/-- What may be refused is refused by a sequence that is closed. -/
theorem follows_whenLive {ρ : Type} {step : Step (Except Failure ρ)} {f : ρ → Reply}
    (stays : closes c = false)
    (h : s.disposed = false → s.Follows c (step.map (.ofResult f))) :
    s.Follows c ((s.whenLive step).map (.ofResult f)) := by
  rw [whenLive]
  cases live : s.disposed with
  | false => exact h live
  | true =>
    have closed : s.sequence.closed = true := live
    constructor
    · rw [Sequence.after, closed]
      rfl
    · intro a ha
      rw [Sequence.reply?, closed, stays] at ha
      obtain ⟨-, -, rfl⟩ := Option.map_eq_some_iff.mp ha
      rfl

/-- An operation that is not about the layers. -/
theorem follows_of_aside {step : Step Reply} (kept : step.sheet.sequence = s.sequence)
    (aside : edit s.layers c = s.layers) (silent : answer? s.layers c = none)
    (stays : closes c = false) : s.Follows c step := by
  have unmoved : s.sequence.after c = s.sequence := by
    rw [Sequence.after]
    split
    · rfl
    · rename_i is_open
      have closed : s.sequence.closed = closes c := (Bool.not_eq_true _).mp is_open ▸ stays.symm
      show ({ items := edit s.layers c, closed := closes c } : Sequence) = s.sequence
      rw [aside, ← closed]
      rfl
  constructor
  · rw [kept, unmoved]
  · intro a ha
    have none_given : s.sequence.reply? c = none := by
      rw [Sequence.reply?]
      show (if _ then (answer? s.layers c).map _ else answer? s.layers c) = none
      rw [silent]
      exact ite_self none
    exact absurd (ha.symm.trans none_given) (Option.some_ne_none a)

/-! ### Layers that come in -/

theorem follows_add (s : Sheet) (l : LayerHandle) :
    s.Follows (.add l) (SheetCommand.step s (.add l)) := by
  refine follows_whenLive rfl fun live => ?_
  have known : s.stack.contains l.id = !lacks s.layers l.id := s.stack.contains_eq_not_lacks l.id
  cases absent : lacks s.layers l.id with
  | true =>
    rw [absent] at known
    rw [Stack.push_of_new known]
    exact .of_live live (if_pos absent).symm live (congrArg (some ∘ Reply.flag) absent)
  | false =>
    rw [absent] at known
    rw [Stack.push_of_known known]
    have here : ¬ lacks s.layers l.id = true := by simp [absent]
    exact .of_live live (if_neg here).symm live (congrArg (some ∘ Reply.flag) absent)

theorem follows_insert (s : Sheet) (i : Nat) (l : LayerHandle) :
    s.Follows (.insert i l) (SheetCommand.step s (.insert i l)) := by
  refine follows_whenLive rfl fun live => ?_
  by_cases outside : s.layerCount < i
  · have beyond : ¬ i ≤ s.layers.length := Nat.not_le_of_lt outside
    rw [if_pos outside]
    exact .of_live live (if_neg fun h => beyond h.1).symm live (congrArg some (if_neg beyond))
  · have inside : i ≤ s.layers.length := Nat.le_of_not_lt outside
    have known : s.stack.contains l.id = !lacks s.layers l.id := s.stack.contains_eq_not_lacks l.id
    rw [if_neg outside]
    cases absent : lacks s.layers l.id with
    | true =>
      rw [absent] at known
      have placed : edit s.layers (.insert i l) = s.layers.insertIdx i l :=
        (if_pos ⟨inside, absent⟩).trans (insertIdx_eq_take_drop l inside).symm
      have told : answer? s.layers (.insert i l) = some (.flag true) :=
        congrArg some ((if_pos inside).trans (congrArg Reply.flag absent))
      rw [Stack.insert_of_new inside known]
      exact .of_live live placed.symm live told
    | false =>
      rw [absent] at known
      have here : ¬ lacks s.layers l.id = true := by simp [absent]
      have told : answer? s.layers (.insert i l) = some (.flag false) :=
        congrArg some ((if_pos inside).trans (congrArg Reply.flag absent))
      rw [Stack.insert_of_known known]
      exact .of_live live (if_neg fun h => here h.2).symm live told

theorem follows_addAll (s : Sheet) (ls : List LayerHandle) :
    s.Follows (.addAll ls) (SheetCommand.step s (.addAll ls)) := by
  refine follows_whenLive rfl fun live => ?_
  have pushed := pushAll_eq ls s.stack (s.layers.map (·.id)) fun _ => Iff.rfl
  cases new : newcomers (s.layers.map (·.id)) ls with
  | nil =>
    have kept : edit s.layers (.addAll ls) = s.layers := by simp [edit, new]
    have told : answer? s.layers (.addAll ls) = some (.count 0) := by simp [answer?, new]
    simp only [pushed, new, List.isEmpty_nil, if_true]
    exact .of_live live kept.symm live told
  | cons l rest =>
    have grown : edit s.layers (.addAll ls) = s.layers ++ l :: rest := by simp [edit, new]
    have told : answer? s.layers (.addAll ls) = some (.count (l :: rest).length) := by
      simp [answer?, new]
    simp only [pushed, new, List.isEmpty_cons, Bool.false_eq_true, if_false]
    exact .of_live live grown.symm live told

/-! ### Layers that go out -/

theorem follows_remove (s : Sheet) (id : LayerId) :
    s.Follows (.remove id) (SheetCommand.step s (.remove id)) := by
  refine follows_whenLive rfl fun live => ?_
  have known : (s.stack.indexOf? id).isSome = !lacks s.layers id :=
    s.stack.contains_eq_not_lacks id
  cases there : s.stack.indexOf? id with
  | none =>
    have absent : lacks s.layers id = true := by simpa [there] using known
    have kept : edit s.layers (.remove id) = s.layers := by
      refine List.eraseP_of_forall_not fun m hm same => ?_
      exact of_decide_eq_true (List.all_eq_true.mp absent m hm) (of_decide_eq_true same)
    have told : answer? s.layers (.remove id) = some (.flag false) :=
      congrArg (some ∘ Reply.flag ∘ not) absent
    exact .of_live live kept.symm live told
  | some i =>
    obtain ⟨l, hl, -⟩ := Stack.get?_of_indexOf? there
    have told : answer? s.layers (.remove id) = some (.flag true) :=
      congrArg (some ∘ Reply.flag) (by simpa [there] using known.symm)
    simp only [Stack.removeAt_eq hl]
    exact .of_live live (Stack.eraseP_of_indexOf? there).symm live told

theorem follows_removeAt (s : Sheet) (i : Nat) :
    s.Follows (.removeAt i) (SheetCommand.step s (.removeAt i)) := by
  refine follows_whenLive rfl fun live => ?_
  cases there : s.stack.get? i with
  | none =>
    have beyond : s.layers.length ≤ i := List.getElem?_eq_none_iff.mp there
    have kept : edit s.layers (.removeAt i) = s.layers := by
      rw [edit, List.take_of_length_le beyond, List.drop_of_length_le (by omega),
        List.append_nil]
    have told : answer? s.layers (.removeAt i) =
        some (.refused (.indexOutOfBounds i s.layers.length)) := by
      have none_there : s.layers[i]? = none := there
      simp [answer?, none_there]
    simp only [Stack.removeAt, there]
    exact .of_live live kept.symm live told
  | some l =>
    have erased : edit s.layers (.removeAt i) = s.layers.eraseIdx i :=
      (List.eraseIdx_eq_take_drop_succ s.layers i).symm
    have told : answer? s.layers (.removeAt i) = some (.layer l) := by
      have one_there : s.layers[i]? = some l := there
      simp [answer?, one_there]
    rw [Stack.removeAt_eq there]
    exact .of_live live erased.symm live told

/-- Both bulk removals: those that are doomed go and are counted. -/
theorem follows_removeIf {doomed : LayerHandle → Bool} (stays : closes c = false)
    (edited : edit s.layers c = s.layers.filter (!doomed ·))
    (told : answer? s.layers c = some (.count (s.layers.countP doomed))) :
    s.Follows c ((s.removeIf doomed).map (.ofResult .count)) := by
  refine follows_whenLive stays fun live => ?_
  have count : (s.stack.positions doomed).length = s.layers.countP doomed :=
    s.stack.length_positions doomed
  have closed : s.disposed = closes c := live.trans stays.symm
  cases some_doomed : s.stack.positions doomed with
  | nil =>
    have none_doomed : s.layers.countP doomed = 0 := by
      rw [some_doomed] at count
      exact count.symm
    have all_kept : s.layers.filter (!doomed ·) = s.layers := by
      refine List.filter_eq_self.mpr fun m hm => ?_
      simpa using List.countP_eq_zero.mp none_doomed m hm
    rw [all_kept] at edited
    rw [none_doomed] at told
    exact .of_live live edited.symm closed told
  | cons first rest =>
    have last : ∃ last, (first :: rest).getLast? = some last :=
      ⟨_, List.getLast?_eq_some_getLast (List.cons_ne_nil first rest)⟩
    obtain ⟨last, hlast⟩ := last
    rw [← count, some_doomed] at told
    simp only [List.head?_cons, hlast]
    exact .of_live live ((Stack.layers_retain _ _).trans edited.symm) closed told

theorem follows_removeAll (s : Sheet) (ids : List LayerId) :
    s.Follows (.removeAll ids) (SheetCommand.step s (.removeAll ids)) := by
  refine follows_removeIf rfl ?_ ?_
  · exact List.filter_congr fun m _ => by simp
  · exact congrArg (some ∘ Reply.count) (List.countP_congr fun m _ => by simp)

theorem follows_retain (s : Sheet) (ids : List LayerId) :
    s.Follows (.retain ids) (SheetCommand.step s (.retain ids)) := by
  refine follows_removeIf rfl ?_ ?_
  · exact List.filter_congr fun m _ => by simp
  · exact congrArg (some ∘ Reply.count) (List.countP_congr fun m _ => by simp)

theorem follows_clear (s : Sheet) : s.Follows .clear (SheetCommand.step s .clear) :=
  follows_whenLive rfl fun live => .of_live live rfl live rfl

theorem follows_dispose (s : Sheet) : s.Follows .dispose (SheetCommand.step s .dispose) := by
  rw [SheetCommand.step, dispose]
  cases live : s.disposed with
  | false => exact .of_live live rfl rfl rfl
  | true =>
    have closed : s.sequence.closed = true := live
    constructor
    · rw [Sequence.after, closed]
      rfl
    · intro a ha
      rw [Sequence.reply?, closed] at ha
      exact Option.some.inj ha

theorem follows_swap (s : Sheet) (a b : Nat) :
    s.Follows (.swap a b) (SheetCommand.step s (.swap a b)) := by
  refine follows_whenLive rfl fun live => ?_
  by_cases outA : s.layerCount ≤ a
  · have found : [a, b].find? (s.layerCount ≤ ·) = some a := by simp [outA]
    have kept : edit s.layers (.swap a b) = s.layers :=
      if_neg fun h => Nat.not_lt_of_le outA h.1
    simp only [found]
    exact .of_live live kept.symm live (congrArg some (if_pos outA))
  · by_cases outB : s.layerCount ≤ b
    · have found : [a, b].find? (s.layerCount ≤ ·) = some b := by simp [outA, outB]
      have kept : edit s.layers (.swap a b) = s.layers :=
        if_neg fun h => Nat.not_lt_of_le outB h.2
      simp only [found]
      exact .of_live live kept.symm live
        (congrArg some ((if_neg outA).trans (if_pos outB)))
    · have found : [a, b].find? (s.layerCount ≤ ·) = none := by simp [outA, outB]
      have ha : a < s.layers.length := Nat.lt_of_not_le outA
      have hb : b < s.layers.length := Nat.lt_of_not_le outB
      have hl : s.layers[a]? = some s.layers[a] := List.getElem?_eq_getElem ha
      have hm : s.layers[b]? = some s.layers[b] := List.getElem?_eq_getElem hb
      have edited : edit s.layers (.swap a b) =
          (s.layers.set a s.layers[b]).set b s.layers[a] :=
        (if_pos ⟨ha, hb⟩).trans (transpose_eq_set_set hl hm)
      have told : answer? s.layers (.swap a b) = some .done :=
        congrArg some ((if_neg outA).trans (if_neg outB))
      simp only [found]
      by_cases same : a = b
      · subst same
        have unmoved : edit s.layers (.swap a a) = s.layers := by simp [edited]
        rw [if_pos rfl]
        exact .of_live live unmoved.symm live told
      · rw [if_neg same]
        simp only [Stack.swap_eq hl hm]
        split
        · exact .of_live live edited.symm live told
        · exact .of_live live edited.symm live told

/-! ### Operations on other parts of the sheet -/

theorem sequence_startRelay (s : Sheet) : s.startRelay.sheet.sequence = s.sequence := by
  rw [startRelay]
  cases s.relay <;> rfl

theorem sequence_stopRelay (s : Sheet) : s.stopRelay.sheet.sequence = s.sequence := by
  rw [stopRelay]
  cases s.relay <;> rfl

theorem follows_listenToStack (s : Sheet) (l : ListenerRef) :
    s.Follows (.listenToStack l) (SheetCommand.step s (.listenToStack l)) := by
  refine follows_of_aside ?_ rfl rfl rfl
  show (s.listenToStack l).sheet.sequence = s.sequence
  rw [listenToStack]
  split
  · rfl
  · split
    · rfl
    · split
      · exact sequence_startRelay _
      · rfl

theorem follows_unlistenToStack (s : Sheet) (l : ListenerRef) :
    s.Follows (.unlistenToStack l) (SheetCommand.step s (.unlistenToStack l)) := by
  refine follows_of_aside ?_ rfl rfl rfl
  show (s.unlistenToStack l).sheet.sequence = s.sequence
  rw [unlistenToStack]
  split
  · rfl
  · split
    · exact sequence_stopRelay _
    · rfl

theorem sequence_whenLive {ρ : Type} {step : Step (Except Failure ρ)}
    (kept : step.sheet.sequence = s.sequence) : (s.whenLive step).sheet.sequence = s.sequence := by
  rw [whenLive]
  split
  · rfl
  · exact kept

theorem sequence_removeData (s : Sheet) (k : String) :
    (s.removeData k).sheet.sequence = s.sequence := by
  refine sequence_whenLive ?_
  split <;> rfl

theorem sequence_updateViewport (s : Sheet) (update : Viewport → Viewport) :
    (s.updateViewport update).sheet.sequence = s.sequence := by
  refine sequence_whenLive ?_
  by_cases same : update s.currentViewport == s.currentViewport
  · simp only [same, if_true]
    rfl
  · simp only [same]
    rfl

theorem sequence_listenToProperties (s : Sheet) (l : ListenerRef) :
    (s.listenToProperties l).sheet.sequence = s.sequence := by
  rw [listenToProperties]
  split <;> rfl

theorem sequence_listenToViewport (s : Sheet) (l : ListenerRef) :
    (s.listenToViewport l).sheet.sequence = s.sequence := by
  rw [listenToViewport]
  split <;> rfl

/-- Every operation does to the layers what it does to a plain sequence. -/
theorem follows_step (s : Sheet) (c : SheetCommand) : s.Follows c (c.step s) := by
  cases c with
  | add l => exact follows_add s l
  | insert i l => exact follows_insert s i l
  | addAll ls => exact follows_addAll s ls
  | remove id => exact follows_remove s id
  | removeAt i => exact follows_removeAt s i
  | removeAll ids => exact follows_removeAll s ids
  | retain ids => exact follows_retain s ids
  | swap a b => exact follows_swap s a b
  | clear => exact follows_clear s
  | dispose => exact follows_dispose s
  | listenToStack l => exact follows_listenToStack s l
  | unlistenToStack l => exact follows_unlistenToStack s l
  | listenToProperties l => exact follows_of_aside (sequence_listenToProperties s l) rfl rfl rfl
  | unlistenToProperties l => exact follows_of_aside rfl rfl rfl rfl
  | listenToViewport l => exact follows_of_aside (sequence_listenToViewport s l) rfl rfl rfl
  | unlistenToViewport l => exact follows_of_aside rfl rfl rfl rfl
  | setTitle title => exact follows_of_aside (sequence_whenLive rfl) rfl rfl rfl
  | putData k v => exact follows_of_aside (sequence_whenLive rfl) rfl rfl rfl
  | removeData k => exact follows_of_aside (sequence_removeData s k) rfl rfl rfl
  | extendData entries => exact follows_of_aside (sequence_whenLive rfl) rfl rfl rfl
  | clearData => exact follows_of_aside (sequence_whenLive rfl) rfl rfl rfl
  | setViewport v => exact follows_of_aside (sequence_updateViewport s _) rfl rfl rfl
  | setCrs crs => exact follows_of_aside (sequence_updateViewport s _) rfl rfl rfl
  | setBounds bounds => exact follows_of_aside (sequence_updateViewport s _) rfl rfl rfl

/-! ## Survivors -/

theorem filter_mem_of_sublist {ls ms : List LayerHandle} (h : ms.Sublist ls) (once : ls.Nodup) :
    ls.filter (· ∈ ms) = ms := by
  induction h with
  | slnil => rfl
  | @cons ms ls l h ih =>
    obtain ⟨absent, once⟩ := List.nodup_cons.mp once
    have gone : l ∉ ms := fun there => absent (h.subset there)
    rw [List.filter_cons_of_neg (by simpa using gone)]
    exact ih once
  | @cons_cons ms ls l h ih =>
    obtain ⟨absent, once⟩ := List.nodup_cons.mp once
    have rest : ls.filter (· ∈ l :: ms) = ls.filter (· ∈ ms) := by
      refine List.filter_congr fun m hm => ?_
      have other : m ≠ l := fun same => absent (same ▸ hm)
      simp [other]
    rw [List.filter_cons_of_pos (by simp), rest, ih once]

/-- An operation that does not exchange layers leaves them in order: the layers before it are among
those after it, or the other way round. -/
theorem sublist_or_sublist_edit (ls : List LayerHandle) (still : ∀ a b, c ≠ .swap a b) :
    ls.Sublist (edit ls c) ∨ (edit ls c).Sublist ls := by
  cases c with
  | add l =>
    rw [edit]
    split
    · exact Or.inl (List.sublist_append_left ls [l])
    · exact Or.inl (List.Sublist.refl ls)
  | insert i l =>
    rw [edit]
    split
    · have wider := (List.sublist_cons_self l (ls.drop i)).append_left (ls.take i)
      rw [List.take_append_drop] at wider
      exact Or.inl wider
    · exact Or.inl (List.Sublist.refl ls)
  | addAll new => exact Or.inl (List.sublist_append_left ls _)
  | remove id => exact Or.inr List.eraseP_sublist
  | removeAt i =>
    rw [edit, ← List.eraseIdx_eq_take_drop_succ]
    exact Or.inr (List.eraseIdx_sublist ls i)
  | removeAll ids | retain ids => exact Or.inr List.filter_sublist
  | swap a b => exact absurd rfl (still a b)
  | clear | dispose => exact Or.inr (List.nil_sublist ls)
  | _ => exact Or.inl (List.Sublist.refl ls)

theorem survivors_sublist {ls : List LayerHandle} (once : ls.Nodup)
    (still : ∀ a b, c ≠ .swap a b) : (ls.filter (· ∈ edit ls c)).Sublist (edit ls c) := by
  rcases sublist_or_sublist_edit ls still with grown | shrunk
  · exact List.filter_sublist.trans grown
  · rw [filter_mem_of_sublist shrunk once]

end Sheet

/-! ## Runs -/

namespace World

variable {w : World} {r : SheetRef} {c : Command} {op : SheetCommand} {q : Sequence}

/-- The operation that a command carries out on a sheet. -/
def call? (w : World) (r : SheetRef) : Command → Option SheetCommand
  | .sheet name op => if w.scene.sheetNamed? name = some r then some op else none
  | _ => none

/-- The operations that a run carries out on a sheet, each with its reply. -/
def dialogue (r : SheetRef) (w : World) : List Command → List (SheetCommand × Reply)
  | [] => []
  | c :: cs =>
    ((w.call? r c).map fun op => (op, (w.execute c).2)).toList ++ dialogue r (w.execute c).1 cs

theorem eq_of_call? (h : w.call? r c = some op) :
    ∃ name, c = .sheet name op ∧ w.scene.sheetNamed? name = some r := by
  cases c with
  | sheet name op' =>
    rw [call?] at h
    split at h
    · rename_i named
      obtain rfl := Option.some.inj h
      exact ⟨name, rfl, named⟩
    · exact absurd h (Option.some_ne_none op).symm
  | _ => exact absurd h (Option.some_ne_none op).symm

theorem execute_of_call? (h : w.call? r c = some op) :
    (w.execute c).1.sheet r = (op.step (w.sheet r)).sheet ∧
      (w.execute c).2 = (op.step (w.sheet r)).result := by
  obtain ⟨name, rfl, named⟩ := eq_of_call? h
  rw [execute, withSheet, named]
  exact ⟨(sheet_perform w r _ r).trans (if_pos rfl), rfl⟩

/-- A sheet that stays in use is moved by nothing but operations that are carried out on it. -/
theorem alike_of_no_call (sound : w.Sound) (h : w.call? r c = none)
    (held : (w.execute c).1.scene.isOpen r = true) :
    (w.sheet r).Alike ((w.execute c).1.sheet r) := by
  rcases execute_course sound c with ⟨r₀, actions, acts⟩ | rests
  · by_cases same : r = r₀
    · subst same
      have actor := acts.actor
      rcases acts.cause with operation | closed
      · cases c with
        | sheet name op =>
          have named : w.scene.sheetNamed? name = some r := actor
          rw [call?, if_pos named] at h
          exact absurd h (Option.some_ne_none op)
        | _ => exact absurd operation.symm Bool.false_ne_true
      · exact absurd (closed.symm.trans held) Bool.false_ne_true
    · exact acts.others r same
  · exact rests.sheets r

theorem isOpen_or_unmade (held : (w.execute c).1.scene.isOpen r = true) :
    w.scene.isOpen r = true ∨ w.sheetsMade ≤ r.number := by
  obtain ⟨x, hx, rfl⟩ := (isOpen_iff _).mp held
  rw [handles_execute] at hx
  have kept : x ∈ w.scene.handles → w.scene.isOpen x.2 = true := fun h =>
    (isOpen_iff w).mpr ⟨x, h, rfl⟩
  cases c with
  | create name title crs reprojector =>
    rcases List.mem_cons.mp hx with rfl | hx
    · exact Or.inr (Nat.le_refl w.sheetsMade)
    · exact Or.inl (kept (List.mem_of_mem_filter hx))
  | share name another =>
    rw [handlesAfter] at hx
    cases bound : w.scene.sheetNamed? name with
    | none =>
      rw [bound] at hx
      exact Or.inl (kept hx)
    | some r =>
      rw [bound] at hx
      rcases List.mem_cons.mp hx with rfl | hx
      · exact Or.inl (isOpen_of_sheetNamed? w bound)
      · exact Or.inl (kept (List.mem_of_mem_filter hx))
  | release name => exact Or.inl (kept (List.mem_of_mem_filter hx))
  | _ => exact Or.inl (kept hx)

/-- As long as the sheet can be used, or come into use, it is the sequence. -/
structure Amounts (r : SheetRef) (q : Sequence) (w : World) : Prop where
  sound : w.Sound
  sequence : w.scene.isOpen r = true ∨ w.sheetsMade ≤ r.number → (w.sheet r).sequence = q

theorem sequence_of_alike {s s' : Sheet} (h : s.Alike s') : s'.sequence = s.sequence := by
  rw [Sheet.sequence, h.layers_eq, h.disposed]
  rfl

theorem amounts_of_call (h : w.Amounts r q) (called : w.call? r c = some op) :
    (w.execute c).1.Amounts r (q.after op) := by
  refine ⟨sound_execute h.sound c, fun _ => ?_⟩
  obtain ⟨name, -, named⟩ := eq_of_call? called
  rw [(execute_of_call? called).1, (Sheet.follows_step (w.sheet r) op).sequence,
    h.sequence (Or.inl (isOpen_of_sheetNamed? w named))]

theorem amounts_of_no_call (h : w.Amounts r q) (uncalled : w.call? r c = none) :
    (w.execute c).1.Amounts r q := by
  have sound := sound_execute h.sound c
  refine ⟨sound, ?_⟩
  rintro (held | unmade)
  · have usable := isOpen_or_unmade held
    rw [sequence_of_alike (alike_of_no_call h.sound uncalled held), h.sequence usable]
  · have made := (cast_execute w c).sheetsMade
    have before : w.sheetsMade ≤ r.number := by omega
    rw [sequence_of_alike (sound.unborn r unmade),
      ← sequence_of_alike (h.sound.unborn r before), h.sequence (Or.inr before)]

theorem amounts_run (h : w.Amounts r q) (cs : List Command) :
    (w.run cs).Amounts r (q.replay ((dialogue r w cs).map (·.1))) ∧
      q.Accounts (dialogue r w cs) := by
  induction cs generalizing w q with
  | nil => exact ⟨h, trivial⟩
  | cons c cs ih =>
    rw [dialogue]
    cases called : w.call? r c with
    | none => exact ih (amounts_of_no_call h called)
    | some op =>
      obtain ⟨amounts, accounts⟩ := ih (amounts_of_call h called)
      refine ⟨amounts, ?_, accounts⟩
      intro a ha
      obtain ⟨name, -, named⟩ := eq_of_call? called
      rw [← h.sequence (Or.inl (isOpen_of_sheetNamed? w named))] at ha
      rw [(execute_of_call? called).2]
      exact (Sheet.follows_step (w.sheet r) op).reply a ha

/-- In any run from an opening, each operation on a sheet has the reply that the plain sequence gives
there, and as long as the sheet is in use its layers are those of the sequence. No identity is
repeated, an operation that does not exchange layers leaves those that stay in order, and a layer is
looked up where it stands. -/
theorem layers_eq_replay (layers : List (Layer × Flags)) (conducts : List Conduct)
    (cs : List Command) (r : SheetRef) :
    let w := (opening layers conducts).run cs
    let s := w.sheet r
    let said := dialogue r (opening layers conducts) cs
    let q := Sequence.replay {} (said.map (·.1))
    Sequence.Accounts {} said ∧
      s.layers = (if w.scene.isOpen r = true then q.items else []) ∧
      Distinct s.layers ∧
      (∀ op : SheetCommand, (∀ a b, op ≠ .swap a b) →
        let after := (op.step s).sheet.layers
        (s.layers.filter (· ∈ after)).Sublist after) ∧
      (∀ id i, s.stack.indexOf? id = some i ↔ ∃ l, s.stack.get? i = some l ∧ l.id = id) ∧
      (∀ id, s.stack.contains id = true ↔ ∃ i, s.stack.indexOf? id = some i) ∧
      s.layerCount = s.layers.length := by
  intro w s said q
  have start : (opening layers conducts).Amounts r {} :=
    ⟨sound_opening layers conducts, fun _ => rfl⟩
  obtain ⟨amounts, accounts⟩ := amounts_run start cs
  have settled : w.Settled :=
    settled_run (sound_opening layers conducts) (settled_opening layers conducts) cs
  have distinct : Distinct s.layers := (amounts.sound.sheets r).distinct
  refine ⟨accounts, ?_, distinct, ?_, ?_, ?_, rfl⟩
  · split
    · rename_i held
      exact congrArg Sequence.items (amounts.sequence (Or.inl held))
    · rename_i closed
      exact settled.closed r (Bool.eq_false_iff.mpr closed)
  · intro op still
    have followed : (op.step s).sheet.layers = (s.sequence.after op).items :=
      congrArg Sequence.items (Sheet.follows_step s op).sequence
    rw [Sequence.after] at followed
    simp only [followed]
    split
    · exact List.filter_sublist
    · exact Sheet.survivors_sublist distinct.nodup still
  · exact fun id i => Stack.indexOf?_eq_some_iff distinct
  · exact fun id => Option.isSome_iff_exists

end World
end LayeredMap
