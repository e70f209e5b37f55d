import Mathlib.Data.Set.Card
import LayeredMap.Notice
import LayeredMap.Proofs.Roster

/-!
# Rosters through a run

A roster that starts out empty is an ordered set, whatever is done to it. When
a listener came can be read off the commands alone: it came with the first
registration that no removal or clearing has undone since. Those who came are
listed once, in the order in which they came, and storage is held exactly while
there is one of them.

A round calls each of them once in this order and leaves the roster as it is.
Those that fail are counted and put on record with their position, whatever
they fail with.
-/

namespace LayeredMap.Roster

variable {α σ : Type}

/-! ## Rounds -/

/-- Listeners are called in order. One may fail with a payload, whose text is put on record. -/
def callAll (event : String) (deliver : α → σ → σ × Option Payload) (note : Notice → σ → σ) :
    Nat → List α → σ → σ × Nat :=
  deliverAll (fun l s => ((deliver l s).1, (deliver l s).2.map Payload.message))
    fun position error => note (.listenerFailed event position error)

/-- Everyone on the roster is called. -/
def broadcast (r : Roster α) (event : String) (deliver : α → σ → σ × Option Payload)
    (note : Notice → σ → σ) (s : σ) : σ × Nat :=
  r.notify (fun l s => ((deliver l s).1, (deliver l s).2.map Payload.message))
    (fun position error => note (.listenerFailed event position error)) s

theorem broadcast_eq_callAll (r : Roster α) (event : String)
    (deliver : α → σ → σ × Option Payload) (note : Notice → σ → σ) (s : σ) :
    r.broadcast event deliver note s = callAll event deliver note 0 r.toList s := rfl

theorem callAll_cons_of_done {event : String} {deliver : α → σ → σ × Option Payload}
    {note : Notice → σ → σ} {l : α} {s : σ} (done : (deliver l s).2 = none) (position : Nat)
    (ls : List α) :
    callAll event deliver note position (l :: ls) s =
      callAll event deliver note (position + 1) ls (deliver l s).1 := by
  simp only [callAll, deliverAll, done, Option.map_none]

theorem callAll_cons_of_failed {event : String} {deliver : α → σ → σ × Option Payload}
    {note : Notice → σ → σ} {l : α} {s : σ} {p : Payload} (failed : (deliver l s).2 = some p)
    (position : Nat) (ls : List α) :
    let rest := callAll event deliver note (position + 1) ls
      (note (.listenerFailed event position p.message) (deliver l s).1)
    callAll event deliver note position (l :: ls) s = (rest.1, rest.2 + 1) := by
  simp only [callAll, deliverAll, failed, Option.map_some]

/-- What a round is about, with a log of the calls and their outcome, and of the notices. -/
structure Round (α σ : Type) where
  state : σ
  calls : List (α × Option Payload) := []
  notices : List Notice := []

namespace Round

def deliver (f : α → σ → σ × Option Payload) (l : α) (x : Round α σ) :
    Round α σ × Option Payload :=
  let (state, failure) := f l x.state
  ({ x with state, calls := x.calls ++ [(l, failure)] }, failure)

def note (f : Notice → σ → σ) (n : Notice) (x : Round α σ) : Round α σ :=
  { x with state := f n x.state, notices := x.notices ++ [n] }

end Round

/-- One notice for each call that failed, with its position. -/
def warnings (event : String) (position : Nat) (calls : List (α × Option Payload)) : List Notice :=
  (calls.zipIdx position).filterMap fun x =>
    x.1.2.map fun p => .listenerFailed event x.2 p.message

theorem level_of_mem_warnings {event : String} {position : Nat}
    {calls : List (α × Option Payload)} {n : Notice} (h : n ∈ warnings event position calls) :
    n.level = .warn := by
  obtain ⟨x, -, hn⟩ := List.mem_filterMap.mp h
  obtain ⟨p, -, rfl⟩ := Option.map_eq_some_iff.mp hn
  rfl

/-- A log of a round, where `plain` is what comes of the same round without one. -/
structure Round.Logs (event : String) (position : Nat) (ls : List α) (before : Round α σ)
    (logged : Round α σ × Nat) (plain : σ × Nat) : Prop where
  state : logged.1.state = plain.1
  failures : logged.2 = plain.2
  log : ∃ calls, logged.1.calls = before.calls ++ calls ∧ calls.map (·.1) = ls ∧
    logged.2 = calls.countP (·.2.isSome) ∧
    logged.1.notices = before.notices ++ warnings event position calls

theorem callAll_logs (event : String) (deliver : α → σ → σ × Option Payload)
    (note : Notice → σ → σ) (position : Nat) (ls : List α) (x : Round α σ) :
    Round.Logs event position ls x
      (callAll event (Round.deliver deliver) (Round.note note) position ls x)
      (callAll event deliver note position ls x.state) := by
  induction ls generalizing position x with
  | nil => exact ⟨rfl, rfl, [], (List.append_nil _).symm, rfl, rfl, (List.append_nil _).symm⟩
  | cons l ls ih =>
    let called : Round α σ := (Round.deliver deliver l x).1
    cases outcome : (deliver l x.state).2 with
    | none =>
      have logged : (Round.deliver deliver l x).2 = none := outcome
      obtain ⟨state, failures, calls, appended, whom, count, noted⟩ := ih (position + 1) called
      rw [callAll_cons_of_done logged, callAll_cons_of_done outcome]
      refine ⟨state, failures, (l, none) :: calls, ?_, congrArg (l :: ·) whom, ?_, ?_⟩
      · rw [appended]
        simp [called, Round.deliver, outcome]
      · simpa using count
      · rw [noted]
        simp [called, Round.deliver, warnings]
    | some p =>
      have logged : (Round.deliver deliver l x).2 = some p := outcome
      let noticed := Round.note note (.listenerFailed event position p.message) called
      obtain ⟨state, failures, calls, appended, whom, count, noted⟩ := ih (position + 1) noticed
      rw [callAll_cons_of_failed logged, callAll_cons_of_failed outcome]
      refine ⟨state, congrArg (· + 1) failures, (l, some p) :: calls, ?_,
        congrArg (l :: ·) whom, ?_, ?_⟩
      · rw [appended]
        simp [noticed, called, Round.note, Round.deliver, outcome]
      · simpa using count
      · rw [noted]
        simp [noticed, called, Round.note, Round.deliver, warnings]

/-! ## Commands -/

/-- What can be done to a roster. -/
inductive Command (α σ : Type) where
  | add (l : α)
  | remove (l : α)
  | clear
  | notify (event : String) (deliver : α → σ → σ × Option Payload)

namespace Command

variable [DecidableEq α]

/-- A roster and its surroundings after a command. -/
def apply (note : Notice → σ → σ) (x : Roster α × σ) : Command α σ → Roster α × σ
  | add l => ((x.1.add l).2, x.2)
  | remove l => ((x.1.remove l).2, x.2)
  | clear => (x.1.clear, x.2)
  | notify event deliver => (x.1, (x.1.broadcast event deliver note x.2).1)

/-- When the listener came, once the command of the given time is carried out. -/
def came (l : α) (time : Nat) (before : Option Nat) : Command α σ → Option Nat
  | add m => if m = l then before <|> some time else before
  | remove m => if m = l then none else before
  | clear => none
  | notify .. => before

end Command

variable [DecidableEq α]

/-- The time of the registration that a listener is listed for, if there is one. -/
def since (cs : List (Command α σ)) (l : α) : Option Nat :=
  cs.zipIdx.foldl (fun before x => x.1.came l x.2 before) none

theorem since_concat (cs : List (Command α σ)) (c : Command α σ) (l : α) :
    since (cs ++ [c]) l = c.came l cs.length (since cs l) := by
  simp [since, List.zipIdx_append]

/-- Those who came are listed in the order in which they came. -/
structure InOrder (r : Roster α) (cs : List (Command α σ)) : Prop where
  nodup : r.toList.Nodup
  listed : ∀ l, l ∈ r.toList ↔ (since cs l).isSome = true
  sorted : r.toList.Pairwise fun l m => ∃ t u, since cs l = some t ∧ since cs m = some u ∧ t < u
  past : ∀ l t, since cs l = some t → t < cs.length
  tight : r.slots ≠ some []

theorem InOrder.nil : InOrder {} ([] : List (Command α σ)) where
  nodup := List.nodup_nil
  listed l := by simp [toList, since]
  sorted := List.Pairwise.nil
  past l t h := absurd h (Option.some_ne_none t).symm
  tight := (Option.some_ne_none _).symm

variable {r r' : Roster α} {cs : List (Command α σ)} {c : Command α σ}

/-- A command after which those who are still listed came when they came before. -/
theorem InOrder.thin (h : InOrder r cs) (sub : r'.toList.Sublist r.toList)
    (listed : ∀ l, l ∈ r'.toList ↔ (c.came l cs.length (since cs l)).isSome = true)
    (kept : ∀ l ∈ r'.toList, c.came l cs.length (since cs l) = since cs l)
    (tight : r'.slots ≠ some []) : InOrder r' (cs ++ [c]) where
  nodup := h.nodup.sublist sub
  listed l := by rw [since_concat]; exact listed l
  sorted := by
    refine (h.sorted.sublist sub).imp_of_mem fun {l m} hl hm order => ?_
    rw [since_concat, since_concat, kept l hl, kept m hm]
    exact order
  past l t came := by
    rw [since_concat] at came
    have there : l ∈ r'.toList := (listed l).mpr (by rw [came]; rfl)
    rw [kept l there] at came
    have := h.past l t came
    rw [List.length_append]
    omega
  tight := tight

theorem tight_add (h : r.slots ≠ some []) (l : α) : (r.add l).2.slots ≠ some [] := by
  rw [add]
  split
  · exact h
  · simp

theorem tight_remove (h : r.slots ≠ some []) (l : α) : (r.remove l).2.slots ≠ some [] := by
  rw [remove]
  split
  · cases r.toList.filter (· ≠ l) with
    | nil => exact (Option.some_ne_none _).symm
    | cons m ms => simp
  · exact h

theorem inOrder_add (h : InOrder r cs) (l : α) : InOrder (r.add l).2 (cs ++ [.add l]) := by
  have stays (m : α) (was : (since cs m).isSome = true) :
      (Command.add l : Command α σ).came m cs.length (since cs m) = since cs m := by
    obtain ⟨t, ht⟩ := Option.isSome_iff_exists.mp was
    simp [Command.came, ht]
  by_cases known : l ∈ r.toList
  -- Somebody who comes again stays where he is, since only his first registration counts.
  · have same : (r.add l).2 = r := congrArg Prod.snd (r.add_of_mem l known)
    rw [same]
    refine h.thin (List.Sublist.refl _) ?_ (fun m hm => stays m ((h.listed m).mp hm)) h.tight
    intro m
    by_cases mine : l = m
    · subst mine
      rw [stays l ((h.listed l).mp known)]
      exact h.listed l
    · rw [Command.came, if_neg mine]
      exact h.listed m
  · have absent : since cs l = none := by
      simpa using mt (h.listed l).mpr known
    have comes : since (cs ++ [.add l]) l = some cs.length := by
      rw [since_concat, absent]
      simp [Command.came]
    have others (m : α) (other : m ≠ l) : since (cs ++ [.add l]) m = since cs m := by
      rw [since_concat, Command.came, if_neg other.symm]
    have grown : (r.add l).2.toList = r.toList ++ [l] := by rw [toList_add, if_neg known]
    refine ⟨nodup_toList_add r l h.nodup, ?_, ?_, ?_, tight_add h.tight l⟩
    · intro m
      rw [mem_add]
      by_cases mine : m = l
      · subst mine
        simp [comes]
      · rw [others m mine, h.listed]
        simp [mine]
    · rw [grown, List.pairwise_append]
      refine ⟨?_, List.pairwise_singleton _ _, ?_⟩
      · refine h.sorted.imp_of_mem fun {a b} ha hb order => ?_
        rw [others a fun same => known (same ▸ ha), others b fun same => known (same ▸ hb)]
        exact order
      · intro m hm l' hl'
        obtain rfl := List.mem_singleton.mp hl'
        obtain ⟨t, ht⟩ := Option.isSome_iff_exists.mp ((h.listed m).mp hm)
        refine ⟨t, cs.length, ?_, comes, h.past m t ht⟩
        rw [others m fun same => known (same ▸ hm)]
        exact ht
    · intro m t ht
      rw [List.length_append, List.length_singleton]
      by_cases mine : m = l
      · subst mine
        rw [comes] at ht
        have := Option.some.inj ht
        omega
      · rw [others m mine] at ht
        exact Nat.lt_succ_of_lt (h.past m t ht)

theorem inOrder_remove (h : InOrder r cs) (l : α) : InOrder (r.remove l).2 (cs ++ [.remove l]) := by
  refine h.thin ?_ ?_ ?_ (tight_remove h.tight l)
  · rw [toList_remove]
    exact List.filter_sublist
  · intro m
    rw [mem_remove, Command.came]
    by_cases mine : l = m
    · simp [mine]
    · simp [mine, Ne.symm mine, h.listed]
  · intro m hm
    rw [Command.came, if_neg ((mem_remove r l).mp hm).2.symm]

theorem inOrder_apply (h : InOrder r cs) (note : Notice → σ → σ) (s : σ) (c : Command α σ) :
    InOrder (c.apply note (r, s)).1 (cs ++ [c]) := by
  cases c with
  | add l => exact inOrder_add h l
  | remove l => exact inOrder_remove h l
  | clear =>
    refine h.thin (List.nil_sublist _) ?_ ?_ (Option.some_ne_none _).symm
    · intro l
      simp [Command.came, Command.apply, clear, toList]
    · intro l hl
      exact absurd hl List.not_mem_nil
  | notify event deliver => exact h.thin (List.Sublist.refl _) h.listed (fun _ _ => rfl) h.tight

/-- A roster and its surroundings after a run that starts with nobody listed. -/
def after (note : Notice → σ → σ) (cs : List (Command α σ)) (s : σ) : Roster α × σ :=
  cs.foldl (Command.apply note) ({}, s)

theorem inOrder_after (note : Notice → σ → σ) (cs : List (Command α σ)) (s : σ) :
    InOrder (after note cs s).1 cs := by
  induction cs using List.reverseRecOn with
  | nil => exact .nil
  | append_singleton cs c ih =>
    rw [after, List.foldl_concat]
    exact inOrder_apply ih note _ c

/-! ## What a roster shows -/

theorem InOrder.isAllocated_iff (h : InOrder r cs) : r.isAllocated = true ↔ r.isEmpty = false := by
  obtain ⟨slots⟩ := r
  cases slots with
  | none => simp [isAllocated, isEmpty, toList]
  | some ls =>
    have full : ls ≠ [] := fun none_left => h.tight (congrArg some none_left)
    simpa [isAllocated, isEmpty, toList] using full

theorem add_iff_not_mem (r : Roster α) (l : α) : (r.add l).1 = true ↔ l ∉ r.toList := by
  by_cases known : l ∈ r.toList
  · simp [add_of_mem r l known, known]
  · obtain ⟨grown, added, -⟩ := add_of_not_mem r l known
    simp [added, known]

theorem remove_iff_mem (r : Roster α) (l : α) : (r.remove l).1 = true ↔ l ∈ r.toList := by
  by_cases known : l ∈ r.toList
  · obtain ⟨rest, removed, -⟩ := remove_of_mem r l known
    simp [removed, known]
  · simp [remove_of_not_mem r l known, known]

/-- The roster is the ordered set of those who came, and answers accordingly. -/
structure Reflects (r : Roster α) (came : α → Option Nat) : Prop where
  once : r.toList.Nodup
  listed : ∀ l, l ∈ r.toList ↔ came l ≠ none
  order : r.toList.Pairwise fun l m => ∃ t u, came l = some t ∧ came m = some u ∧ t < u
  adds : ∀ l, (r.add l).1 = true ↔ came l = none
  removes : ∀ l, (r.remove l).1 = true ↔ came l ≠ none
  /-- Those who stay keep their order. -/
  rest : ∀ l, (r.remove l).2.toList = r.toList.filter (· ≠ l)
  contains : ∀ l, r.contains l = true ↔ came l ≠ none
  size : r.size = {l | came l ≠ none}.ncard
  empty : r.isEmpty = true ↔ ∀ l, came l = none
  allocated : r.isAllocated = true ↔ r.isEmpty = false

theorem InOrder.reflects (h : InOrder r cs) : r.Reflects (since cs) := by
  have listed (l : α) : l ∈ r.toList ↔ since cs l ≠ none := by
    rw [h.listed, Option.isSome_iff_ne_none]
  refine ⟨h.nodup, listed, h.sorted, ?_, ?_, r.toList_remove, ?_, ?_, ?_, h.isAllocated_iff⟩
  · intro l
    rw [add_iff_not_mem, listed, ne_eq, not_not]
  · intro l
    rw [remove_iff_mem, listed]
  · intro l
    rw [contains_iff, listed]
  · have members : {l | since cs l ≠ none} = (r.toList.toFinset : Set α) := by
      ext l
      simp [listed]
    rw [members, Set.ncard_coe_finset, List.toFinset_card_of_nodup h.nodup]
    rfl
  · rw [isEmpty, List.isEmpty_iff, List.eq_nil_iff_forall_not_mem]
    refine forall_congr' fun l => ?_
    rw [listed, ne_eq, not_not]

/-- Whatever is done to a roster that starts out empty, it is the ordered set of those who came. A
round calls each of them once, in order, and does nothing else but to count those that fail, and to
warn of each of them by its position. -/
theorem refines_ordered_set (note : Notice → σ → σ) (cs : List (Command α σ)) (s : σ) :
    let (r, s') := after note cs s
    r.Reflects (since cs) ∧
      ∀ (event : String) (deliver : α → σ → σ × Option Payload),
        let (logged, failures) :=
          r.broadcast event (Round.deliver deliver) (Round.note note) { state := s' }
        (Command.notify event deliver).apply note (r, s') = (r, logged.state) ∧
          failures = (r.broadcast event deliver note s').2 ∧
          logged.calls.map (·.1) = r.toList ∧
          failures = logged.calls.countP (·.2.isSome) ∧
          logged.notices = warnings event 0 logged.calls ∧
          ∀ n ∈ logged.notices, n.level = .warn := by
  refine ⟨(inOrder_after note cs s).reflects, fun event deliver => ?_⟩
  rw [broadcast_eq_callAll, broadcast_eq_callAll]
  obtain ⟨state, count, calls, called, whom, failures, noted⟩ :=
    callAll_logs event deliver note 0 (after note cs s).1.toList { state := (after note cs s).2 }
  rw [List.nil_append] at called noted
  subst called
  refine ⟨congrArg (Prod.mk _) state.symm, count, whom, failures, noted, fun n hn => ?_⟩
  exact level_of_mem_warnings ((congrArg (n ∈ ·) noted).mp hn)

/-- Of three who came, the first one has left and come again, and the second one fails. -/
example :
    let cs : List (Command Nat Unit) := [.add 0, .add 1, .remove 0, .add 2, .add 1, .add 0]
    let r := (after (fun _ s => s) cs ()).1
    let fails (l : Nat) (s : Unit) := (s, if l = 2 then some Payload.other else none)
    let heard := r.broadcast "added" (Round.deliver fails) (Round.note fun _ s => s) { state := () }
    r.toList = [1, 2, 0] ∧ [1, 2, 0].map (since cs) = [some 1, some 3, some 5] ∧
      heard.2 = 1 ∧ heard.1.notices = [.listenerFailed "added" 1 "unknown panic"] := by decide

end LayeredMap.Roster
