import LayeredMap.Proofs.Sequence

/-!
# Places in a stack

A stack that starts out empty never holds two layers of one identity, whatever
is done to it, so an identity has at most one place and is found there. What an
operation answers tells what it did: a layer that comes in was unknown and
stands where it was to stand, and if nothing came of it the stack is as it was.
A test by which layers are kept is asked once about each of them, from the
bottom up, whatever it remembers of what it was asked.
-/

namespace LayeredMap.Stack

variable {s : Stack} {l : LayerHandle} {i : Nat}

theorem exists_get?_of_lt (h : i < s.size) : ∃ l, s.get? i = some l :=
  ⟨_, List.getElem?_eq_getElem h⟩

theorem insert_of_beyond (h : s.size < i) (l : LayerHandle) : s.insert i l = (false, s) := by
  simp [insert, h]

theorem swap_of_beyond {a b : Nat} (h : s.size ≤ a ∨ s.size ≤ b) : s.swap a b = (false, s) := by
  rcases h with first | second
  · have absent : s.get? a = none := List.getElem?_eq_none first
    rw [swap, absent]
  · have absent : s.get? b = none := List.getElem?_eq_none second
    rw [swap, absent]
    cases s.get? a <;> rfl

/-! ## Tests that remember -/

section Tests

variable {σ : Type}

/-- The test is asked about the layers one after the other and gives these answers. -/
inductive Asked (keep : LayerHandle → σ → Bool × σ) :
    List LayerHandle → σ → List Bool → σ → Prop
  | done (st : σ) : Asked keep [] st [] st
  | next {l : LayerHandle} {ls : List LayerHandle} {st st₁ st' : σ} {answer : Bool}
      {answers : List Bool} (turn : keep l st = (answer, st₁))
      (rest : Asked keep ls st₁ answers st') : Asked keep (l :: ls) st (answer :: answers) st'

/-- The layers that the answer was yes for. -/
def accepted (ls : List LayerHandle) (answers : List Bool) : List LayerHandle :=
  ((ls.zip answers).filter (·.2)).map (·.1)

theorem accepted_cons (l : LayerHandle) (ls : List LayerHandle) (answer : Bool)
    (answers : List Bool) : accepted (l :: ls) (answer :: answers) =
      if answer then l :: accepted ls answers else accepted ls answers := by
  cases answer <;> rfl

theorem accepted_sublist (ls : List LayerHandle) (answers : List Bool) :
    (accepted ls answers).Sublist ls := by
  induction ls generalizing answers with
  | nil => exact List.Sublist.refl _
  | cons l ls ih =>
    cases answers with
    | nil => exact List.nil_sublist _
    | cons answer answers =>
      rw [accepted_cons]
      split
      · exact (ih answers).cons_cons l
      · exact (ih answers).cons l

theorem retainList_asked (keep : LayerHandle → σ → Bool × σ) (ls : List LayerHandle) (st : σ) :
    ∃ answers, Asked keep ls st answers (retainList keep ls st).2 ∧
      (retainList keep ls st).1 = accepted ls answers := by
  induction ls generalizing st with
  | nil => exact ⟨[], .done st, rfl⟩
  | cons l ls ih =>
    obtain ⟨answers, rest, kept⟩ := ih (keep l st).2
    refine ⟨(keep l st).1 :: answers, .next rfl rest, ?_⟩
    rw [accepted_cons, ← kept]
    rfl

theorem retainWith_asked (s : Stack) (keep : LayerHandle → σ → Bool × σ) (st : σ) :
    ∃ answers, Asked keep s.layers st answers (s.retainWith keep st).2 ∧
      (s.retainWith keep st).1.layers = accepted s.layers answers :=
  retainList_asked keep s.layers st

end Tests

/-! ## Commands -/

/-- What can be done to a stack. -/
inductive Command : Type 1 where
  | push (l : LayerHandle)
  | insert (i : Nat) (l : LayerHandle)
  | removeAt (i : Nat)
  | retain {σ : Type} (keep : LayerHandle → σ → Bool × σ) (st : σ)
  | swap (a b : Nat)
  | drain

namespace Command

def apply (s : Stack) : Command → Stack
  | push l => (s.push l).2
  | insert i l => (s.insert i l).2
  | removeAt i => (s.removeAt i).2
  | retain keep st => (s.retainWith keep st).1
  | swap a b => (s.swap a b).2
  | drain => s.drain.2

/-- The answer is that nothing came of it. -/
def Declined (s : Stack) : Command → Prop
  | push l => (s.push l).1 = none
  | insert i l => (s.insert i l).1 = false
  | removeAt i => (s.removeAt i).1 = none
  | swap a b => (s.swap a b).1 = false
  | retain .. | drain => False

end Command

/-- The stack after a run that starts with no layers. -/
def after (cs : List Command) : Stack := cs.foldl Command.apply {}

theorem distinct_apply (h : Distinct s.layers) (c : Command) : Distinct (c.apply s).layers := by
  cases c with
  | push l =>
    show Distinct (s.push l).2.layers
    cases known : s.contains l.id with
    | true => rwa [push_of_known known]
    | false =>
      rw [push_of_new known]
      exact distinct_of_new h known (List.perm_append_singleton l s.layers)
  | insert i l =>
    show Distinct (s.insert i l).2.layers
    by_cases beyond : s.size < i
    · rwa [insert_of_beyond beyond]
    · cases known : s.contains l.id with
      | true => rwa [insert_of_known known]
      | false =>
        have inside : i ≤ s.layers.length := Nat.le_of_not_lt beyond
        rw [insert_of_new inside known]
        exact distinct_of_new h known (List.perm_insertIdx l s.layers inside)
  | removeAt i =>
    show Distinct (s.removeAt i).2.layers
    cases there : s.get? i with
    | none => rwa [removeAt_of_beyond there]
    | some l =>
      rw [removeAt_eq there]
      exact h.sublist (List.eraseIdx_sublist s.layers i)
  | retain keep st =>
    obtain ⟨answers, -, kept⟩ := s.retainWith_asked keep st
    show Distinct (s.retainWith keep st).1.layers
    rw [kept]
    exact h.sublist (accepted_sublist s.layers answers)
  | swap a b => exact h.perm (s.swap_perm a b).symm
  | drain => exact List.nodup_nil

theorem distinct_foldl (h : Distinct s.layers) (cs : List Command) :
    Distinct (cs.foldl Command.apply s).layers := by
  induction cs generalizing s with
  | nil => exact h
  | cons c cs ih => exact ih (distinct_apply h c)

/-! ## Answers -/

theorem push_eq_some_iff : (s.push l).1 = some i ↔ s.Lacks l.id ∧ i + 1 = (s.push l).2.size := by
  cases known : s.contains l.id with
  | true =>
    have held : ¬ s.Lacks l.id := contains_iff.mp known
    simp [push_of_known known, held]
  | false =>
    have lacks : s.Lacks l.id := contains_eq_false_iff.mp known
    simp [push_of_new known, lacks, size, eq_comm]

theorem insert_eq_true_iff : (s.insert i l).1 = true ↔ i ≤ s.size ∧ s.Lacks l.id := by
  rw [← contains_eq_false_iff, insert]
  split
  · rename_i refused
    rcases Bool.or_eq_true_iff.mp refused with beyond | known
    · simp [Nat.not_le.mpr (of_decide_eq_true beyond)]
    · simp [known]
  · rename_i taken
    simpa using taken

theorem swap_eq_true_iff {a b : Nat} : (s.swap a b).1 = true ↔ a < s.size ∧ b < s.size := by
  by_cases beyond : s.size ≤ a ∨ s.size ≤ b
  · rw [swap_of_beyond beyond]
    simp only [Bool.false_eq_true, false_iff]
    omega
  · have ha : a < s.size := by omega
    have hb : b < s.size := by omega
    obtain ⟨l, there⟩ := exists_get?_of_lt ha
    obtain ⟨m, there'⟩ := exists_get?_of_lt hb
    rw [swap_eq there there']
    simp [ha, hb]

/-- Two places exchange what stands there. -/
theorem get?_swap {a b : Nat} (ha : a < s.size) (hb : b < s.size) (i : Nat) :
    (s.swap a b).2.get? i = s.get? (Equiv.swap a b i) := by
  obtain ⟨l, there⟩ := exists_get?_of_lt ha
  obtain ⟨m, there'⟩ := exists_get?_of_lt hb
  rw [swap_eq there there', ← transpose_eq_set_set there there']
  exact getElem?_transpose s.layers ha hb i

theorem apply_of_declined {c : Command} (h : c.Declined s) : c.apply s = s := by
  cases c with
  | push l =>
    show (s.push l).2 = s
    cases known : s.contains l.id with
    | true => rw [push_of_known known]
    | false =>
      have pushed : (s.push l).1 = some s.size := congrArg Prod.fst (push_of_new known)
      exact absurd (h.symm.trans pushed) (Option.some_ne_none _).symm
  | insert i l =>
    show (s.insert i l).2 = s
    rw [Command.Declined, insert] at h
    rw [insert]
    split
    · rfl
    · rename_i taken
      rw [if_neg taken] at h
      exact absurd h.symm Bool.false_ne_true
  | removeAt i =>
    show (s.removeAt i).2 = s
    cases there : s.get? i with
    | none => rw [removeAt_of_beyond there]
    | some l =>
      have removed : (s.removeAt i).1 = some l := congrArg Prod.fst (removeAt_eq there)
      exact absurd (h.symm.trans removed) (Option.some_ne_none l).symm
  | swap a b =>
    show (s.swap a b).2 = s
    have beyond : s.size ≤ a ∨ s.size ≤ b := by
      by_contra inside
      have swapped : (s.swap a b).1 = true := swap_eq_true_iff.mpr (by omega)
      exact Bool.false_ne_true (h.symm.trans swapped)
    rw [swap_of_beyond beyond]
  | retain | drain => exact h.elim

/-- Each identity has one place, and the operations answer accordingly. -/
structure Placed (s : Stack) : Prop where
  distinct : Distinct s.layers
  indexOf : ∀ id i, s.indexOf? id = some i ↔ ∃ l, s.get? i = some l ∧ l.id = id
  push : ∀ l i, (s.push l).1 = some i ↔ s.Lacks l.id ∧ i + 1 = (s.push l).2.size
  pushed : ∀ l, s.Lacks l.id → (s.push l).2.layers = s.layers ++ [l]
  insert : ∀ i l, (s.insert i l).1 = true ↔ i ≤ s.size ∧ s.Lacks l.id
  /-- The others keep their order. -/
  inserted : ∀ i l, (s.insert i l).1 = true →
    (s.insert i l).2.get? i = some l ∧ (s.insert i l).2.layers.eraseIdx i = s.layers
  removeAt : ∀ i, (s.removeAt i).1 = s.get? i ∧ (s.removeAt i).2.layers = s.layers.eraseIdx i
  retain : ∀ {σ : Type} (keep : LayerHandle → σ → Bool × σ) (st : σ), ∃ answers,
    Asked keep s.layers st answers (s.retainWith keep st).2 ∧
      (s.retainWith keep st).1.layers = accepted s.layers answers
  swap : ∀ a b, (s.swap a b).1 = true ↔ a < s.size ∧ b < s.size
  swapped : ∀ a b, (s.swap a b).1 = true →
    ∀ i, (s.swap a b).2.get? i = s.get? (Equiv.swap a b i)
  declined : ∀ c : Command, c.Declined s → c.apply s = s

/-- Whatever is done to a stack that starts out empty, each identity has one place in it, and each
operation answers for what it does. -/
theorem placed_after (cs : List Command) : (after cs).Placed := by
  have distinct : Distinct (after cs).layers := distinct_foldl (s := {}) List.nodup_nil cs
  generalize after cs = s at distinct
  refine ⟨distinct, fun id i => indexOf?_eq_some_iff distinct, fun l i => push_eq_some_iff, ?_,
    fun i l => insert_eq_true_iff, ?_, ?_, s.retainWith_asked, fun a b => swap_eq_true_iff, ?_,
    fun c => apply_of_declined⟩
  · intro l lacks
    rw [push_of_new (contains_eq_false_iff.mpr lacks)]
  · intro i l taken
    obtain ⟨inside, lacks⟩ := insert_eq_true_iff.mp taken
    rw [insert_of_new inside (contains_eq_false_iff.mpr lacks)]
    constructor
    · show (s.layers.insertIdx i l)[i]? = some l
      exact List.getElem?_insertIdx_self.trans (if_pos inside)
    · exact List.eraseIdx_insertIdx_self l
  · intro i
    cases there : s.get? i with
    | none =>
      have beyond : s.layers.length ≤ i := List.getElem?_eq_none_iff.mp there
      rw [removeAt_of_beyond there, List.eraseIdx_of_length_le beyond]
      exact ⟨rfl, rfl⟩
    | some l =>
      rw [removeAt_eq there]
      exact ⟨rfl, rfl⟩
  · intro a b swapped
    obtain ⟨ha, hb⟩ := swap_eq_true_iff.mp swapped
    exact get?_swap ha hb

/-- A test that keeps every other layer that it is asked about. -/
example :
    let l (n : Nat) : LayerHandle := { object := n, id := .numbered n }
    let twin : LayerHandle := { object := 9, id := .numbered 1 }
    let everyOther (_ : LayerHandle) (even : Bool) := (even, !even)
    (after [.push (l 0), .insert 0 (l 1), .push twin, .insert 5 (l 2), .push (l 3), .swap 0 2,
      .retain everyOther true]).layers = [l 3, l 1] := by decide

end LayeredMap.Stack
