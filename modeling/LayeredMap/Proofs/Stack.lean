import Mathlib.Data.List.Nodup
import Mathlib.Data.List.Pairwise
import Mathlib.Data.List.Perm.Basic
import LayeredMap.Sheet.Layers

/-!
# Stacks without repetition

Each operation on a stack, read through the list of its layers: which layers
come in, which go out, and why no identity is repeated afterwards. Positions
are in ascending order, so the first and the last one enclose the others.
-/

namespace LayeredMap

/-- No two layers have one identity. -/
def Distinct (ls : List LayerHandle) : Prop := (ls.map (·.id)).Nodup

theorem Distinct.sublist {ls ms : List LayerHandle} (h : Distinct ms) (hs : ls.Sublist ms) :
    Distinct ls :=
  List.Nodup.sublist (hs.map _) h

theorem Distinct.perm {ls ms : List LayerHandle} (h : Distinct ls) (hp : ls.Perm ms) :
    Distinct ms :=
  (hp.map _).nodup_iff.mp h

theorem distinct_cons {l : LayerHandle} {ls : List LayerHandle} :
    Distinct (l :: ls) ↔ (∀ m ∈ ls, m.id ≠ l.id) ∧ Distinct ls := by
  simp [Distinct, List.nodup_cons]

theorem Distinct.eq_of_id_eq {ls : List LayerHandle} (h : Distinct ls) {l m : LayerHandle}
    (hl : l ∈ ls) (hm : m ∈ ls) (heq : l.id = m.id) : l = m :=
  List.inj_on_of_nodup_map h hl hm heq

theorem Distinct.nodup {ls : List LayerHandle} (h : Distinct ls) : ls.Nodup :=
  List.Nodup.of_map _ h

namespace Stack

/-- No layer has this identity. -/
def Lacks (s : Stack) (id : LayerId) : Prop := ∀ l ∈ s.layers, l.id ≠ id

variable {s : Stack} {l : LayerHandle}

theorem contains_eq_false_iff {id : LayerId} : s.contains id = false ↔ s.Lacks id := by
  rw [contains, indexOf?, List.findIdx?_isSome, List.any_eq_false]
  exact forall₂_congr fun _ _ => not_congr beq_iff_eq

theorem contains_iff {id : LayerId} : s.contains id = true ↔ ¬ s.Lacks id := by
  rw [← contains_eq_false_iff, Bool.not_eq_false]

theorem push_of_known (h : s.contains l.id = true) : s.push l = (none, s) := by
  simp [push, h]

theorem push_of_new (h : s.contains l.id = false) :
    s.push l = (some s.size, { layers := s.layers ++ [l] }) := by
  simp [push, h]

theorem insert_of_known {i : Nat} (h : s.contains l.id = true) : s.insert i l = (false, s) := by
  simp [insert, h]

theorem insert_of_new {i : Nat} (hi : i ≤ s.size) (h : s.contains l.id = false) :
    s.insert i l = (true, { layers := s.layers.insertIdx i l }) := by
  simp [insert, h, Nat.not_lt.mpr hi]

theorem distinct_of_new {ls : List LayerHandle} (distinct : Distinct s.layers)
    (h : s.contains l.id = false) (grows : ls.Perm (l :: s.layers)) : Distinct ls :=
  (distinct_cons.mpr ⟨contains_eq_false_iff.mp h, distinct⟩).perm grows.symm

theorem indexOf?_eq_none_iff {id : LayerId} : s.indexOf? id = none ↔ s.Lacks id := by
  rw [← contains_eq_false_iff, contains, Option.isSome_eq_false_iff, Option.isNone_iff_eq_none]

theorem get?_of_indexOf? {id : LayerId} {i : Nat} (h : s.indexOf? id = some i) :
    ∃ m, s.get? i = some m ∧ m.id = id := by
  obtain ⟨hlt, heq, -⟩ := List.findIdx?_eq_some_iff_getElem.mp h
  exact ⟨s.layers[i], List.getElem?_eq_getElem hlt, by simpa using heq⟩

/-- Since no identity is repeated, it is found where it stands. -/
theorem indexOf?_eq_some_iff (h : Distinct s.layers) {id : LayerId} {i : Nat} :
    s.indexOf? id = some i ↔ ∃ l, s.get? i = some l ∧ l.id = id := by
  constructor
  · exact get?_of_indexOf?
  · rintro ⟨l, there, rfl⟩
    obtain ⟨inside, rfl⟩ := List.getElem?_eq_some_iff.mp there
    refine List.findIdx?_eq_some_iff_getElem.mpr ⟨inside, beq_self_eq_true _, ?_⟩
    intro j earlier same
    have hj : j < s.layers.length := Nat.lt_trans earlier inside
    have one : s.layers[j] = s.layers[i] :=
      h.eq_of_id_eq (List.getElem_mem hj) (List.getElem_mem inside) (eq_of_beq same)
    have : j = i := h.nodup.getElem_inj_iff.mp one
    omega

theorem removeAt_eq {i : Nat} (h : s.get? i = some l) :
    s.removeAt i = (some l, { layers := s.layers.eraseIdx i }) := by
  simp [removeAt, h]

theorem removeAt_of_beyond {i : Nat} (h : s.get? i = none) : s.removeAt i = (none, s) := by
  simp [removeAt, h]

theorem perm_cons_eraseIdx {ls : List LayerHandle} {i : Nat} (h : ls[i]? = some l) :
    ls.Perm (l :: ls.eraseIdx i) := by
  obtain ⟨hlt, heq⟩ := List.getElem?_eq_some_iff.mp h
  exact heq ▸ (List.getElem_cons_eraseIdx_perm hlt).symm

theorem swap_eq {i j : Nat} {m : LayerHandle} (hi : s.get? i = some l) (hj : s.get? j = some m) :
    s.swap i j = (true, { layers := (s.layers.set i m).set j l }) := by
  simp [swap, hi, hj]

theorem perm_set_set {ls : List LayerHandle} {i j : Nat} {m : LayerHandle}
    (hi : ls[i]? = some l) (hj : ls[j]? = some m) : ((ls.set i m).set j l).Perm ls := by
  obtain ⟨hilt, rfl⟩ := List.getElem?_eq_some_iff.mp hi
  obtain ⟨hjlt, rfl⟩ := List.getElem?_eq_some_iff.mp hj
  exact List.set_set_perm hilt hjlt

theorem swap_perm (s : Stack) (i j : Nat) : (s.swap i j).2.layers.Perm s.layers := by
  cases hi : s.get? i with
  | none => simp [swap, hi]
  | some l =>
    cases hj : s.get? j with
    | none => simp [swap, hi, hj]
    | some m =>
      rw [swap_eq hi hj]
      exact perm_set_set hi hj

/-- Of two positions that exchange their layers, the later one gets the layer of the other. -/
theorem swap_later {a b : Nat} (h : a ≠ b) (ha : a < s.size) (hb : b < s.size) :
    ∃ (i : Nat) (l m : LayerHandle), s.layers[i]? = some l ∧ s.layers[max a b]? = some m ∧
      (s.swap a b).2 = { layers := (s.layers.set i m).set (max a b) l } ∧
      (s.swap a b).2.get? (max a b) = some l := by
  have hl : s.layers[a]? = some s.layers[a] := List.getElem?_eq_getElem ha
  have hm : s.layers[b]? = some s.layers[b] := List.getElem?_eq_getElem hb
  rw [swap_eq hl hm]
  rcases Nat.lt_or_gt_of_ne h with lower | higher
  · rw [Nat.max_eq_right (Nat.le_of_lt lower)]
    exact ⟨a, _, _, hl, hm, rfl, List.getElem?_set_self (by simpa [size] using hb)⟩
  · rw [Nat.max_eq_left (Nat.le_of_lt higher), List.set_comm _ _ h]
    exact ⟨b, _, _, hm, hl, rfl, List.getElem?_set_self (by simpa [size] using ha)⟩

variable {p : LayerHandle → Bool}

theorem mem_positions {i : Nat} :
    i ∈ s.positions p ↔ ∃ m, s.layers[i]? = some m ∧ p m = true := by
  constructor
  · intro h
    obtain ⟨x, hx, rfl⟩ := List.mem_map.mp h
    obtain ⟨hx, fits⟩ := List.mem_filter.mp hx
    exact ⟨x.1, List.mem_zipIdx_iff_getElem?.mp hx, fits⟩
  · rintro ⟨m, hm, fits⟩
    exact List.mem_map.mpr ⟨(m, i),
      List.mem_filter.mpr ⟨List.mem_zipIdx_iff_getElem?.mpr hm, fits⟩, rfl⟩

theorem positions_eq_nil_iff : s.positions p = [] ↔ ∀ m ∈ s.layers, p m = false := by
  rw [List.eq_nil_iff_forall_not_mem]
  constructor
  · intro none_fits m hm
    obtain ⟨i, there⟩ := List.mem_iff_getElem?.mp hm
    exact Bool.eq_false_iff.mpr fun fits => none_fits i (mem_positions.mpr ⟨m, there, fits⟩)
  · intro unfit i hi
    obtain ⟨m, there, fits⟩ := mem_positions.mp hi
    exact Bool.false_ne_true ((unfit m (List.mem_of_getElem? there)).symm.trans fits)

theorem pairwise_positions (s : Stack) (p : LayerHandle → Bool) :
    (s.positions p).Pairwise (· ≤ ·) := by
  have ascending : (s.layers.zipIdx.map (·.2)).Pairwise (· ≤ ·) := by
    rw [List.zipIdx_map_snd]
    exact (List.pairwise_lt_range' 1).imp Nat.le_of_lt
  exact ascending.sublist (List.filter_sublist.map _)

theorem head?_positions_le {first i : Nat} (h : (s.positions p).head? = some first)
    (hi : i ∈ s.positions p) : first ≤ i := by
  have ascending := pairwise_positions s p
  obtain ⟨later, heq⟩ := List.head?_eq_some_iff.mp h
  rw [heq] at ascending hi
  exact ascending.rel_head hi

theorem le_getLast?_positions {last i : Nat} (h : (s.positions p).getLast? = some last)
    (hi : i ∈ s.positions p) : i ≤ last := by
  have ascending := pairwise_positions s p
  obtain ⟨earlier, heq⟩ := List.getLast?_eq_some_iff.mp h
  rw [heq] at ascending hi
  simpa using ascending.rel_getLast hi

end Stack

namespace Sheet

variable {s : Stack} {l : LayerHandle} {ls : List LayerHandle}

theorem pushAll_of_known (known : s.contains l.id = true) :
    pushAll s (l :: ls) = pushAll s ls := by
  rw [pushAll, Stack.push_of_known known]

theorem pushAll_of_new (new : s.contains l.id = false) :
    let grown : Stack := { layers := s.layers ++ [l] }
    pushAll s (l :: ls) = ((pushAll grown ls).1, l :: (pushAll grown ls).2) := by
  rw [pushAll, Stack.push_of_new new]

/-- The layers that were new come after the old ones, in the order given. -/
theorem layers_pushAll (s : Stack) (ls : List LayerHandle) :
    (pushAll s ls).1.layers = s.layers ++ (pushAll s ls).2 := by
  induction ls generalizing s with
  | nil => exact (List.append_nil s.layers).symm
  | cons l ls ih =>
    cases known : s.contains l.id with
    | true =>
      rw [pushAll_of_known known]
      exact ih s
    | false =>
      rw [pushAll_of_new known]
      exact (ih _).trans (List.append_assoc s.layers [l] _)

theorem pushAll_sublist (s : Stack) (ls : List LayerHandle) : (pushAll s ls).2.Sublist ls := by
  induction ls generalizing s with
  | nil => exact List.Sublist.refl _
  | cons l ls ih =>
    cases known : s.contains l.id with
    | true =>
      rw [pushAll_of_known known]
      exact (ih s).cons l
    | false =>
      rw [pushAll_of_new known]
      exact (ih _).cons_cons l

theorem distinct_pushAll (h : Distinct s.layers) (ls : List LayerHandle) :
    Distinct (pushAll s ls).1.layers := by
  induction ls generalizing s with
  | nil => exact h
  | cons l ls ih =>
    cases known : s.contains l.id with
    | true =>
      rw [pushAll_of_known known]
      exact ih h
    | false =>
      rw [pushAll_of_new known]
      exact ih (Stack.distinct_of_new h known (List.perm_append_singleton l s.layers))

/-- Only layers that are known leave nothing new. -/
theorem known_of_pushAll (none_new : (pushAll s ls).2 = []) : ∀ l ∈ ls, ¬ s.Lacks l.id := by
  induction ls with
  | nil => exact fun l hl => absurd hl List.not_mem_nil
  | cons l ls ih =>
    cases known : s.contains l.id with
    | true =>
      rw [pushAll_of_known known] at none_new
      exact List.forall_mem_cons.mpr ⟨Stack.contains_iff.mp known, ih none_new⟩
    | false =>
      rw [pushAll_of_new known] at none_new
      exact absurd none_new (List.cons_ne_nil _ _)

/-- What an exchange does not refuse are indices of layers. -/
theorem inside_of_not_refused {s : Sheet} {a b : Nat}
    (h : [a, b].find? (s.layerCount ≤ ·) = none) : a < s.stack.size ∧ b < s.stack.size := by
  have inside : ∀ i ∈ [a, b], i < s.stack.size := fun i hi =>
    Nat.lt_of_not_le fun far => List.find?_eq_none.mp h i hi (decide_eq_true far)
  exact ⟨inside a (by simp), inside b (by simp)⟩

end Sheet
end LayeredMap
