import LayeredMap.Proofs.Stack

/-!
# Keeping a copy of a stack

Somebody who has copied the layers of a stack amends the copy by the events on
the stack and by looking at the layers as they are now. Batches do not name
their layers, an exchange names one of two, and the range of a removal may
cover layers that stay. Still each event tells enough: amending the old layers
while looking at the new ones gives the new ones.
-/

namespace LayeredMap

/-- Two positions change their layers. -/
def exchange (ls : List LayerHandle) (i j : Nat) : List LayerHandle :=
  match ls[i]?, ls[j]? with
  | some l, some m => (ls.set i m).set j l
  | _, _ => ls

/-- Puts the layer that is now at an index into that place of the copy. -/
def adopt (seen : List LayerHandle) (copy : List LayerHandle) (i : Nat) : List LayerHandle :=
  match seen[i]? with
  | some l => copy.insertIdx i l
  | none => copy

/-- Whether a layer of the copy outlives a removal from a range of indices: it was not in the range,
or its identity is still known. -/
def outlives (seen : List LayerHandle) (first last : Nat) (x : LayerHandle × Nat) : Bool :=
  x.2 < first || last < x.2 || seen.any (·.id == x.1.id)

/-- The copy afterwards, where `seen` are the layers as they are now. -/
def StackEvent.amend (seen copy : List LayerHandle) : StackEvent → List LayerHandle
  | .added _ (.span first last) => (List.range' first (last + 1 - first)).foldl (adopt seen) copy
  | .removed (some _) (.span i _) => copy.eraseIdx i
  | .removed none (.span first last) =>
    (copy.zipIdx.filter (outlives seen first last)).map (·.1)
  | .removed _ .all => []
  | .moved l i =>
    match copy.idxOf? l with
    | some j => exchange copy j i
    | none => copy
  | .added _ .all => copy
  | .changed .. => copy

/-- The event is enough to get from the old layers to the new ones. -/
def StackEvent.Describes (e : StackEvent) (old new : List LayerHandle) : Prop :=
  e.amend new old = new

/-- Adopting one position after the other from the end of the copy follows what is seen. -/
theorem foldl_adopt (seen : List LayerHandle) (n k : Nat) (h : k + n ≤ seen.length) :
    (List.range' k n).foldl (adopt seen) (seen.take k) = seen.take (k + n) := by
  induction n generalizing k with
  | zero => simp
  | succ n ih =>
    have hk : k < seen.length := by omega
    have hlen : (seen.take k).length = k := by simp; omega
    have atEnd : ∀ (copy : List LayerHandle) (l : LayerHandle), copy.length = k →
        copy.insertIdx k l = copy ++ [l] := by
      rintro copy l rfl
      exact List.insertIdx_length_self
    have first : adopt seen (seen.take k) k = seen.take (k + 1) := by
      rw [adopt, List.getElem?_eq_getElem hk]
      exact (atEnd _ _ hlen).trans (List.take_append_getElem hk)
    rw [List.range'_succ, List.foldl_cons, first, ih (k + 1) (by omega)]
    congr 1
    omega

theorem describes_added_batch (l : Option LayerHandle) {old added : List LayerHandle}
    (h : added ≠ []) :
    (StackEvent.added l (.span old.length (old.length + added.length - 1))).Describes old
      (old ++ added) := by
  have hpos : 0 < added.length := List.length_pos_iff.mpr h
  have count : old.length + added.length - 1 + 1 - old.length = added.length := by omega
  have follow := foldl_adopt (old ++ added) added.length old.length (by simp)
  rw [List.take_left, ← List.length_append, List.take_length] at follow
  rw [StackEvent.Describes, StackEvent.amend, count]
  exact follow

theorem describes_added_single (m : Option LayerHandle) (l : LayerHandle)
    {old : List LayerHandle} {i : Nat} (h : i ≤ old.length) :
    (StackEvent.added m (.single i)).Describes old (old.insertIdx i l) := by
  have count : i + 1 - i = 1 := by omega
  have there : (old.insertIdx i l)[i]? = some l := by
    rw [List.getElem?_insertIdx_self]
    simp [h]
  rw [StackEvent.Describes, IndexSpan.single, StackEvent.amend, count]
  simp [adopt, there]

theorem describes_removed_single (l : LayerHandle) (old : List LayerHandle) (i : Nat) :
    (StackEvent.removed (some l) (.single i)).Describes old (old.eraseIdx i) := rfl

theorem describes_removed_all (l : Option LayerHandle) (old : List LayerHandle) :
    (StackEvent.removed l .all).Describes old [] := by
  cases l <;> rfl

theorem map_fst_filter_zipIdx (p : LayerHandle → Bool) (ls : List LayerHandle) (k : Nat) :
    ((ls.zipIdx k).filter fun x => p x.1).map (·.1) = ls.filter p := by
  induction ls generalizing k with
  | nil => rfl
  | cons l ls ih => by_cases h : p l = true <;> simp [h, ih]

/-- A layer in the range that is gone can be told by its identity, since no other layer has it. -/
theorem describes_removed_batch {old : List LayerHandle} (distinct : Distinct old)
    (doomed : LayerHandle → Bool) {first last : Nat}
    (range : ∀ i l, old[i]? = some l → doomed l = true → first ≤ i ∧ i ≤ last) :
    (StackEvent.removed none (.span first last)).Describes old (old.filter (!doomed ·)) := by
  have stays : ∀ x ∈ old.zipIdx,
      outlives (old.filter (!doomed ·)) first last x = !doomed x.1 := by
    intro x hx
    have there := List.mem_zipIdx_iff_getElem?.mp hx
    have member := List.mem_of_getElem? there
    cases gone : doomed x.1 with
    | false =>
      have known : (old.filter (!doomed ·)).any (·.id == x.1.id) = true :=
        List.any_eq_true.mpr ⟨x.1, by simp [member, gone], by simp⟩
      simp [outlives, known]
    | true =>
      have inside := range x.2 x.1 there gone
      have unknown : (old.filter (!doomed ·)).any (·.id == x.1.id) = false := by
        apply List.any_eq_false.mpr
        intro m hm heq
        obtain ⟨hm, kept⟩ := List.mem_filter.mp hm
        have same : m = x.1 := distinct.eq_of_id_eq hm member (by simpa using heq)
        rw [same, gone] at kept
        exact Bool.false_ne_true kept
      simp only [outlives, unknown, Bool.not_true, Bool.or_false, Bool.or_eq_false_iff,
        decide_eq_false_iff_not]
      omega
  exact (congrArg (List.map (·.1)) (List.filter_congr stays)).trans
    (map_fst_filter_zipIdx (!doomed ·) old 0)

theorem describes_moved {old : List LayerHandle} (distinct : Distinct old) {i j : Nat}
    {l m : LayerHandle} (hi : old[i]? = some l) (hj : old[j]? = some m) :
    (StackEvent.moved l j).Describes old ((old.set i m).set j l) := by
  have found : old.idxOf? l = some i := by
    obtain ⟨hlt, heq⟩ := List.getElem?_eq_some_iff.mp hi
    rw [List.idxOf?, List.findIdx?_eq_some_iff_getElem]
    refine ⟨hlt, by simp [heq], ?_⟩
    intro k hk hkl
    have same := distinct.nodup.getElem_inj_iff.mp ((eq_of_beq hkl).trans heq.symm)
    omega
  rw [StackEvent.Describes, StackEvent.amend, found]
  simp [exchange, hi, hj]

end LayeredMap
