import LayeredMap.Proofs.Scanning
import LayeredMap.Layer.Id

/-!
# Written identities

The grouped form of an identity is read back to it: the groups are cut out of
the digits and put together again, with the hyphens between them left out.
-/

namespace LayeredMap

theorem Text.length_hex (width n : ℕ) : (hex width n).length = width := by
  induction width generalizing n with
  | zero => rfl
  | succ width ih => rw [hex, List.length_append, ih, List.length_singleton]

namespace LayerId

/-- The groups of a row of digits with hyphens between them. -/
def hyphened (ws : List ℕ) (ds : List Char) : List Char := ['-'].intercalate (split ws ds)

theorem hyphened_cons_cons (w w' : ℕ) (ws : List ℕ) (ds : List Char) :
    hyphened (w :: w' :: ws) ds = ds.take w ++ '-' :: hyphened (w' :: ws) (ds.drop w) := by
  rw [hyphened, hyphened, split, split, List.intercalate_cons_cons, List.append_assoc]
  rfl

variable {ws : List ℕ} {ds : List Char}

theorem length_hyphened (some_group : ws ≠ []) (exact_count : ds.length = ws.sum) :
    (hyphened ws ds).length + 1 = ws.sum + ws.length := by
  induction ws generalizing ds with
  | nil => exact absurd rfl some_group
  | cons w ws ih =>
    rw [List.sum_cons] at exact_count
    cases ws with
    | nil =>
      rw [hyphened, split, split, List.intercalate_singleton, List.length_take]
      simp at exact_count ⊢
      omega
    | cons w' ws =>
      have behind : (ds.drop w).length = (w' :: ws).sum := by
        rw [List.length_drop]
        omega
      have others := ih (List.cons_ne_nil _ _) behind
      rw [hyphened_cons_cons, List.length_append, List.length_take, List.sum_cons]
      simp only [List.length_cons] at others ⊢
      omega

/-- Reading the groups in turn leaves the digits. -/
theorem ofGroups?_hyphened (some_group : ws ≠ []) (exact_count : ds.length = ws.sum) :
    ofGroups? ws (hyphened ws ds) = some ds := by
  induction ws generalizing ds with
  | nil => exact absurd rfl some_group
  | cons w ws ih =>
    rw [List.sum_cons] at exact_count
    cases ws with
    | nil =>
      have whole : ds.length = w := exact_count
      rw [hyphened, split, split, List.intercalate_singleton, List.take_of_length_le whole.le,
        ofGroups?, if_pos whole]
    | cons w' ws =>
      have behind : (ds.drop w).length = (w' :: ws).sum := by
        rw [List.length_drop]
        omega
      have first : (ds.take w).length = w := by
        rw [List.length_take]
        omega
      have others := ih (List.cons_ne_nil _ _) behind
      rw [hyphened_cons_cons, ofGroups?]
      · simp [List.drop_left' first, List.take_left' first, others]
      · exact List.cons_ne_nil _ _

theorem toList_toText (i : LayerId) :
    i.toText.toList = hyphened groups (Text.hex 32 i.bits.toNat) := by
  have characters (gs : List (List Char)) : (gs.map String.ofList).map String.toList = gs := by
    simp [List.map_map, Function.comp_def]
  rw [toText, String.toList_intercalate, characters]
  rfl

theorem ofText?_toText (i : LayerId) : ofText? i.toText = some i := by
  have exact_count : (Text.hex 32 i.bits.toNat).length = groups.sum := Text.length_hex 32 _
  have length := length_hyphened (by decide) exact_count
  have digits := ofGroups?_hyphened (by decide) exact_count
  have value : Text.unhex? (Text.hex 32 i.bits.toNat) = some i.bits.toNat := by
    have below : i.bits.toNat < 16 ^ 32 := i.bits.isLt
    rw [Text.unhex?_hex, Nat.mod_eq_of_lt below]
  have grouped : (hyphened groups (Text.hex 32 i.bits.toNat)).length = 36 := by
    simpa [groups] using length
  simp [ofText?, toList_toText, grouped, digits, value, numbered]

end LayerId
end LayeredMap
