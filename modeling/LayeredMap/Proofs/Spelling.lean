import Mathlib
import LayeredMap.Settings

/-!
# Spellings of a system

Two codes are compared after trimming, letter by letter in lower case. Transforms
are filed under the trimmed code in upper case. Both ways to leave the case of
ASCII letters out of account tell the same codes apart, so a system is found
under a key exactly if the comparison takes it for the same frame.

Trimming and changing the case of letters do not get in each other's way, since
no letter is blank.
-/

namespace LayeredMap
namespace Text

/-! ## Letter case -/

theorem sameLetters_iff {s t : String} :
    sameLetters s t = true ↔ s.toList.map Char.toLower = t.toList.map Char.toLower := by
  simp [sameLetters]

/-- Either case can be read off the other one, so it does not matter which one is compared. -/
theorem upperCase_eq_iff {s t : String} : upperCase s = upperCase t ↔ sameLetters s t = true := by
  have lower_upper : Char.toLower ∘ Char.toUpper = Char.toLower :=
    funext Char.toLower_toUpper_eq_toLower
  have upper_lower : Char.toUpper ∘ Char.toLower = Char.toUpper :=
    funext Char.toUpper_toLower_eq_toUpper
  rw [sameLetters_iff, upperCase, upperCase, String.ofList_inj]
  constructor
  · intro upper
    have lowered := congrArg (List.map Char.toLower) upper
    rwa [List.map_map, List.map_map, lower_upper] at lowered
  · intro lower
    have raised := congrArg (List.map Char.toUpper) lower
    rwa [List.map_map, List.map_map, upper_lower] at raised

/-! ## Surrounding blanks -/

theorem isBlank_toLower (c : Char) : isBlank c.toLower = isBlank c := by
  by_cases upper : c.isUpper = true
  · have bounds : 65 ≤ c.toNat ∧ c.toNat ≤ 90 := by
      simpa [Char.isUpper, UInt32.le_iff_toNat_le] using upper
    have valid : (c.toNat + 32).isValidChar := .inl (by omega)
    have lowered : c.toLower.toNat = c.toNat + 32 := by
      rw [Char.toLower_eq_of_isUpper upper, Char.toNat_ofNat, if_pos valid]
    simp only [isBlank, inRanges, blankRanges, lowered, List.any_cons, List.any_nil]
    grind
  · rw [Char.toLower_eq_of_not_isUpper upper]

theorem trimStart_append {cs ds : List Char} (blank : ∀ c ∈ cs, isBlank c = true) :
    trimStart (cs ++ ds) = trimStart ds :=
  List.dropWhile_append_of_pos blank

theorem trimEnd_append {cs ds : List Char} (blank : ∀ c ∈ ds, isBlank c = true) :
    trimEnd (cs ++ ds) = trimEnd cs := by
  have turned : ∀ c ∈ ds.reverse, isBlank c = true := fun c hc => blank c (List.mem_reverse.mp hc)
  rw [trimEnd, List.reverse_append, List.dropWhile_append_of_pos turned, trimEnd]

/-- Blanks in front and behind do not show. -/
theorem trim_padded {before after : String} (front : ∀ c ∈ before.toList, isBlank c = true)
    (back : ∀ c ∈ after.toList, isBlank c = true) (s : String) :
    trim (before ++ s ++ after) = trim s := by
  have core : trimEnd (trimStart (s.toList ++ after.toList)) = trimEnd (trimStart s.toList) := by
    rw [trimStart, List.dropWhile_append]
    split
    · -- nothing but blanks is left
      rename_i vacant
      have nothing : trimStart s.toList = [] := List.isEmpty_iff.mp vacant
      rw [nothing, ← List.nil_append (List.dropWhile _ _)]
      exact trimEnd_append fun c hc => back c ((List.dropWhile_sublist _).subset hc)
    · exact trimEnd_append back
  rw [trim, trim, String.toList_append, String.toList_append, List.append_assoc,
    trimStart_append front, core]

/-- Trimming cuts off blanks only. -/
theorem exists_padding (s : String) : ∃ before after : String,
    (∀ c ∈ before.toList, isBlank c = true) ∧ (∀ c ∈ after.toList, isBlank c = true) ∧
      s = before ++ trim s ++ after := by
  have front := List.takeWhile_append_dropWhile (p := isBlank) (l := s.toList)
  have back := List.takeWhile_append_dropWhile (p := isBlank) (l := (trimStart s.toList).reverse)
  refine ⟨.ofList (s.toList.takeWhile isBlank),
    .ofList ((trimStart s.toList).reverse.takeWhile isBlank).reverse, ?_, ?_, ?_⟩
  · intro c hc
    rw [String.toList_ofList] at hc
    exact List.mem_takeWhile_imp hc
  · intro c hc
    rw [String.toList_ofList, List.mem_reverse] at hc
    exact List.mem_takeWhile_imp hc
  · apply String.toList_inj.mp
    have rest : trimEnd (trimStart s.toList) ++
        ((trimStart s.toList).reverse.takeWhile isBlank).reverse = trimStart s.toList := by
      rw [trimEnd, ← List.reverse_append, back, List.reverse_reverse]
    rw [String.toList_append, String.toList_append, String.toList_ofList, String.toList_ofList,
      trim, String.toList_ofList, List.append_assoc, rest]
    exact front.symm

theorem trim_trim (s : String) : trim (trim s) = trim s := by
  obtain ⟨before, after, front, back, whole⟩ := exists_padding s
  have padded := trim_padded front back (trim s)
  rw [← whole] at padded
  exact padded.symm

/-- Nothing but blanks is there exactly if trimming leaves nothing. -/
theorem isEmpty_trim (s : String) : (trim s).isEmpty = allBlank s := by
  rw [Bool.eq_iff_iff, String.isEmpty_iff, allBlank, List.all_eq_true]
  constructor
  · intro nothing c hc
    obtain ⟨before, after, front, back, whole⟩ := exists_padding s
    rw [whole, nothing, String.append_empty, String.toList_append] at hc
    rcases List.mem_append.mp hc with first | last
    · exact front c first
    · exact back c last
  · intro blank
    have nothing : ∀ c ∈ "".toList, isBlank c = true := fun _ hc => absurd hc List.not_mem_nil
    have padded := trim_padded blank nothing ""
    rwa [String.append_empty, String.append_empty] at padded

theorem toList_trim_lower (s : String) :
    (trim s).toList.map Char.toLower = trimEnd (trimStart (s.toList.map Char.toLower)) := by
  have blank : isBlank ∘ Char.toLower = isBlank := funext isBlank_toLower
  rw [trim, String.toList_ofList, trimEnd, trimEnd, trimStart, trimStart, List.dropWhile_map, blank,
    ← List.map_reverse, List.dropWhile_map, blank, List.map_reverse]

theorem sameLetters_trim {s t : String} (h : sameLetters s t = true) :
    sameLetters (trim s) (trim t) = true := by
  rw [sameLetters_iff, toList_trim_lower, toList_trim_lower, sameLetters_iff.mp h]

end Text

namespace Crs

variable {a b c : Crs}

/-- The comparison of systems and the keys of transforms agree. -/
theorem sameFrame_iff_key_eq : a.sameFrame b = true ↔ a.key = b.key :=
  Text.upperCase_eq_iff.symm

theorem sameFrame_eq_false_iff : a.sameFrame b = false ↔ a.key ≠ b.key := by
  rw [← Bool.not_eq_true, sameFrame_iff_key_eq]

theorem sameFrame_comm (a b : Crs) : a.sameFrame b = b.sameFrame a := by
  rw [Bool.eq_iff_iff, sameFrame_iff_key_eq, sameFrame_iff_key_eq, eq_comm]

/-- Two systems name one frame. -/
def SameFrame (a b : Crs) : Prop := a.sameFrame b = true

instance : Decidable (a.SameFrame b) := inferInstanceAs (Decidable (a.sameFrame b = true))

theorem sameFrame_equivalence : Equivalence SameFrame where
  refl _ := sameFrame_iff_key_eq.mpr rfl
  symm h := sameFrame_iff_key_eq.mpr (sameFrame_iff_key_eq.mp h).symm
  trans h h' := sameFrame_iff_key_eq.mpr
    ((sameFrame_iff_key_eq.mp h).trans (sameFrame_iff_key_eq.mp h'))

theorem SameFrame.key_eq (h : a.SameFrame b) : a.key = b.key := sameFrame_iff_key_eq.mp h

theorem SameFrame.sameFrame_eq {a' b' : Crs} (h : a.SameFrame a') (h' : b.SameFrame b') :
    a.sameFrame b = a'.sameFrame b' := by
  rw [Bool.eq_iff_iff, sameFrame_iff_key_eq, sameFrame_iff_key_eq, h.key_eq, h'.key_eq]

/-- The ways to write one system differently. -/
inductive Respelling : Crs → Crs → Prop
  | name (code : String) (name name' : Option String) : Respelling ⟨code, name⟩ ⟨code, name'⟩
  | letters {code code' : String} (name : Option String) :
    Text.sameLetters code code' = true → Respelling ⟨code, name⟩ ⟨code', name⟩
  | padding {before after : String} (code : String) (name : Option String) :
    (∀ c ∈ before.toList, Text.isBlank c = true) → (∀ c ∈ after.toList, Text.isBlank c = true) →
      Respelling ⟨code, name⟩ ⟨before ++ code ++ after, name⟩
  | reading {crs : Crs} (code : String) (name : Option String) :
    ofText code = .ok crs → Respelling ⟨code, name⟩ crs

/-- What is read of a text has the trimmed text for a code, and no name. -/
theorem eq_of_ofText {code : String} (h : ofText code = .ok c) : c = { code := Text.trim code } := by
  rw [ofText, ofCode?] at h
  cases blank : (Text.trim code).isEmpty with
  | true => simp [blank] at h
  | false => simpa [blank, eq_comm] using h

theorem Respelling.sameFrame (h : Respelling a b) : a.SameFrame b := by
  apply Text.sameLetters_iff.mpr
  cases h with
  | name code name name' => rfl
  | letters name same => exact Text.sameLetters_iff.mp (Text.sameLetters_trim same)
  | padding code name front back => rw [Text.trim_padded front back]
  | reading code name read => rw [eq_of_ofText read, Text.trim_trim]

end Crs
end LayeredMap
