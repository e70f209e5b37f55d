import Mathlib.Data.List.Count
import LayeredMap.Proofs.Reachable

/-!
# Members

The identity of a layer lasts, and so does whether it is sticky. A handle is
genuine if it carries the identity that the layer of its object has, so members
that came in by genuine handles stay genuine, and since no identity is repeated
in a stack, no object is a member twice.
-/

namespace LayeredMap

/-- Disposal is counted, and either that is all or nobody is subscribed any more. -/
theorem Layer.dispose_cases (l : Layer) :
    l.dispose.1 = { l with disposals := l.disposals + 1 } ∨
      ∃ body, l.dispose.1 = { l with body, subscribers := [], disposals := l.disposals + 1 } := by
  obtain ⟨id, body, subscribers, disposals⟩ := l
  cases body with
  | foreign b => exact Or.inl rfl
  | fixed b =>
    by_cases ended : b.disposed = true
    · exact Or.inl (by simp [dispose, ended])
    · exact Or.inr ⟨.fixed { b with disposed := true }, by simp [dispose, ended]⟩

/-- Nothing that is done to a layer changes what is read off it. -/
structure Layer.Lasting {β : Type} (f : Layer → β) : Prop where
  subscribe : ∀ l s, f (l.subscribe s) = f l
  unsubscribe : ∀ l s, f (l.unsubscribe s) = f l
  dispose : ∀ l, f l.dispose.1 = f l
  modifyFixed : ∀ l g, f (l.modifyFixed g) = f l

theorem Layer.lasting_id : Lasting Layer.id := by
  refine ⟨?_, ?_, ?_, ?_⟩
  · intro l s
    rw [subscribe]
    split <;> rfl
  · intro l s
    rw [unsubscribe]
    split <;> rfl
  · intro l
    rcases dispose_cases l with eq | ⟨body, eq⟩ <;> rw [eq]
  · intro l g
    rw [modifyFixed]
    split <;> rfl

theorem Layer.lasting_isSticky : Lasting isSticky := by
  refine ⟨?_, ?_, ?_, ?_⟩
  · intro l s
    rw [subscribe]
    split <;> rfl
  · intro l s
    rw [unsubscribe]
    split <;> rfl
  · rintro ⟨id, body, subscribers, disposals⟩
    cases body with
    | foreign b => rfl
    | fixed b => by_cases ended : b.disposed = true <;> simp [dispose, isSticky, ended]
  · rintro ⟨id, body, subscribers, disposals⟩ g
    cases body <;> rfl

namespace Layer.Lasting

variable {β : Type} {f : Layer → β} (h : Lasting f)
include h

theorem receive (r : SheetRef) (i : Nat) (l : Layer) (a : Action) : f (l.receive r i a) = f l := by
  cases a with
  | subscribe m n =>
    rw [Layer.receive]
    split
    · exact h.subscribe l _
    · rfl
  | unsubscribe m n =>
    rw [Layer.receive]
    split
    · exact h.unsubscribe l _
    · rfl
  | dispose m =>
    rw [Layer.receive]
    split
    · exact h.dispose l
    · rfl
  | note n => rfl
  | publish roster e => rfl

theorem foldl_receive (r : SheetRef) (i : Nat) (l : Layer) (actions : List Action) :
    f (actions.foldl (Layer.receive r i) l) = f l := by
  induction actions generalizing l with
  | nil => rfl
  | cons a rest ih => exact (ih (l.receive r i a)).trans (h.receive r i l a)

theorem suffer (i : Nat) (l : Layer) (c : Command) : f (l.suffer i c) = f l := by
  cases c with
  | layer object c =>
    rw [Layer.suffer]
    split
    · cases c with
      | setVisible on | setSelected on | fire e => rfl
      | setBounds bounds | setTitle title | setUnavailable reason => exact h.modifyFixed l _
      | subscribe x => exact h.subscribe l _
      | unsubscribe x => exact h.unsubscribe l _
      | dispose => exact h.dispose l
    · rfl
  | _ => rfl

end Layer.Lasting

namespace World

variable {w : World}

theorem lasting_execute {β : Type} {f : Layer → β} (h : Layer.Lasting f) (sound : w.Sound)
    (c : Command) (i : Nat) : f ((w.execute c).1.layer i) = f (w.layer i) := by
  rcases execute_course sound c with ⟨r, actions, acts⟩ | rests
  · rw [acts.layers]
    exact h.foldl_receive r i _ actions
  · rw [rests.layers]
    exact h.suffer i _ c

/-- The handles that a command offers carry the identities of their layers. -/
def Genuine (w : World) (c : Command) : Prop :=
  ∀ l ∈ c.offer.layers, l.id = (w.layer l.object).id

instance (w : World) (c : Command) : Decidable (w.Genuine c) :=
  inferInstanceAs (Decidable (∀ l ∈ c.offer.layers, l.id = (w.layer l.object).id))

/-- So do all members. -/
def GenuineMembers (w : World) : Prop :=
  ∀ r, ∀ l ∈ (w.sheet r).layers, l.id = (w.layer l.object).id

theorem genuineMembers_opening (layers : List (Layer × Flags)) (conducts : List Conduct) :
    (opening layers conducts).GenuineMembers :=
  fun _ _ hl => absurd hl List.not_mem_nil

theorem genuineMembers_execute (sound : w.Sound) {c : Command} (genuine : w.Genuine c)
    (h : w.GenuineMembers) : (w.execute c).1.GenuineMembers := by
  intro r l hl
  rw [lasting_execute Layer.lasting_id sound]
  rcases execute_course sound c with ⟨r₀, actions, acts⟩ | rests
  · by_cases same : r = r₀
    · subst same
      rcases acts.transition.mem_layers hl with old | new
      · exact h r l old
      · exact genuine l new
    · exact h r l ((acts.others r same).layers_eq ▸ hl)
  · exact h r l ((rests.sheets r).layers_eq ▸ hl)

theorem genuineMembers_run {layers : List (Layer × Flags)} {conducts : List Conduct}
    {cs : List Command} (genuine : Along Genuine (opening layers conducts) cs) :
    ((opening layers conducts).run cs).GenuineMembers :=
  (run_keeps (fun w => w.Sound ∧ w.GenuineMembers)
    (fun _ c h ok => ⟨sound_execute h.1 c, genuineMembers_execute h.1 ok h.2⟩) cs _ genuine
    ⟨sound_opening layers conducts, genuineMembers_opening layers conducts⟩).2

/-- No object is a member twice. -/
theorem nodup_objects (sound : w.Sound) (h : w.GenuineMembers) (r : SheetRef) :
    ((w.sheet r).layers.map (·.object)).Nodup := by
  refine (sound.sheets r).distinct.nodup.map_on ?_
  intro l hl m hm same
  refine (sound.sheets r).distinct.eq_of_id_eq hl hm ?_
  rw [h r l hl, h r m hm, same]

end World
end LayeredMap
