import LayeredMap.Proofs.Ledger

/-!
# What the name of a property event tells

A change of the title is published as "title", a change of all user data as
"userData", and a change of one entry under the name of the entry. An entry may
have any name, these two as well. The event on an entry "userData" still has a
value, which the event on all user data has not; but the event on an entry
"title" can be the very one that is published when the title is set. So the
title can be followed by its name as long as no entry goes by it, and from the
next time on that the title is set.
-/

namespace LayeredMap

/-- The title that somebody goes by who takes over the new value from each event of this name. -/
def Event.retitle (copy : Option Json) : Event → Option Json
  | property e => if e.property = "title" then e.new else copy
  | _ => copy

namespace Ledger

/-- The title is set to the new value, in place of the old one, and all user data stay. -/
structure Retitles (b b' : Ledger) (op : SheetCommand) (e : PropertyEvent) : Prop where
  cause : ∃ title, op = .setTitle title
  old : e.old = b.title.map .string
  new : e.new = b'.title.map .string
  data : b'.data = b.data

/-- All user data may be others, and no value is given. -/
structure Overhauls (b b' : Ledger) (op : SheetCommand) (e : PropertyEvent) : Prop where
  cause : op = .clearData ∨ ∃ entries, op = .extendData entries
  old : e.old = none
  new : e.new = none
  title : b'.title = b.title

/-- The entry of this name is written or taken out, and this alone. -/
structure Edits (b b' : Ledger) (op : SheetCommand) (e : PropertyEvent) : Prop where
  cause : (∃ v, op = .putData e.property v ∧ e.new = some v) ∨
    op = .removeData e.property ∧ e.old.isSome = true ∧ e.new = none
  old : e.old = b.data e.property
  alone : b' = { b with data := put b.data e.property e.new }

/-- What an event tells by its name. -/
structure Tells (b b' : Ledger) (op : SheetCommand) (e : PropertyEvent) : Prop where
  title : e.property = "title" → b.Retitles b' op e ∨ b.Edits b' op e
  userData : e.property = "userData" → b.Overhauls b' op e ∨ b.Edits b' op e
  entry : e.property ≠ "title" → e.property ≠ "userData" → b.Edits b' op e

variable {b b' : Ledger} {op : SheetCommand} {e : PropertyEvent}

theorem Edits.tells (h : b.Edits b' op e) : b.Tells b' op e :=
  ⟨fun _ => .inr h, fun _ => .inr h, fun _ _ => h⟩

theorem tells_of_mem (h : e ∈ b.events op) : b.Tells (b.after op) op e := by
  cases op with
  | setTitle title =>
    obtain rfl := List.mem_singleton.mp h
    have apart : "title" ≠ "userData" := by decide
    exact ⟨fun _ => .inl ⟨⟨title, rfl⟩, rfl, rfl, rfl⟩, fun other => absurd other apart,
      fun other => absurd rfl other⟩
  | putData k v =>
    obtain rfl := List.mem_singleton.mp h
    exact Edits.tells ⟨.inl ⟨v, rfl, rfl⟩, rfl, rfl⟩
  | removeData k =>
    rw [events] at h
    cases held : b.data k with
    | none =>
      rw [held] at h
      exact absurd h List.not_mem_nil
    | some old =>
      rw [held] at h
      obtain rfl := List.mem_singleton.mp h
      exact Edits.tells ⟨.inr ⟨rfl, rfl, rfl⟩, held.symm, rfl⟩
  | extendData entries =>
    obtain rfl := List.mem_singleton.mp h
    exact ⟨fun other => absurd other (by decide),
      fun _ => .inl ⟨.inr ⟨entries, rfl⟩, rfl, rfl, rfl⟩, fun _ other => absurd rfl other⟩
  | clearData =>
    obtain rfl := List.mem_singleton.mp h
    exact ⟨fun other => absurd other (by decide), fun _ => .inl ⟨.inl rfl, rfl, rfl, rfl⟩,
      fun _ other => absurd rfl other⟩
  | _ => exact absurd h List.not_mem_nil

/-- An operation sets the title, or publishes nothing under its name. -/
def SparesTitle (b : Ledger) (op : SheetCommand) : Prop :=
  (∃ title, op = .setTitle title) ∨ ∀ e ∈ b.events op, e.property ≠ "title"

theorem foldl_retitle_of_ne {events : List PropertyEvent} (h : ∀ e ∈ events, e.property ≠ "title")
    (copy : Option Json) : (events.map Event.property).foldl Event.retitle copy = copy := by
  induction events with
  | nil => rfl
  | cons e rest ih =>
    obtain ⟨other, rest_others⟩ := List.forall_mem_cons.mp h
    rw [List.map_cons, List.foldl_cons, Event.retitle, if_neg other]
    exact ih rest_others

theorem title_after (about : op.topic? = some .properties) (h : ∀ title, op ≠ .setTitle title) :
    (b.after op).title = b.title := by
  cases op with
  | setTitle title => exact absurd rfl (h title)
  | putData _ _ | removeData _ | extendData _ | clearData => rfl
  | _ => exact absurd about (by simp [SheetCommand.topic?])

/-- The events on the title lead to the one that is there afterwards. -/
theorem foldl_retitle (about : op.topic? = some .properties) (spares : b.SparesTitle op) :
    ((b.events op).map Event.property).foldl Event.retitle (b.title.map .string) =
      (b.after op).title.map .string := by
  by_cases sets : ∃ title, op = .setTitle title
  · obtain ⟨title, rfl⟩ := sets
    rfl
  · rw [foldl_retitle_of_ne (spares.resolve_left sets),
      title_after about fun title same => sets ⟨title, same⟩]

end Ledger

namespace Sheet

variable {s : Sheet} {op : SheetCommand}

theorem spoken_properties (live : s.disposed = false) (about : op.topic? = some .properties) :
    spoken .properties (op.step s).actions = (s.ledger.events op).map .property := by
  obtain ⟨reply, userData, -, -, step⟩ := ledger_step live about
  rw [spoken_of_topic s about, step, publications_properties, List.map_map]
  rfl

end Sheet

open World

theorem title_informs :
    Informs .properties (fun s op => s.ledger.SparesTitle op) (fun s => s.title.map Json.string)
      Event.retitle where
  apart copy e apart := by
    cases e with
    | property e => exact absurd rfl apart
    | _ => rfl
  margin s s' same := congrArg (Option.map Json.string) same.title
  step s op sound spares before after := by
    by_cases about : op.topic? = some .properties
    · have now := congrArg Ledger.title (Sheet.ledger_of_about before about)
      rw [Sheet.spoken_properties before about]
      exact (Ledger.foldl_retitle about spares).trans (congrArg (Option.map Json.string) now.symm)
    · rw [Sheet.spoken_of_other sound about]
      have kept := s.properties_step about (Sheet.ne_dispose_of_live after)
      exact congrArg (Option.map Json.string) kept.1.symm

namespace World

variable {w : World} {name : String} {r : SheetRef} {l : ListenerRef} {c : Command}

/-- On this sheet no entry goes by the name of the title. -/
def SparesTitle (r : SheetRef) (w : World) (c : Command) : Prop :=
  ∀ op, w.call? r c = some op → (w.sheet r).ledger.SparesTitle op

/-- A run after which somebody knows the title: he has just begun to follow it, or it is just
set. -/
inductive RevealsTitle (r : SheetRef) (w : World) : List Command → Prop
  | start : RevealsTitle r w []
  | set (cs : List Command) (c : Command) (title : String)
      (called : (w.run cs).call? r c = some (.setTitle title)) : RevealsTitle r w (cs ++ [c])

/-- Each property event that the listener hears from a command comes from an operation on the sheet,
which it identifies as far as its name tells. It is delivered when the operation is done. -/
def Identifies (w : World) (c : Command) (r : SheetRef) (l : ListenerRef) : Prop :=
  ∀ d ∈ heardSince w (w.execute c).1 l, ∀ e, d.event = .property e →
    ∃ op, w.call? r c = some op ∧ d = (w.execute c).1.scene.told (.property e) l ∧
      (w.sheet r).ledger.Tells ((w.execute c).1.scene.sheets r).ledger op e

theorem identifies_of_attends (h : w.Attends .properties r l) (c : Command) :
    w.Identifies c r l := by
  intro d heard e on
  obtain ⟨all, appended, regarding⟩ := hears_execute h c
  rw [heardSince, appended, List.drop_left] at heard
  obtain ⟨told, mine⟩ := List.mem_filter.mp heard
  have regards : d.regards .properties l = true := by
    rw [Delivery.regards, mine, on]
    rfl
  have said := List.mem_filter.mpr ⟨told, regards⟩
  rw [regarding, spokenBy] at said
  cases called : w.call? r c with
  | none =>
    rw [called] at said
    exact absurd said List.not_mem_nil
  | some op =>
    rw [called] at said
    obtain ⟨e', spoken, rfl⟩ := List.mem_map.mp said
    obtain rfl : e' = .property e := on
    rw [Option.map_some, Option.getD_some] at spoken
    -- A disposed sheet, or an operation on something else, would not have said it.
    obtain ⟨live, about⟩ := Sheet.live_of_spoken (h.sound.sheets r) spoken
    rw [Sheet.spoken_properties live about] at spoken
    obtain ⟨_, mem, same⟩ := List.mem_map.mp spoken
    obtain rfl := Event.property.inj same
    have now : ((w.execute c).1.scene.sheets r).ledger = (w.sheet r).ledger.after op :=
      (congrArg Sheet.ledger (execute_of_call? called).1).trans (Sheet.ledger_of_about live about)
    rw [now]
    exact ⟨op, rfl, rfl, Ledger.tells_of_mem mem⟩

/-- When the title is set, everybody who listens has it. -/
theorem foldl_spokenBy_setTitle {title : String} (live : (w.sheet r).disposed = false)
    (called : w.call? r c = some (.setTitle title)) (copy : Option Json) :
    (w.spokenBy r .properties c).foldl Event.retitle copy =
      ((w.execute c).1.sheet r).title.map .string := by
  have about : (SheetCommand.setTitle title).topic? = some .properties := rfl
  have now := congrArg Ledger.title (Sheet.ledger_of_about live about)
  rw [spokenBy, called, Option.map_some, Option.getD_some, Sheet.spoken_properties live about,
    (execute_of_call? called).1]
  exact (congrArg (Option.map Json.string) now).symm

/-- From a run that reveals the title on, somebody has it, whatever he took for it before. -/
theorem title_followed (h : w.Attends .properties r l) (earlier later : List Command)
    (keeps : Along (KeepsAttending .properties r l) w (earlier ++ later))
    (reveals : RevealsTitle r w earlier) (spares : Along (SparesTitle r) (w.run earlier) later)
    (live : ((w.run (earlier ++ later)).sheet r).disposed = false) :
    (heardSince w (w.run (earlier ++ later)) l).foldl (fun copy d => d.event.retitle copy)
        ((w.sheet r).title.map .string) =
      ((w.run (earlier ++ later)).sheet r).title.map .string := by
  obtain ⟨keeps, keeps'⟩ := (along_append earlier later).mp keeps
  rw [run_append] at live ⊢
  cases reveals with
  | start => exact heardSince_informed title_informs h later keeps' spares live
  | set cs c title called =>
    obtain ⟨keeps, now, -⟩ := (along_append cs [c]).mp keeps
    have attends := attends_run h cs keeps
    have attends' := attends_execute attends now
    have last : w.run (cs ++ [c]) = ((w.run cs).execute c).1 := run_append w cs [c]
    rw [last] at keeps' spares live ⊢
    obtain ⟨before, adds⟩ := adds_run h.sound (Delivery.regards .properties l) cs
    obtain ⟨after, adds', current⟩ := informed_run title_informs attends' later keeps' spares
    have on := live_of_run attends'.made later live
    have on' := live_of_execute attends.made on
    have told := hears_execute attends c
    -- The event on the title replaces whatever he made of the entries before it.
    rw [foldl_heardSince title_informs.apart ((adds.trans told).trans adds'), List.foldl_append,
      List.foldl_append, List.foldl_map, ← current live]
    exact congrArg (after.foldl fun copy d => d.event.retitle copy)
      (foldl_spokenBy_setTitle on' called _)

/-- Somebody who follows the properties of a live sheet from its registration on is told by the name
of each event which operation it comes from, but that an entry may have the name of the title or
that of all user data. He has the title of the sheet until an entry "title" is written or taken out,
and again from the next time on that the title is set. -/
theorem property_names_tell (reachable : w.Reachable) (named : w.scene.sheetNamed? name = some r)
    (live : (w.sheet r).disposed = false)
    (elsewhere : ∀ r', r' ≠ r → l ∉ (w.sheet r').propertyListeners.toList) (cs : List Command)
    (keeps : Along (KeepsAttending .properties r l) (w.attend name .properties l) cs) :
    let w₀ := w.attend name .properties l
    let w₁ := w₀.run cs
    let copy := (heardSince w₀ w₁ l).foldl (fun copy d => d.event.retitle copy)
      ((w.sheet r).title.map .string)
    (∀ c, w₁.Identifies c r l) ∧
      ∀ earlier later, cs = earlier ++ later → RevealsTitle r w₀ earlier →
        Along (SparesTitle r) (w₀.run earlier) later → (w₁.sheet r).disposed = false →
          copy = (w₁.sheet r).title.map .string := by
  intro w₀ w₁ copy
  have attends : w₀.Attends .properties r l := attends_attend reachable named live elsewhere
  constructor
  · exact identifies_of_attends (attends_run attends cs keeps)
  · intro earlier later split reveals spares still
    subst split
    have start : (w₀.sheet r).title = (w.sheet r).title := (sameShown_attend named).title
    have followed := title_followed attends earlier later keeps reveals spares still
    rw [start] at followed
    exact followed

/-- An entry "title" is written before the title is set, and another entry afterwards. The listener
is right about the title, and the removal of the entry "title" tells him what it is. -/
theorem property_names_tell_past_entry :
    let name := "m"
    let w : World := (opening [] [{}]).run
      [.create name (some "t") none ({} : TransformTable Float).reprojector]
    let w₀ := w.attend name .properties ⟨0⟩
    let earlier : List Command := [.sheet name (.putData "title" (.string "x")),
      .sheet name (.setTitle "u")]
    let later : List Command := [.sheet name (.putData "k" .null)]
    let w₁ := w₀.run (earlier ++ later)
    let copy := (heardSince w₀ w₁ ⟨0⟩).foldl (fun copy d => d.event.retitle copy)
      ((w.sheet ⟨0⟩).title.map .string)
    let c : Command := .sheet name (.removeData "title")
    copy = some (.string "u") ∧ (heardSince w₁ (w₁.execute c).1 ⟨0⟩).length = 1 ∧
      w₁.Identifies c ⟨0⟩ ⟨0⟩ := by
  intro name w w₀ earlier later w₁ copy c
  have reachable : w.Reachable := ⟨_, _, _, rfl⟩
  have named : w.scene.sheetNamed? name = some ⟨0⟩ := by decide +kernel
  have live : (w.sheet ⟨0⟩).disposed = false := by decide +kernel
  have elsewhere : ∀ r, r ≠ ⟨0⟩ → ⟨0⟩ ∉ (w.sheet r).propertyListeners.toList := by
    have lone : w.sheetsMade = 1 := by decide +kernel
    exact fun r other => reachable.not_mem_audience_of_lone lone other .properties ⟨0⟩
  have keeps : Along (KeepsAttending .properties ⟨0⟩ ⟨0⟩) w₀ (earlier ++ later) := by
    decide +kernel
  have still : (w₁.sheet ⟨0⟩).disposed = false := by decide +kernel
  have set : RevealsTitle ⟨0⟩ w₀ earlier :=
    .set [.sheet name (.putData "title" (.string "x"))] (.sheet name (.setTitle "u")) "u"
      (call?_of_named (by decide +kernel) _)
  have called : (w₀.run earlier).call? ⟨0⟩ (.sheet name (.putData "k" .null)) =
      some (.putData "k" .null) := call?_of_named (by decide +kernel) _
  have spares : Along (SparesTitle ⟨0⟩) (w₀.run earlier) later := by
    refine ⟨fun op own => ?_, trivial⟩
    obtain rfl := Option.some.inj (called.symm.trans own)
    refine .inr fun e he => ?_
    obtain rfl := List.mem_singleton.mp he
    decide
  have shown : (w₁.sheet ⟨0⟩).title = some "u" := by decide +kernel
  obtain ⟨tells, followed⟩ := property_names_tell reachable named live elsewhere _ keeps
  have right : copy = (w₁.sheet ⟨0⟩).title.map .string :=
    followed earlier later rfl set spares still
  refine ⟨?_, ?_, tells c⟩
  · rw [right, shown]
    rfl
  · decide +kernel

/-- An entry "title" is written where there is no title. The listener hears of a title, and there is
still none. -/
theorem title_misled_by_entry :
    let name := "m"
    let w : World := (opening [] [{}]).run
      [.create name none none ({} : TransformTable Float).reprojector]
    let w₀ := w.attend name .properties ⟨0⟩
    let op : SheetCommand := .putData "title" (.string "x")
    let w₁ := w₀.run [.sheet name op]
    let heard := heardSince w₀ w₁ ⟨0⟩
    heard.map (·.event) = [.property { property := "title", old := none, new := some (.string "x") }] ∧
      (∀ title, op ≠ .setTitle title) ∧ (w₁.sheet ⟨0⟩).title = none ∧
      heard.foldl (fun copy d => d.event.retitle copy) ((w.sheet ⟨0⟩).title.map .string) ≠
        (w₁.sheet ⟨0⟩).title.map .string := by
  intro name w w₀ op w₁ heard
  refine ⟨rfl, fun title same => ?_, rfl, ?_⟩
  · exact absurd same (by simp [op])
  · exact fun same => absurd same (Option.some_ne_none (Json.string "x"))

end World
end LayeredMap
