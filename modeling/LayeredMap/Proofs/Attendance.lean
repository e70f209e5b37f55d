import LayeredMap.Proofs.Margin
import LayeredMap.Proofs.Mirror

/-!
# Listeners that attend to one sheet

Somebody who is listed for a topic on one sheet, and on no other one, hears of
the topic what the operations on this sheet publish: every event once, in
order, and nothing else. So if the events of each operation lead from what the
sheet showed before it to what it shows afterwards, they do so for any run,
until the sheet is disposed.
-/

namespace LayeredMap

/-- An event on the topic for the listener. -/
def Delivery.regards (t : Topic) (l : ListenerRef) (d : Delivery) : Bool :=
  d.listener == l && d.event.topic? == some t

theorem Scene.ignores_regards (sc : Scene) (t : Topic) (l : ListenerRef) :
    sc.Ignores (Delivery.regards t l) := by
  intro d hd
  cases hd with
  | direct m e => exact Bool.and_false _
  | passedOn r e i m l held index member listens => exact Bool.and_false _

namespace Sheet

variable {s s' : Sheet} {op : SheetCommand} {t : Topic} {l : ListenerRef}

/-- Nobody is listed twice, and nobody at all once the sheet is disposed. -/
structure Listed (s : Sheet) : Prop where
  once : ∀ t, (s.audience t).toList.Nodup
  ended : s.disposed = true → ∀ t, (s.audience t).toList = []

theorem listed_ofSettings (title : Option String) (crs : Option Crs) :
    (ofSettings title crs).Listed := by
  constructor
  · intro t
    cases t <;> exact List.nodup_nil
  · exact fun ended => absurd ended Bool.false_ne_true

theorem Listed.of_sameMargin (same : s.SameMargin s') (h : s.Listed) : s'.Listed := by
  constructor
  · rw [same.audience]
    exact h.once
  · rw [same.disposed, same.audience]
    exact h.ended

theorem Listed.of_relists (h : s.Listed) (relists : ∀ t, s.Relists s' op t) : s'.Listed := by
  constructor
  · intro t
    cases relists t with
    | kept _ same => rw [same]; exact h.once t
    | joined l _ _ _ now => rw [now]; exact Roster.nodup_toList_add _ l (h.once t)
    | left l _ _ now => rw [now]; exact Roster.nodup_toList_remove _ l (h.once t)
    | finished _ now => rw [now]; exact List.nodup_nil
  · intro ended t
    cases relists t with
    | kept disposed same => rw [same]; exact h.ended (disposed ▸ ended) t
    | joined l live disposed => exact absurd (ended.symm.trans (disposed.trans live)) (by decide)
    | left l disposed _ now => simp [now, Roster.toList_remove, h.ended (disposed ▸ ended) t]
    | finished _ now => rw [now]; rfl

theorem listed_step (s : Sheet) (op : SheetCommand) (h : s.Listed) : (op.step s).sheet.Listed :=
  h.of_relists fun t => relists_step s op t

/-- Whoever is listed afterwards was so before or has just come. -/
theorem Relists.comes (h : s.Relists s' op t) (listens : l ∈ (s'.audience t).toList) :
    l ∈ (s.audience t).toList ∨ op.enrols = some (t, l) := by
  cases h with
  | kept _ same => exact .inl (same ▸ listens)
  | joined m _ _ asks now =>
    rw [now, Roster.mem_add] at listens
    exact listens.imp id fun same => asks.trans (by rw [same])
  | left m _ _ now =>
    rw [now, Roster.mem_remove] at listens
    exact .inl listens.1
  | finished _ now =>
    rw [now] at listens
    exact absurd listens List.not_mem_nil

/-- Whoever was listed still is, unless he has just gone or the sheet is disposed. -/
theorem Relists.stays (h : s.Relists s' op t) (live : s'.disposed = false)
    (listens : l ∈ (s.audience t).toList) :
    l ∈ (s'.audience t).toList ∨ op.strikes = some (t, l) := by
  cases h with
  | kept _ same => exact .inl (same.symm ▸ listens)
  | joined m _ _ _ now =>
    rw [now, Roster.mem_add]
    exact .inl (.inl listens)
  | left m _ asks now =>
    rw [now, Roster.mem_remove]
    by_cases mine : l = m
    · exact .inr (mine ▸ asks)
    · exact .inl ⟨listens, mine⟩
  | finished ended _ => exact absurd (ended.symm.trans live) (by decide)

/-- Somebody who is listed once hears each event on the topic once. -/
theorem filter_regards (sc : Scene) {told : List (Roster ListenerRef × Event)}
    (listed : ∀ x ∈ told, x.2.topic? = some t → x.1.toList.Nodup ∧ l ∈ x.1.toList) :
    (told.flatMap fun x => x.1.toList.map (sc.told x.2)).filter (Delivery.regards t l) =
      ((told.map (·.2)).filter (·.topic? = some t)).map (sc.told · l) := by
  induction told with
  | nil => rfl
  | cons x rest ih =>
    rw [List.flatMap_cons, List.filter_append, ih fun y hy => listed y (List.mem_cons_of_mem x hy),
      List.map_cons]
    by_cases on : x.2.topic? = some t
    · obtain ⟨once, listens⟩ := listed x List.mem_cons_self on
      have fits : Delivery.regards t l ∘ sc.told x.2 = (· == l) := by
        funext m
        simp [Delivery.regards, Scene.told, on]
      rw [List.filter_map, fits, List.filter_beq, List.count_eq_one_of_mem once listens,
        List.filter_cons_of_pos (by simpa using on)]
      rfl
    · have mute : (x.1.toList.map (sc.told x.2)).filter (Delivery.regards t l) = [] := by
        refine List.filter_eq_nil_iff.mpr fun d hd => ?_
        obtain ⟨m, -, rfl⟩ := List.mem_map.mp hd
        simp [Delivery.regards, Scene.told, on]
      rw [mute, List.filter_cons_of_neg (by simpa using on)]
      rfl

theorem spoken_of_disposed (h : s.Sound) (ended : s.disposed = true) :
    spoken t (op.step s).actions = [] := by
  by_cases about : op.topic? = some t
  · rw [step_of_disposed ended about]
    rfl
  · exact spoken_of_other h about

theorem live_of_spoken {t : Topic} {e : Event} (sound : s.Sound)
    (said : e ∈ spoken t (op.step s).actions) : s.disposed = false ∧ op.topic? = some t := by
  constructor
  · by_contra ended
    rw [spoken_of_disposed sound ((Bool.not_eq_false _).mp ended)] at said
    exact absurd said List.not_mem_nil
  · by_contra other
    rw [spoken_of_other sound other] at said
    exact absurd said List.not_mem_nil

end Sheet

/-! ## Commands -/

def Command.enrols : Command → Option (Topic × ListenerRef)
  | .sheet _ op => op.enrols
  | _ => none

def Command.strikes : Command → Option (Topic × ListenerRef)
  | .sheet _ op => op.strikes
  | _ => none

namespace World

variable {w : World} {r : SheetRef} {c : Command} {op : SheetCommand} {name : String} {t : Topic}
  {l : ListenerRef}

/-- What a command makes a sheet publish on a topic. -/
def spokenBy (w : World) (r : SheetRef) (t : Topic) (c : Command) : List Event :=
  ((w.call? r c).map fun op => Sheet.spoken t (op.step (w.sheet r)).actions).getD []

theorem actor_of_call? (called : w.call? r c = some op) :
    w.actor c = some r ∧ c.enrols = op.enrols ∧ c.strikes = op.strikes := by
  obtain ⟨name, rfl, named⟩ := eq_of_call? called
  exact ⟨named, rfl, rfl⟩

/-- A command publishes the events in the world that it leaves, one after the other. Echoes apart,
those who are listed are told of them once, in order, and whoever is called meanwhile and looks at
the sheet sees it as it is then. -/
structure Publishes (w : World) (c : Command) (r : SheetRef)
    (events : List (Roster ListenerRef × Event)) : Prop where
  speaks : (w.execute c).1.scene.Speaks events w.stage (w.execute c).1.stage
  heard : ∃ heard, (w.execute c).1.stage.deliveries = w.stage.deliveries ++ heard ∧
    heard.filter (!·.event.isEcho) =
      events.flatMap (fun x => x.1.toList.map ((w.execute c).1.scene.told x.2)) ∧
    ∀ d ∈ heard, ∀ name, (w.scene.conducts d.listener).observes = some name →
      w.scene.sheetNamed? name = some r →
        d.sighting = some (some ((w.execute c).1.sheet r).sighting)

theorem publishes_of_call (sound : w.Sound) (called : w.call? r c = some op) :
    w.Publishes c r (publications (op.step (w.sheet r)).actions) := by
  have speaks := speaks_of_call sound called
  obtain ⟨heard, appended, told⟩ := speaks.heard
  obtain ⟨heard', appended', outspoken⟩ := speaks.adds (w.execute c).1.scene.ignores_echoes
  obtain rfl : heard = heard' := List.append_cancel_left (appended.symm.trans appended')
  refine ⟨speaks, heard, appended, ?_, ?_⟩
  · rw [outspoken]
    refine List.filter_eq_self.mpr fun d hd => ?_
    obtain ⟨x, due, hd⟩ := List.mem_flatMap.mp hd
    obtain ⟨l, -, rfl⟩ := List.mem_map.mp hd
    show (!x.2.isEcho) = true
    rw [Sheet.outspoken_step (sound.sheets r) op x due]
    rfl
  · intro d hd name looks named
    obtain ⟨e, l, rfl⟩ := told d hd
    obtain ⟨own, rfl, -⟩ := eq_of_call? called
    have kept : (Command.sheet own op).rebinds ≠ some name := (Option.some_ne_none name).symm
    have mine : (w.scene.conducts l).observes = some name := looks
    rw [Scene.told, (cast_execute w _).conducts, mine, Option.map_some, Scene.sight,
      sheetNamed?_execute w kept, named]
    rfl

theorem made_execute (made : r.number < w.sheetsMade) (c : Command) :
    r.number < (w.execute c).1.sheetsMade := by
  rw [(cast_execute w c).sheetsMade]
  exact Nat.lt_add_right _ made

/-- The listener is listed for the topic on the sheet until it is disposed, and on no other one. -/
structure Attends (w : World) (t : Topic) (r : SheetRef) (l : ListenerRef) : Prop where
  sound : w.Sound
  made : r.number < w.sheetsMade
  listed : (w.sheet r).Listed
  listens : (w.sheet r).disposed = true ∨ l ∈ ((w.sheet r).audience t).toList
  elsewhere : ∀ r', r' ≠ r → l ∉ ((w.sheet r').audience t).toList

/-- The listener neither leaves the sheet nor joins another one. -/
structure KeepsAttending (t : Topic) (r : SheetRef) (l : ListenerRef) (w : World) (c : Command) :
    Prop where
  stays : w.actor c = some r → c.strikes ≠ some (t, l)
  alone : w.actor c ≠ some r → c.enrols ≠ some (t, l)

instance (t : Topic) (r : SheetRef) (l : ListenerRef) (w : World) (c : Command) :
    Decidable (KeepsAttending t r l w c) :=
  decidable_of_iff
    ((w.actor c = some r → c.strikes ≠ some (t, l)) ∧
      (w.actor c ≠ some r → c.enrols ≠ some (t, l)))
    ⟨fun ⟨stays, alone⟩ => ⟨stays, alone⟩, fun ⟨stays, alone⟩ => ⟨stays, alone⟩⟩

theorem attends_execute (h : w.Attends t r l) (ok : KeepsAttending t r l w c) :
    (w.execute c).1.Attends t r l := by
  -- On either sheet it matters only whether the command carries out an operation there.
  refine ⟨sound_execute h.sound c, made_execute h.made c, ?_, ?_, ?_⟩
  · cases called : w.call? r c with
    | none => exact h.listed.of_sameMargin (sameMargin_of_no_call h.made called)
    | some op =>
      rw [(execute_of_call? called).1]
      exact Sheet.listed_step _ op h.listed
  · cases called : w.call? r c with
    | none =>
      have same := sameMargin_of_no_call h.made called
      rw [same.disposed, same.audience]
      exact h.listens
    | some op =>
      obtain ⟨acts, -, strikes⟩ := actor_of_call? called
      rw [(execute_of_call? called).1]
      rcases h.listens with ended | listens
      · exact .inl (Sheet.disposed_step _ op ended)
      · by_cases ended : (op.step (w.sheet r)).sheet.disposed = true
        · exact .inl ended
        · have stays := (Sheet.relists_step (w.sheet r) op t).stays
            (Bool.eq_false_iff.mpr ended) listens
          exact .inr (stays.resolve_right (strikes ▸ ok.stays acts))
  · intro r' other
    cases called : w.call? r' c with
    | none =>
      rcases sheet_of_no_call called with same | ⟨-, title, crs, same⟩
      · rw [same.audience]
        exact h.elsewhere r' other
      · rw [same.audience]
        cases t <;> exact List.not_mem_nil
    | some op =>
      obtain ⟨acts, enrols, -⟩ := actor_of_call? called
      have elsewhere : w.actor c ≠ some r := fun mine =>
        other (Option.some.inj (acts.symm.trans mine))
      rw [(execute_of_call? called).1]
      intro listens
      rcases (Sheet.relists_step (w.sheet r') op t).comes listens with was | asks
      · exact h.elsewhere r' other was
      · exact ok.alone elsewhere (enrols.trans asks)

/-- No other sheet tells the listener of the topic. -/
theorem not_regards_of_toldBy (h : w.Attends t r l) (uncalled : w.call? r c = none)
    {r' : SheetRef} {d : Delivery} (told : w.ToldBy c r' d) : d.regards t l = false := by
  cases told with
  | passedOn => exact Bool.and_false _
  | @published op roster e m called due listens =>
    refine Bool.eq_false_iff.mpr fun regards => ?_
    obtain ⟨mine, on⟩ := Bool.and_eq_true_iff.mp regards
    obtain rfl : m = l := eq_of_beq mine
    have other : r' ≠ r := by
      rintro rfl
      exact absurd (uncalled.symm.trans called) (Option.some_ne_none op).symm
    have there := (Sheet.mem_publications_step (h.sound.sheets r') due (eq_of_beq on)).2
    exact h.elsewhere r' other (there ▸ listens)

/-- Of the topic the listener hears what the sheet publishes. -/
theorem hears_execute (h : w.Attends t r l) (c : Command) :
    Stage.Adds (Delivery.regards t l) w.stage (w.execute c).1.stage
      ((w.spokenBy r t c).map ((w.execute c).1.scene.told · l)) := by
  rw [spokenBy]
  cases called : w.call? r c with
  | some op =>
    have sound := h.sound.sheets r
    have adds := (speaks_of_call h.sound called).adds
      ((w.execute c).1.scene.ignores_regards t l)
    rw [Sheet.filter_regards (t := t) (l := l)] at adds
    · exact adds
    · intro x hx on
      rcases h.listens with ended | listens
      · have said : x.2 ∈ Sheet.spoken t (op.step (w.sheet r)).actions :=
          List.mem_filter.mpr ⟨List.mem_map_of_mem hx, decide_eq_true on⟩
        rw [Sheet.spoken_of_disposed sound ended] at said
        exact absurd said List.not_mem_nil
      · rw [(Sheet.mem_publications_step sound hx on).2]
        exact ⟨h.listed.once t, listens⟩
  | none =>
    obtain ⟨heard, appended, told⟩ := toldBy_execute h.sound c
    refine ⟨heard, appended, List.filter_eq_nil_iff.mpr fun d hd => ?_⟩
    rcases told d hd with ⟨e, m, rfl⟩ | ⟨r', -, told⟩
    · simp [Delivery.regards, Scene.told, Event.topic?]
    · simp [not_regards_of_toldBy h called told]

/-! ## Runs -/

/-- A listener takes in each event, and after each operation that is allowed he has what the sheet
shows, if he had it before. -/
structure Informs (t : Topic) (allowed : Sheet → SheetCommand → Prop) {β : Type} (view : Sheet → β)
    (take : β → Event → β) : Prop where
  apart : ∀ b e, e.topic? ≠ some t → take b e = b
  margin : ∀ s s' : Sheet, s.SameMargin s' → view s' = view s
  step : ∀ (s : Sheet) (op : SheetCommand), s.Sound → allowed s op → s.disposed = false →
    (op.step s).sheet.disposed = false →
    (Sheet.spoken t (op.step s).actions).foldl take (view s) = view (op.step s).sheet

variable {β : Type} {view : Sheet → β} {take : β → Event → β}
  {allowed : Sheet → SheetCommand → Prop}

theorem along_of_forall {ok : World → Command → Prop} (h : ∀ w c, ok w c) (w : World)
    (cs : List Command) : Along ok w cs := by
  induction cs generalizing w with
  | nil => trivial
  | cons c cs ih => exact ⟨h w c, ih (w.execute c).1⟩

theorem along_append {ok : World → Command → Prop} (cs cs' : List Command) :
    Along ok w (cs ++ cs') ↔ Along ok w cs ∧ Along ok (w.run cs) cs' := by
  induction cs generalizing w with
  | nil => exact (iff_of_eq (true_and _)).symm
  | cons c cs ih => exact (and_congr_right fun _ => ih).trans and_assoc.symm

theorem attends_run (h : w.Attends t r l) (cs : List Command)
    (keeps : Along (KeepsAttending t r l) w cs) : (w.run cs).Attends t r l :=
  run_keeps (Attends · t r l) (fun _ _ h ok => attends_execute h ok) cs w keeps h

/-- A sheet that is live after a command was so before. -/
theorem live_of_execute (made : r.number < w.sheetsMade)
    (live : ((w.execute c).1.sheet r).disposed = false) : (w.sheet r).disposed = false := by
  by_contra ended
  have before : (w.sheet r).disposed = true := (Bool.not_eq_false _).mp ended
  have after : ((w.execute c).1.sheet r).disposed = true := by
    cases called : w.call? r c with
    | none => exact (sameMargin_of_no_call made called).disposed.trans before
    | some op =>
      rw [(execute_of_call? called).1]
      exact Sheet.disposed_step _ op before
  exact absurd (live.symm.trans after) Bool.false_ne_true

theorem live_of_run (made : r.number < w.sheetsMade) (cs : List Command)
    (live : ((w.run cs).sheet r).disposed = false) : (w.sheet r).disposed = false := by
  induction cs generalizing w with
  | nil => exact live
  | cons c cs ih =>
    exact live_of_execute made (ih (made_execute made c) live)

theorem spokenBy_informs (informs : Informs t allowed view take) (h : w.Attends t r l)
    (ok : ∀ op, w.call? r c = some op → allowed (w.sheet r) op) (live : (w.sheet r).disposed = false)
    (after : ((w.execute c).1.sheet r).disposed = false) :
    (w.spokenBy r t c).foldl take (view (w.sheet r)) = view ((w.execute c).1.sheet r) := by
  rw [spokenBy]
  cases called : w.call? r c with
  | none => exact (informs.margin _ _ (sameMargin_of_no_call h.made called)).symm
  | some op =>
    have now := (execute_of_call? called).1
    rw [now] at after ⊢
    exact informs.step _ op (h.sound.sheets r) (ok op called) live after

theorem informed_run (informs : Informs t allowed view take) (h : w.Attends t r l)
    (cs : List Command) (keeps : Along (KeepsAttending t r l) w cs)
    (ok : Along (fun w c => ∀ op, w.call? r c = some op → allowed (w.sheet r) op) w cs) :
    ∃ ds, Stage.Adds (Delivery.regards t l) w.stage (w.run cs).stage ds ∧
      (((w.run cs).sheet r).disposed = false →
        ds.foldl (fun b d => take b d.event) (view (w.sheet r)) = view ((w.run cs).sheet r)) := by
  induction cs generalizing w with
  | nil => exact ⟨[], .refl _ w.stage, fun _ => rfl⟩
  | cons c cs ih =>
    have attends := attends_execute h keeps.1
    obtain ⟨ds, adds, current⟩ := ih attends keeps.2 ok.2
    refine ⟨_, (hears_execute h c).trans adds, fun live => ?_⟩
    have after := live_of_run attends.made cs live
    have before := live_of_execute h.made after
    rw [List.foldl_append, List.foldl_map]
    show ds.foldl _ ((w.spokenBy r t c).foldl take (view (w.sheet r))) = _
    rw [spokenBy_informs informs h ok.1 before after]
    exact current live

theorem adds_run (sound : w.Sound) (p : Delivery → Bool) (cs : List Command) :
    ∃ ds, Stage.Adds p w.stage (w.run cs).stage ds := by
  induction cs generalizing w with
  | nil => exact ⟨[], .refl p w.stage⟩
  | cons c cs ih =>
    obtain ⟨heard, appended, -⟩ := toldBy_execute sound c
    obtain ⟨ds, adds⟩ := ih (sound_execute sound c)
    have first : Stage.Adds p w.stage (w.execute c).1.stage (heard.filter p) := ⟨heard, appended, rfl⟩
    exact ⟨_, first.trans adds⟩

/-- Whatever else the listener hears since makes no difference to what he takes in. -/
theorem foldl_heardSince {w' : World} {ds : List Delivery}
    (apart : ∀ b e, e.topic? ≠ some t → take b e = b)
    (adds : Stage.Adds (Delivery.regards t l) w.stage w'.stage ds) (b : β) :
    (heardSince w w' l).foldl (fun b d => take b d.event) b =
      ds.foldl (fun b d => take b d.event) b := by
  obtain ⟨all, appended, regarding⟩ := adds
  -- Events from layers, or on the other topic, are left out of the fold.
  have topical : (heardSince w w' l).filter (·.event.topic? == some t) = ds := by
    rw [← regarding]
    simp only [heardSince, appended, List.drop_left, List.filter_filter]
    exact List.filter_congr fun d _ => Bool.and_comm _ _
  rw [← topical, List.foldl_filter]
  congr 1
  funext b d
  split
  · rfl
  · rename_i off
    exact apart b d.event fun on => off (beq_iff_eq.mpr on)

theorem heardSince_informed (informs : Informs t allowed view take) (h : w.Attends t r l)
    (cs : List Command) (keeps : Along (KeepsAttending t r l) w cs)
    (ok : Along (fun w c => ∀ op, w.call? r c = some op → allowed (w.sheet r) op) w cs)
    (live : ((w.run cs).sheet r).disposed = false) :
    (heardSince w (w.run cs) l).foldl (fun b d => take b d.event) (view (w.sheet r)) =
      view ((w.run cs).sheet r) := by
  obtain ⟨ds, adds, current⟩ := informed_run informs h cs keeps ok
  rw [foldl_heardSince informs.apart adds]
  exact current live

/-! ## From the registration on -/

theorem Reachable.listed (h : w.Reachable) (r : SheetRef) : (w.sheet r).Listed :=
  h.beside Sheet.listed_ofSettings Sheet.Listed.of_sameMargin Sheet.listed_step r

/-- Nobody is listed on a sheet that is not made yet. -/
theorem Reachable.audience_of_unmade (h : w.Reachable) (unmade : w.sheetsMade ≤ r.number)
    (t : Topic) : ((w.sheet r).audience t).toList = [] := by
  obtain ⟨layers, conducts, cs, rfl⟩ := h
  have sound := sound_opening layers conducts
  have start : ((opening layers conducts).sheet r).audience t = {} := by cases t <;> rfl
  suffices blank : (((opening layers conducts).run cs).sheet r).audience t = {} by
    rw [blank]
    rfl
  generalize opening layers conducts = w at sound start unmade
  induction cs generalizing w with
  | nil => exact start
  | cons c cs ih =>
    have grown := sheetsMade_run_le (w.execute c).1 cs
    have made := (cast_execute w c).sheetsMade
    refine ih (w.execute c).1 (sound_execute sound c) ?_ unmade
    cases called : w.call? r c with
    | none =>
      rcases sheet_of_no_call called with same | ⟨-, title, crs, same⟩
      · rw [same.audience]
        exact start
      · rw [same.audience]
        cases t <;> rfl
    | some op =>
      obtain ⟨name, -, named⟩ := eq_of_call? called
      have bound : r.number < w.sheetsMade := sound.bound _ (mem_of_sheetNamed? w named)
      have later : ((w.execute c).1.run cs).sheetsMade ≤ r.number := unmade
      omega

theorem Reachable.not_mem_audience_of_lone (h : w.Reachable) (lone : w.sheetsMade = 1)
    (other : r ≠ ⟨0⟩) (t : Topic) (l : ListenerRef) : l ∉ ((w.sheet r).audience t).toList := by
  have unmade : w.sheetsMade ≤ r.number := by
    rw [lone]
    by_contra below
    exact other (congrArg SheetRef.mk (by omega : r.number = 0))
  rw [h.audience_of_unmade unmade t]
  exact List.not_mem_nil

/-- The operation by which a listener asks to be listed for a topic. -/
def listen (l : ListenerRef) : Topic → SheetCommand
  | .properties => .listenToProperties l
  | .viewport => .listenToViewport l

/-- The world once the listener is listed on the sheet of the name. -/
def attend (w : World) (name : String) (t : Topic) (l : ListenerRef) : World :=
  (w.execute (.sheet name (listen l t))).1

theorem sheet_attend (named : w.scene.sheetNamed? name = some r) (r' : SheetRef) :
    (w.attend name t l).sheet r' =
      if r' = r then ((listen l t).step (w.sheet r)).sheet else w.sheet r' := by
  rw [attend, execute, withSheet, named]
  exact sheet_perform w r _ r'

theorem mem_audience_listen {s : Sheet} (live : s.disposed = false) (t : Topic) (l : ListenerRef) :
    l ∈ (((listen l t).step s).sheet.audience t).toList := by
  cases t with
  | properties =>
    have now : ((listen l .properties).step s).sheet = _ := Sheet.listenToProperties_of_live live l
    rw [now]
    exact (Roster.mem_add _ l).mpr (.inr rfl)
  | viewport =>
    have now : ((listen l .viewport).step s).sheet = _ := Sheet.listenToViewport_of_live live l
    rw [now]
    exact (Roster.mem_add _ l).mpr (.inr rfl)

theorem sameShown_attend (named : w.scene.sheetNamed? name = some r) :
    (w.sheet r).SameShown ((w.attend name t l).sheet r) := by
  rw [sheet_attend named, if_pos rfl]
  cases t with
  | properties => exact (Sheet.sameShown_listen _ l).1
  | viewport => exact (Sheet.sameShown_listen _ l).2

theorem attends_attend (reachable : w.Reachable) (named : w.scene.sheetNamed? name = some r)
    (live : (w.sheet r).disposed = false)
    (elsewhere : ∀ r', r' ≠ r → l ∉ ((w.sheet r').audience t).toList) :
    (w.attend name t l).Attends t r l := by
  have sound := reachable.sound
  have bound := sound.bound _ (mem_of_sheetNamed? w named)
  refine ⟨sound_execute sound _, ?_, ?_, ?_, ?_⟩
  · exact made_execute bound _
  · rw [sheet_attend named, if_pos rfl]
    exact Sheet.listed_step _ _ (reachable.listed r)
  · rw [sheet_attend named, if_pos rfl]
    exact .inr (mem_audience_listen live t l)
  · intro r' other
    rw [sheet_attend named, if_neg other]
    exact elsewhere r' other

end World
end LayeredMap
