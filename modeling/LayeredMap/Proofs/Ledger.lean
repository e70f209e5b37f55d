import LayeredMap.Proofs.Attendance

/-!
# Title and user data as a ledger

A ledger holds a title and, for each name, at most one value. It knows neither
listeners nor when storage is taken, so whether user data were never there or
were all taken out again makes no difference to it. The ledger alone decides
what an operation on title and user data replies and which events it
publishes, and a sheet that is asked for one operation after the other shows
what the ledger comes to.
-/

namespace LayeredMap

structure Ledger where
  title : Option String := none
  data : String → Option Json := fun _ => none

namespace Ledger

/-- Of several values that come in under one name the last one counts. -/
def after (b : Ledger) : SheetCommand → Ledger
  | .setTitle title => { b with title := some title }
  | .putData k v => { b with data := put b.data k (some v) }
  | .removeData k => { b with data := put b.data k none }
  | .extendData entries => { b with data := fun k => entries.reverse.lookup k <|> b.data k }
  | .clearData => { b with data := fun _ => none }
  | .dispose => {}
  | _ => b

/-- What an operation on title or user data replies. -/
def reply? (b : Ledger) : SheetCommand → Option Reply
  | .putData k _ | .removeData k => some (.value (b.data k))
  | .setTitle _ | .extendData _ | .clearData => some .done
  | _ => none

/-- What an operation on title or user data publishes. -/
def events (b : Ledger) : SheetCommand → List PropertyEvent
  | .setTitle title =>
    [{ property := "title", old := b.title.map .string, new := some (.string title) }]
  | .putData k v => [{ property := k, old := b.data k, new := some v }]
  | .removeData k =>
    match b.data k with
    | none => []
    | some old => [{ property := k, old := some old, new := none }]
  | .extendData _ | .clearData => [{ property := "userData", old := none, new := none }]
  | _ => []

def replay (b : Ledger) (ops : List SheetCommand) : Ledger := ops.foldl after b

end Ledger

/-! ## Entries in the order of their names -/

namespace UserData

variable {d : UserData} {k k' : String} {v : Json}

/-- No name is given twice. -/
def Sorted (d : UserData) : Prop := d.entries.Pairwise fun x y => x.1 < y.1

theorem mem_insertMember {entries : List (String × Json)} {x : String × Json}
    (h : x ∈ Json.insertMember k v entries) : x = (k, v) ∨ x ∈ entries := by
  induction entries with
  | nil => exact .inl (List.mem_singleton.mp h)
  | cons y rest ih =>
    rw [Json.insertMember] at h
    split at h
    · rcases List.mem_cons.mp h with here | there
      · exact .inl here
      · exact .inr (List.mem_cons_of_mem y there)
    · split at h
      · exact List.mem_cons.mp h
      · rcases List.mem_cons.mp h with here | there
        · exact .inr (here ▸ List.mem_cons_self)
        · exact (ih there).imp_right (List.mem_cons_of_mem y)

theorem pairwise_insertMember {entries : List (String × Json)}
    (h : entries.Pairwise fun x y => x.1 < y.1) (k : String) (v : Json) :
    (Json.insertMember k v entries).Pairwise fun x y => x.1 < y.1 := by
  induction entries with
  | nil => exact List.pairwise_singleton _ _
  | cons y rest ih =>
    obtain ⟨below, rest_sorted⟩ := List.pairwise_cons.mp h
    rw [Json.insertMember]
    split
    · rename_i same
      subst same
      exact List.pairwise_cons.mpr ⟨below, rest_sorted⟩
    · rename_i other
      split
      · rename_i before
        refine List.pairwise_cons.mpr ⟨?_, h⟩
        intro x hx
        rcases List.mem_cons.mp hx with rfl | hx
        · exact before
        · exact String.lt_trans before (below x hx)
      · rename_i after
        refine List.pairwise_cons.mpr ⟨?_, ih rest_sorted⟩
        intro x hx
        rcases mem_insertMember hx with rfl | hx
        · exact Std.lt_of_le_of_ne after (Ne.symm other)
        · exact below x hx

theorem lookup_cons_eq (x : String × Json) (rest : List (String × Json)) (k : String) :
    (x :: rest).lookup k = if k = x.1 then some x.2 else rest.lookup k := by
  rw [List.lookup_cons]
  by_cases same : k = x.1
  · rw [if_pos same, beq_iff_eq.mpr same]
  · rw [if_neg same, beq_eq_false_iff_ne.mpr same]

theorem lookup_insertMember (entries : List (String × Json)) (k : String) (v : Json) (k' : String) :
    (Json.insertMember k v entries).lookup k' = if k' = k then some v else entries.lookup k' := by
  induction entries with
  | nil => exact lookup_cons_eq (k, v) [] k'
  | cons y rest ih =>
    rw [Json.insertMember]
    split
    · rename_i same
      subst same
      rw [lookup_cons_eq, lookup_cons_eq y]
      split <;> rfl
    · rename_i other
      split
      · exact lookup_cons_eq (k, v) (y :: rest) k'
      · rw [lookup_cons_eq, ih, lookup_cons_eq y]
        by_cases first : k' = y.1
        · rw [if_pos first, if_pos first, if_neg fun same => other (same.symm.trans first)]
        · rw [if_neg first, if_neg first]

theorem lookup_erase (entries : List (String × Json)) (k k' : String) :
    (entries.filter (·.1 != k)).lookup k' = if k' = k then none else entries.lookup k' := by
  induction entries with
  | nil => exact (ite_self none).symm
  | cons y rest ih =>
    by_cases gone : y.1 = k
    · rw [List.filter_cons_of_neg (by simpa using gone), ih, lookup_cons_eq, gone]
      split <;> rfl
    · rw [List.filter_cons_of_pos (by simpa using gone), lookup_cons_eq, ih, lookup_cons_eq y]
      by_cases first : k' = y.1
      · rw [if_pos first, if_pos first, if_neg fun same => gone (first.symm.trans same)]
      · rw [if_neg first, if_neg first]

theorem lookup_eq_some_iff {entries : List (String × Json)}
    (sorted : entries.Pairwise fun x y => x.1 < y.1) {k : String} {v : Json} :
    entries.lookup k = some v ↔ (k, v) ∈ entries := by
  induction entries with
  | nil => simp
  | cons y rest ih =>
    obtain ⟨below, sorted⟩ := List.pairwise_cons.mp sorted
    rw [lookup_cons_eq, List.mem_cons]
    by_cases first : k = y.1
    · rw [if_pos first]
      constructor
      · intro same
        exact .inl (Prod.ext first (Option.some.inj same).symm)
      · rintro (same | later)
        · rw [← same]
        · have before : y.1 < k := below (k, v) later
          rw [first] at before
          exact absurd before (String.lt_irrefl y.1)
    · rw [if_neg first, ih sorted]
      constructor
      · exact .inr
      · rintro (same | later)
        · exact absurd (congrArg Prod.fst same) first
        · exact later

/-- The entries after an operation on user data. -/
def after (d : UserData) : SheetCommand → UserData
  | .putData k v => d.insert k v
  | .removeData k => d.erase k
  | .extendData entries => entries.foldl (fun d x => d.insert x.1 x.2) d
  | .clearData | .dispose => {}
  | _ => d

theorem Sorted.insert (h : d.Sorted) (k : String) (v : Json) : (d.insert k v).Sorted :=
  pairwise_insertMember h k v

theorem Sorted.after (h : d.Sorted) (op : SheetCommand) : (d.after op).Sorted := by
  cases op with
  | putData k v => exact h.insert k v
  | removeData k => exact h.sublist List.filter_sublist
  | extendData entries =>
    rw [UserData.after]
    induction entries generalizing d with
    | nil => exact h
    | cons x rest ih => exact ih (h.insert x.1 x.2)
  | clearData | dispose => exact List.Pairwise.nil
  | _ => exact h

theorem get?_insert (d : UserData) (k : String) (v : Json) :
    (d.insert k v).get? = put d.get? k (some v) := by
  funext k'
  exact lookup_insertMember d.entries k v k'

theorem get?_erase (d : UserData) (k : String) : (d.erase k).get? = put d.get? k none := by
  funext k'
  exact lookup_erase d.entries k k'

theorem get?_extend (d : UserData) (entries : List (String × Json)) :
    (entries.foldl (fun d x => d.insert x.1 x.2) d).get? =
      fun k => entries.reverse.lookup k <|> d.get? k := by
  induction entries generalizing d with
  | nil => rfl
  | cons x rest ih =>
    have found (k : String) : (x :: rest).reverse.lookup k =
        (rest.reverse.lookup k).or (if k = x.1 then some x.2 else none) := by
      rw [List.reverse_cons, List.lookup_append, lookup_cons_eq]
      rfl
    rw [List.foldl_cons, ih, get?_insert]
    funext k
    rw [found]
    cases rest.reverse.lookup k with
    | some v => rfl
    | none => by_cases same : k = x.1 <;> simp [same, put]

/-- The entries are what the ledger holds. -/
theorem get?_after (d : UserData) (title : Option String) (op : SheetCommand) :
    (d.after op).get? = (Ledger.after { title, data := d.get? } op).data := by
  cases op with
  | putData k v => exact get?_insert d k v
  | removeData k => exact get?_erase d k
  | extendData entries => exact get?_extend d entries
  | _ => rfl

theorem erase_of_get?_none (h : d.get? k = none) : d.erase k = d := by
  have absent : ∀ x ∈ d.entries, (x.1 != k) = true := by
    intro x hx
    have other : k ≠ x.1 := by simpa using List.lookup_eq_none_iff.mp h x hx
    exact bne_iff_ne.mpr other.symm
  rw [erase, List.filter_eq_self.mpr absent]

end UserData

/-! ## One operation -/

namespace Sheet

variable {s s' : Sheet} {op : SheetCommand}

def store (s : Sheet) : UserData := s.userData.getD {}

/-- What a sheet shows of title and user data. -/
def ledger (s : Sheet) : Ledger := { title := s.title, data := s.data? }

theorem data?_eq (s : Sheet) : s.data? = s.store.get? := by
  funext k
  rw [data?, store]
  cases s.userData <;> rfl

theorem erase_userData_of_none {k : String} (h : s.data? k = none) :
    s.userData.map (·.erase k) = s.userData := by
  rw [data?_eq, store] at h
  cases held : s.userData with
  | none => rfl
  | some d =>
    rw [held] at h
    exact congrArg some (UserData.erase_of_get?_none h)

/-- On a live sheet an operation on title and user data goes by the ledger. -/
theorem ledger_step (live : s.disposed = false) (about : op.topic? = some .properties) :
    ∃ reply userData, s.ledger.reply? op = some reply ∧ userData.getD {} = s.store.after op ∧
      op.step s =
        { result := reply
          sheet := { s with title := (s.ledger.after op).title, userData }
          actions := (s.ledger.events op).map s.publishProperty } := by
  have goes {ρ : Type} (step : Step (Except Failure ρ)) : s.whenLive step = step :=
    if_neg (Bool.eq_false_iff.mp live)
  cases op with
  | setTitle title =>
    refine ⟨.done, s.userData, rfl, rfl, ?_⟩
    rw [SheetCommand.step, setTitle, goes]
    rfl
  | putData k v =>
    refine ⟨.value (s.data? k), some (s.store.insert k v), rfl, rfl, ?_⟩
    rw [SheetCommand.step, putData, goes]
    rfl
  | removeData k =>
    refine ⟨.value (s.data? k), s.userData.map (·.erase k), rfl, ?_, ?_⟩
    · rw [store]
      cases s.userData <;> rfl
    · rw [SheetCommand.step, removeData, goes]
      cases held : s.data? k with
      | none =>
        rw [erase_userData_of_none held]
        simp [Ledger.events, Ledger.after, ledger, held, Step.still, Step.map, Reply.ofResult]
      | some old =>
        simp [Ledger.events, Ledger.after, ledger, held, Step.map, Reply.ofResult]
  | extendData entries =>
    refine ⟨.done, some (s.store.after (.extendData entries)), rfl, rfl, ?_⟩
    rw [SheetCommand.step, extendData, goes]
    rfl
  | clearData =>
    refine ⟨.done, s.userData.map fun _ => {}, rfl, ?_, ?_⟩
    · cases s.userData <;> rfl
    · rw [SheetCommand.step, clearData, goes]
      rfl
  | _ => exact absurd about (by simp [SheetCommand.topic?])

theorem store_of_about (live : s.disposed = false) (about : op.topic? = some .properties) :
    (op.step s).sheet.store = s.store.after op := by
  obtain ⟨reply, userData, -, stored, step⟩ := ledger_step live about
  rw [step]
  exact stored

theorem ledger_of_about (live : s.disposed = false) (about : op.topic? = some .properties) :
    (op.step s).sheet.ledger = s.ledger.after op := by
  have title : (op.step s).sheet.title = (s.ledger.after op).title := by
    obtain ⟨reply, userData, -, -, step⟩ := ledger_step live about
    rw [step]
  have data : (op.step s).sheet.data? = (s.ledger.after op).data := by
    rw [data?_eq, store_of_about live about, UserData.get?_after, ← data?_eq]
    rfl
  rw [ledger, title, data]

theorem ledger_of_same (title : s'.title = s.title) (userData : s'.userData = s.userData) :
    s'.ledger = s.ledger := by
  rw [ledger, ledger, data?_eq, data?_eq, store, store, title, userData]

theorem after_of_other (b : Ledger) (other : op.topic? ≠ some .properties) (stays : op ≠ .dispose) :
    b.after op = b := by
  cases op with
  | setTitle _ | putData _ _ | removeData _ | extendData _ | clearData => exact absurd rfl other
  | dispose => exact absurd rfl stays
  | _ => rfl

theorem ledger_after (live : s.disposed = false) (stays : op ≠ .dispose) :
    (op.step s).sheet.ledger = s.ledger.after op := by
  by_cases about : op.topic? = some .properties
  · exact ledger_of_about live about
  · obtain ⟨title, userData⟩ := s.properties_step about stays
    rw [ledger_of_same title userData, after_of_other _ about stays]

theorem sorted_step (s : Sheet) (op : SheetCommand) (h : s.store.Sorted) :
    (op.step s).sheet.store.Sorted := by
  have kept (same : (op.step s).sheet.userData = s.userData) : (op.step s).sheet.store.Sorted := by
    rw [store, same]
    exact h
  by_cases ends : op = .dispose
  · subst ends
    cases live : s.disposed with
    | true =>
      rw [dispose_of_disposed live]
      exact h
    | false =>
      rw [dispose_of_live live]
      exact List.Pairwise.nil
  · by_cases about : op.topic? = some .properties
    · cases live : s.disposed with
      | true =>
        rw [step_of_disposed live about]
        exact h
      | false =>
        rw [store_of_about live about]
        exact h.after op
    · exact kept (s.properties_step about ends).2

theorem publications_properties (s : Sheet) (events : List PropertyEvent) :
    publications (events.map s.publishProperty) =
      events.map fun e => (s.propertyListeners, .property e) := by
  rw [publications, List.filterMap_map, ← List.filterMap_eq_map]
  rfl

/-! ## Storage does not show -/

/-- The same sheet, but for where it keeps the entries. -/
structure SameStore (s s' : Sheet) : Prop where
  store : s'.store = s.store
  rest : s' = { s with userData := s'.userData }

theorem SameStore.ledger_eq (h : s.SameStore s') : s'.ledger = s.ledger := by
  rw [ledger, ledger, data?_eq, data?_eq, h.store, h.rest]

theorem sameStore_step (h : s.SameStore s') (about : op.topic? = some .properties) :
    (op.step s').result = (op.step s).result ∧
      publications (op.step s').actions = publications (op.step s).actions ∧
      (op.step s).sheet.SameStore (op.step s').sheet := by
  have disposed : s'.disposed = s.disposed := by rw [h.rest]
  have publish : s'.publishProperty = s.publishProperty := by rw [h.rest]; rfl
  rcases Bool.eq_false_or_eq_true s.disposed with ended | live
  · rw [step_of_disposed ended about, step_of_disposed (disposed.trans ended) about]
    exact ⟨rfl, rfl, h⟩
  · obtain ⟨reply, d, replies, stored, step⟩ := ledger_step live about
    obtain ⟨reply', d', replies', stored', step'⟩ := ledger_step (disposed.trans live) about
    rw [h.ledger_eq] at replies' step'
    rw [publish] at step'
    rw [h.store] at stored'
    -- Both steps go by the same ledger, and only the place of the entries may differ.
    obtain rfl := Option.some.inj (replies.symm.trans replies')
    have rest := congrArg (fun x : Sheet =>
      { x with title := (s.ledger.after op).title, userData := d' }) h.rest
    rw [step, step']
    exact ⟨rfl, rfl, stored'.trans stored.symm, rest⟩

/-- All that can be learnt from operations: each reply, what is published, and what is shown of
title and user data afterwards. -/
def converse (s : Sheet) : List SheetCommand →
    List (Reply × List (Roster ListenerRef × Event) × Option String × List (String × Json))
  | [] => []
  | op :: ops =>
    let step := op.step s
    (step.result, publications step.actions, step.sheet.title, step.sheet.dataEntries)
      :: step.sheet.converse ops

theorem SameStore.converse_eq (h : s.SameStore s') (ops : List SheetCommand)
    (about : ∀ op ∈ ops, op.topic? = some .properties) : s'.converse ops = s.converse ops := by
  induction ops generalizing s s' with
  | nil => rfl
  | cons op ops ih =>
    obtain ⟨result, published, after⟩ := sameStore_step h (about op List.mem_cons_self)
    have later := ih after fun op' h => about op' (List.mem_cons_of_mem op h)
    have title : (op.step s').sheet.title = (op.step s).sheet.title :=
      congrArg Ledger.title after.ledger_eq
    have entries : (op.step s').sheet.dataEntries = (op.step s).sheet.dataEntries :=
      congrArg UserData.entries after.store
    rw [converse, converse]
    simp only [result, published, title, entries, later]

end Sheet

/-! ## Runs -/

namespace World

variable {w : World} {r : SheetRef} {c : Command} {op : SheetCommand}

theorem Reachable.sorted (h : w.Reachable) (r : SheetRef) : (w.sheet r).store.Sorted :=
  h.beside (P := fun s => s.store.Sorted) (fun _ _ => List.Pairwise.nil)
    (fun same sorted => by
      rw [Sheet.store, same.userData]
      exact sorted)
    Sheet.sorted_step r

theorem ledger_of_no_call (made : r.number < w.sheetsMade) (uncalled : w.call? r c = none) :
    ((w.execute c).1.sheet r).ledger = (w.sheet r).ledger :=
  have same := sameMargin_of_no_call made uncalled
  Sheet.ledger_of_same same.title same.userData

theorem ledger_of_call (called : w.call? r c = some op)
    (after : ((w.execute c).1.sheet r).disposed = false) (live : (w.sheet r).disposed = false) :
    ((w.execute c).1.sheet r).ledger = (w.sheet r).ledger.after op := by
  rw [(execute_of_call? called).1] at after ⊢
  exact Sheet.ledger_after live (Sheet.ne_dispose_of_live after)

/-- Until a sheet is disposed, it shows what the operations on it come to in the ledger. -/
theorem ledger_run (made : r.number < w.sheetsMade) (cs : List Command)
    (live : ((w.run cs).sheet r).disposed = false) :
    ((w.run cs).sheet r).ledger = (w.sheet r).ledger.replay ((dialogue r w cs).map (·.1)) := by
  induction cs generalizing w with
  | nil => rfl
  | cons c cs ih =>
    have made' := made_execute made c
    -- Disposal is final, so the sheet is live after each command of the run.
    have after := live_of_run made' cs live
    refine (ih made' live).trans ?_
    rw [dialogue]
    cases called : w.call? r c with
    | none =>
      rw [ledger_of_no_call made called]
      rfl
    | some op =>
      rw [ledger_of_call called after (live_of_execute made after)]
      rfl

/-- The operations on a sheet are those that are asked for under its name. -/
theorem dialogue_sheet {name : String} (named : w.scene.sheetNamed? name = some r)
    (ops : List SheetCommand) : (dialogue r w (ops.map (.sheet name))).map (·.1) = ops := by
  induction ops generalizing w with
  | nil => rfl
  | cons op ops ih =>
    have kept : (Command.sheet name op).rebinds ≠ some name := (Option.some_ne_none name).symm
    have rest := ih ((sheetNamed?_execute w kept).trans named)
    rw [List.map_cons, dialogue, call?_of_named named]
    exact congrArg (op :: ·) rest

/-- What a command comes to that is an operation on title and user data. It replies and publishes
what the ledger says, each event once to each listener, in the world in which the ledger is already
the new one. -/
structure Books (w : World) (c : Command) (r : SheetRef) (b : Ledger) (op : SheetCommand) :
    Prop where
  reply : b.reply? op = some (w.execute c).2
  publishes : w.Publishes c r
    ((b.events op).map fun e => ((w.sheet r).propertyListeners, .property e))
  committed : ((w.execute c).1.scene.sheets r).ledger = b.after op

theorem books_of_call (sound : w.Sound) (live : (w.sheet r).disposed = false)
    (called : w.call? r c = some op) (about : op.topic? = some .properties) :
    w.Books c r (w.sheet r).ledger op := by
  obtain ⟨sheet, reply⟩ := execute_of_call? called
  have publishes := publishes_of_call sound called
  obtain ⟨answer, userData, replies, -, step⟩ := Sheet.ledger_step live about
  refine ⟨?_, ?_, ?_⟩
  · rw [reply, step]
    exact replies
  · rw [step, Sheet.publications_properties] at publishes
    exact publishes
  · exact (congrArg Sheet.ledger sheet).trans (Sheet.ledger_of_about live about)

end World
end LayeredMap
