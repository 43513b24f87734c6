import CoffeeCloud.Effects.Pickup

/-!
Reports about pickup slots that arrive late, twice and out of order. What is left
of them is the report of the greatest revision, and for each order the first word
of its collection.
-/
namespace CoffeeCloud
open Library Tx

namespace PickupView
variable {v : PickupView} {slot s : PickupSlot} {collected : Bool} {now : Time} {k : Id}

/-- The slot after a report is the one before it or the reported one. -/
theorem mem_slot_record (h : s ∈ (v.record slot collected now).slot k) :
    s ∈ v.slot k ∨ (s = slot ∧ slot.terminalId = k) := by
  simp only [record] at h
  split at h
  · rename_i newer
    cases h
    exact .inr ⟨rfl, newer.1.symm⟩
  · exact .inl h

/-- The newer of the two is the slot after the report. -/
theorem slot_record (fits : v.Fits slot) (here : slot.terminalId = k)
    (known : s ∈ v.slot k ∨ s = slot) (newest : ∀ r, r ∈ v.slot k ∨ r = slot → r.revision ≤ s.revision) :
    s ∈ (v.record slot collected now).slot k := by
  subst here
  simp only [record, true_and]
  cases stored : v.slot slot.terminalId with
  | none =>
      rw [stored] at known
      rcases known with known | rfl
      · cases known
      · rfl
  | some current =>
      have older : current.revision ≤ s.revision := newest current (.inl stored)
      have newer : slot.revision ≤ s.revision := newest slot (.inr rfl)
      rcases known with known | rfl
      · cases stored.symm.trans known
        have keeps : ¬ s.revision < slot.revision := by omega
        simp [keeps]
      · by_cases same : current.revision = s.revision
        · cases fits current stored same
          simp
        · have ahead : current.revision < s.revision := by omega
          simp [ahead]

end PickupView

namespace DeviceMessageService

/-- An event that arrives from a terminal. -/
structure Arrival where
  terminalId : Id
  event : DeviceEvent
  fresh : FreshRefund
  now : Time

namespace Arrival

def handle (env : Env) (a : Arrival) : Sql EventAnswer :=
  DeviceMessageService.event env a.terminalId a.event a.fresh a.now

/-- The event is neither refused nor a repetition. -/
def isTaken (env : Env) (a : Arrival) (db : Db) : Bool :=
  match a.handle env db with
  | .ok (.accepted _, _) => true
  | _ => false

def report (a : Arrival) : Option PickupSlot := reportOf a.terminalId a.event

/-- The event says the cup of an order was collected. -/
def collectsFor (v : PickupView) (k : Id) (a : Arrival) : Bool :=
  a.event.collects && a.report.any fun s => v.owner s.terminalId s.taskId = some k

end Arrival

/-- Events that arrive one after the other; one that is refused leaves nothing. -/
def receive (env : Env) : List Arrival → Db → Db
  | [], db => db
  | a :: as, db => receive env as ((a.handle env).leave db)

/-- The events among them that are taken. -/
def taken (env : Env) : List Arrival → Db → List Arrival
  | [], _ => []
  | a :: as, db =>
      if a.isTaken env db then a :: taken env as ((a.handle env).leave db)
      else taken env as ((a.handle env).leave db)

/-- What is known of the slot of a terminal: the row there is, and the reports. -/
def reportsOn (terminalId : Id) (v : PickupView) (as : List Arrival) : List PickupSlot :=
  (v.slot terminalId).toList ++
    as.filterMap fun a => a.report.filter fun s => s.terminalId = terminalId

section Runs
variable {env : Env} {a : Arrival} {as : List Arrival} {db : Db} {k terminalId : Id}
  {s slot : PickupSlot}

/-- An event that is not taken changes nothing. -/
theorem leave_untaken (untaken : a.isTaken env db = false) : (a.handle env).leave db = db := by
  simp only [Arrival.isTaken, leave] at untaken ⊢
  cases ran : a.handle env db with
  | error failure => rfl
  | ok answered =>
      obtain ⟨answer, db'⟩ := answered
      have h : Ran (a.handle env) db answer db' := ran
      rcases event_pickup h with ⟨-, same⟩ | ⟨-, ⟨reply, rfl⟩, -⟩
      · exact same
      · rw [ran] at untaken
        cases untaken

theorem leave_taken (isTaken : a.isTaken env db = true) :
    (a.report = none ∧ ((a.handle env).leave db).pickup = db.pickup) ∨
    ∃ slot, a.report = some slot ∧ db.pickup.Fits slot ∧
      ((a.handle env).leave db).pickup = db.pickup.record slot a.event.collects a.now := by
  simp only [Arrival.isTaken, leave] at isTaken ⊢
  cases ran : a.handle env db with
  | error failure =>
      rw [ran] at isTaken
      cases isTaken
  | ok answered =>
      obtain ⟨answer, db'⟩ := answered
      have h : Ran (a.handle env) db answer db' := ran
      rcases event_pickup h with ⟨untaken, -⟩ | ⟨-, -, none | ⟨slot, reports, -, fits, same⟩⟩
      · rw [ran] at isTaken
        cases answer with
        | accepted reply => exact absurd rfl (untaken reply)
        | dropped => cases isTaken
        | duplicate => cases isTaken
      · exact .inl none
      · exact .inr ⟨slot, reports, fits, same⟩

theorem mem_reportsOn {v : PickupView} : s ∈ reportsOn terminalId v as ↔
    s ∈ v.slot terminalId ∨ ∃ a ∈ as, a.report = some s ∧ s.terminalId = terminalId := by
  simp only [reportsOn, List.mem_append, Option.mem_toList, List.mem_filterMap,
    Option.filter_eq_some_iff, decide_eq_true_eq]
  exact Iff.rfl

theorem mem_reportsOn_cons {v : PickupView} (reports : a.report = some slot) :
    s ∈ reportsOn terminalId v (a :: as) ↔
      (s ∈ v.slot terminalId ∨ (s = slot ∧ slot.terminalId = terminalId)) ∨
        ∃ a ∈ as, a.report = some s ∧ s.terminalId = terminalId := by
  rw [mem_reportsOn]
  constructor
  · rintro (stored | ⟨b, mem, said, here⟩)
    · exact .inl (.inl stored)
    · rcases List.mem_cons.mp mem with rfl | mem
      · cases reports.symm.trans said
        exact .inl (.inr ⟨rfl, here⟩)
      · exact .inr ⟨b, mem, said, here⟩
  · rintro ((stored | ⟨rfl, here⟩) | ⟨b, mem, said, here⟩)
    · exact .inl stored
    · exact .inr ⟨a, List.mem_cons_self, reports, here⟩
    · exact .inr ⟨b, List.mem_cons_of_mem _ mem, said, here⟩

theorem reportsOn_silent {v : PickupView} (silent : a.report = none) :
    reportsOn terminalId v (a :: as) = reportsOn terminalId v as := by
  simp [reportsOn, silent]

/-- The slot of a terminal is one of its reports. -/
theorem slot_receive (as : List Arrival) : ∀ db : Db,
    s ∈ (receive env as db).pickup.slot terminalId →
      s ∈ reportsOn terminalId db.pickup (taken env as db) := by
  induction as with
  | nil => exact fun db h => mem_reportsOn.mpr (.inl h)
  | cons a as ih =>
      intro db h
      have later := ih _ h
      rw [taken]
      split
      · rename_i isTaken
        rcases leave_taken isTaken with ⟨silent, same⟩ | ⟨slot, reports, -, same⟩
        · rwa [reportsOn_silent silent, ← same]
        · rw [mem_reportsOn_cons reports]
          rcases mem_reportsOn.mp later with stored | reported
          · rw [same] at stored
            exact .inl (PickupView.mem_slot_record stored)
          · exact .inr reported
      · rename_i untaken
        rwa [leave_untaken (by simpa using untaken)] at later ⊢

/-- The report of the greatest revision is the slot. -/
theorem receive_newest (as : List Arrival) : ∀ db : Db,
    s ∈ reportsOn terminalId db.pickup (taken env as db) →
      (∀ r ∈ reportsOn terminalId db.pickup (taken env as db), r.revision ≤ s.revision) →
        s ∈ (receive env as db).pickup.slot terminalId := by
  induction as with
  | nil =>
      intro db known _
      rcases mem_reportsOn.mp known with stored | ⟨a, mem, -⟩
      · exact stored
      · cases mem
  | cons a as ih =>
      intro db known newest
      rw [taken] at known newest
      split at known
      · rename_i isTaken
        rw [if_pos isTaken] at newest
        rcases leave_taken isTaken with ⟨silent, same⟩ | ⟨slot, reports, fits, same⟩
        · rw [reportsOn_silent silent, ← same] at known newest
          exact ih _ known newest
        · simp only [mem_reportsOn_cons reports] at known newest
          refine ih _ ?_ fun r mem => newest r ?_
          · rw [mem_reportsOn, same]
            rcases known with known | reported
            · refine .inl ?_
              by_cases here : slot.terminalId = terminalId
              · refine PickupView.slot_record fits here ?_ fun r mem => newest r (.inl ?_)
                · exact known.imp id fun h => h.1
                · exact mem.imp id fun h => ⟨h, here⟩
              · have elsewhere := (or_iff_left fun h => here h.2).mp known
                simp [PickupView.record, Ne.symm here]
                exact elsewhere
            · exact .inr reported
          · rcases mem_reportsOn.mp mem with stored | reported
            · rw [same] at stored
              exact .inl (PickupView.mem_slot_record stored)
            · exact .inr reported
      · rename_i untaken
        rw [if_neg untaken, leave_untaken (by simpa using untaken)] at newest
        rw [leave_untaken (by simpa using untaken)] at known
        rw [receive, leave_untaken (by simpa using untaken)]
        exact ih db known newest

theorem owner_leave (a : Arrival) (db : Db) :
    ((a.handle env).leave db).pickup.owner = db.pickup.owner := by
  cases isTaken : a.isTaken env db with
  | false => rw [leave_untaken isTaken]
  | true =>
      rcases leave_taken isTaken with ⟨-, same⟩ | ⟨slot, -, -, same⟩
      · rw [same]
      · rw [same]
        rfl

theorem collectsFor_congr {v v' : PickupView} (same : v'.owner = v.owner) (k : Id) :
    (fun a : Arrival => a.collectsFor v' k) = fun a => a.collectsFor v k := by
  funext a
  simp only [Arrival.collectsFor, same]

/-- The mark of an order is the one it had, or the time of the first event that says its cup was
collected. -/
theorem receive_collected (as : List Arrival) : ∀ db : Db,
    (receive env as db).pickup.collected k =
      (db.pickup.collected k).map (·.or
        (((taken env as db).find? (·.collectsFor db.pickup k)).map (·.now))) := by
  induction as with
  | nil => simp [receive, taken]
  | cons a as ih =>
      intro db
      rw [receive, ih, taken, collectsFor_congr (owner_leave a db)]
      cases isTaken : a.isTaken env db with
      | false =>
          rw [leave_untaken isTaken]
          rfl
      | true =>
          rw [if_pos rfl, List.find?_cons]
          rcases leave_taken isTaken with ⟨silent, same⟩ | ⟨slot, reports, -, same⟩
          · have mute : a.collectsFor db.pickup k = false := by
              simp [Arrival.collectsFor, silent]
            rw [same, mute]
          · have speaks : a.collectsFor db.pickup k =
                (a.event.collects && decide (db.pickup.owner slot.terminalId slot.taskId = some k)) := by
              simp [Arrival.collectsFor, reports]
            rw [same, speaks]
            by_cases mine : a.event.collects = true ∧
                db.pickup.owner slot.terminalId slot.taskId = some k
            · have first : (a.event.collects &&
                  decide (db.pickup.owner slot.terminalId slot.taskId = some k)) = true := by
                simpa using mine
              simp only [PickupView.record, if_pos mine, first, Option.map_map, Option.map_some]
              congr 1
              funext mark
              simp only [Function.comp_apply, Option.or_assoc, Option.some_or]
            · have other : (a.event.collects &&
                  decide (db.pickup.owner slot.terminalId slot.taskId = some k)) = false := by
                simpa using mine
              simp only [PickupView.record, if_neg mine, other]

/-- A new report that has the revision of the stored slot and differs from it is refused. -/
theorem handle_refused {current : PickupSlot} (reports : a.report = some slot)
    (stored : db.pickupSlots.find? a.terminalId = some current)
    (same : current.revision = slot.revision) (differs : current ≠ slot) :
    (a.handle env).leave db = db ∧
      (db.terminalEvents.find? (a.terminalId, a.event.eventId) = none →
        ∃ failure, a.handle env db = .error failure) := by
  have here : slot.terminalId = a.terminalId := reportOf_terminal reports
  have unfit : ¬ db.pickup.Fits slot := by
    intro fits
    refine differs (fits current ?_ same)
    rw [here]
    exact stored
  have untaken : a.isTaken env db = false := by
    cases isTaken : a.isTaken env db with
    | false => rfl
    | true =>
        rcases leave_taken isTaken with ⟨silent, -⟩ | ⟨slot', reports', fits, -⟩
        · cases silent.symm.trans reports
        · cases reports.symm.trans reports'
          exact absurd fits unfit
  refine ⟨leave_untaken untaken, fun unseen => ?_⟩
  cases ran : a.handle env db with
  | error failure => exact ⟨failure, rfl⟩
  | ok answered =>
      obtain ⟨answer, db'⟩ := answered
      have h : Ran (a.handle env) db answer db' := ran
      obtain ⟨reply, rfl⟩ := event_accepted (reportOf_lasting reports) unseen h
      rw [Arrival.isTaken, ran] at untaken
      cases untaken

theorem isTaken_of_fits (unseen : db.terminalEvents.find? (a.terminalId, a.event.eventId) = none)
    (settles : (a.event.eventType ∈ ["pickup.collected", "pickup.overdue"] ∧
        Storable env a.terminalId a.event a.now) ∨
      Completes (settle env a.terminalId a.event a.fresh a.now) db)
    (reports : a.report = some slot) (confirms : a.event.Confirms slot)
    (fits : db.pickup.Fits slot) : a.isTaken env db = true := by
  have settled : Completes (settle env a.terminalId a.event a.fresh a.now) db :=
    settles.elim (fun fits => settle_completes fits.1 fits.2) id
  obtain ⟨reply, db', ran⟩ := event_accepts unseen settled reports confirms fits
  rw [Arrival.isTaken, Arrival.handle, ran]

end Runs

/-- However the reports about the slots arrive, the slot of a terminal is its report of the greatest
revision; an order is marked as collected by the first event that says so, and by nothing else. A
report that contradicts the stored slot is refused and leaves all as it is, and one that does not
is no reason to refuse its event. -/
theorem receive_converges (env : Env) (as : List Arrival) (db : Db) :
    let db' := receive env as db
    let reports := fun terminalId => reportsOn terminalId db.pickup (taken env as db)
    (∀ terminalId, ∀ s ∈ reports terminalId,
      (∀ r ∈ reports terminalId, r.revision ≤ s.revision) →
        db'.pickupSlots.find? terminalId = some s) ∧
    (∀ terminalId s, db'.pickupSlots.find? terminalId = some s → s ∈ reports terminalId) ∧
    (∀ k o, db.orders.find? k = some o → ∃ o', db'.orders.find? k = some o' ∧
      o'.collectedAt = o.collectedAt.or
        (((taken env as db).find? (·.collectsFor db.pickup k)).map (·.now))) ∧
    ∀ (a : Arrival) (slot : PickupSlot), a.report = some slot →
      (∀ current, db'.pickupSlots.find? a.terminalId = some current →
        current.revision = slot.revision → current ≠ slot →
          (a.handle env).leave db' = db' ∧
            (db'.terminalEvents.find? (a.terminalId, a.event.eventId) = none →
              ∃ failure, a.handle env db' = .error failure)) ∧
      (db'.pickup.Fits slot → a.event.Confirms slot →
        db'.terminalEvents.find? (a.terminalId, a.event.eventId) = none →
        ((a.event.eventType ∈ ["pickup.collected", "pickup.overdue"] ∧
            Storable env a.terminalId a.event a.now) ∨
          Completes (settle env a.terminalId a.event a.fresh a.now) db') →
            a.isTaken env db' = true) := by
  intro db' reports
  refine ⟨?_, ?_, ?_, ?_⟩
  · exact fun terminalId s known newest => receive_newest as db known newest
  · exact fun terminalId s stored => slot_receive as db stored
  · intro k o found
    have marks : db'.pickup.collected k = _ := receive_collected as db
    have before : db.pickup.collected k = some o.collectedAt := Table.view_of_find? _ found
    rw [before, Option.map_some] at marks
    exact (Table.view_eq_some _).mp marks
  · intro a slot said
    refine ⟨fun current stored same differs => handle_refused said stored same differs, ?_⟩
    exact fun fits confirms unseen settles => isTaken_of_fits unseen settles said confirms fits

end DeviceMessageService
end CoffeeCloud
