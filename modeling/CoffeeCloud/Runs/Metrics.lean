import CoffeeCloud.Effects.Completions
import CoffeeCloud.Runs.Replay

/-!
Which events are refused or carried out, and that the progress a device reports
in the old way never falls.
-/
namespace CoffeeCloud
open Library Tx

namespace ProductionService
variable {driver : Driver} {db db' : Db} {now : Time} {env : Env} {order : Order} {job : Job}
  {command : Command} {fresh : FreshRefund} {terminalId : Id} {body : Json} {eventType : String}
  {input : EventInput} {event : TaskEvent} {reply : EventReply}

section Settling

/-- The event is refused by a check made before any write, or it is carried out. -/
def Settles (driver : Driver) (env : Env) (terminalId : Id) (body : Json) (eventType : String)
    (fresh : FreshRefund) (now : Time) (db : Db) : Prop :=
  (∃ status detail, 400 ≤ status ∧ status < 500 ∧
    reconcile driver env terminalId body eventType fresh now db =
      .error (.serviceError status detail) ∧
    Refuses db terminalId body eventType (.serviceError status detail)) ∨
  Completes (reconcile driver env terminalId body eventType fresh now) db

/-- Nothing the event says stops a function that takes it for checked. -/
structure Applicable (driver : Driver) (db : Db) (terminalId : Id) (body : Json)
    (eventType : String) : Prop where
  readable : eventType ≠ "task.progress" → (eventKind? eventType).isSome → ¬ Unreadable body
  reported : validateMetrics (payloadOf body) = .ok () →
    (payloadOf body).get? "stepProgress" ≠ some .null
  named : ∀ event input order job command, Reads body eventType (.task event) input →
    Concerns db terminalId input order job command →
    Accepts (.task event) input order job command → failureCode event input.payload = .ok ()
  driven : ∀ p ∈ bound db terminalId body eventType, p.taken driver = true

theorem Failure.refusal_of_not_fault {e : Failure} (client : ¬ e.Fault) :
    ∃ status detail, 400 ≤ status ∧ status < 500 ∧ e = .serviceError status detail := by
  cases e with
  | serviceError status detail =>
      obtain ⟨low, high⟩ := not_not.mp client
      exact ⟨status, detail, low, high, rfl⟩
  | httpException _ _ | uniqueViolation _ | checkViolation _ | exception _ =>
      exact absurd trivial client

/-- What goes no further than its own checks, or raises nothing, settles. -/
theorem settles_of_avoids (driven : ∀ p ∈ bound db terminalId body eventType, p.taken driver = true)
    (avoids : Avoids (Unchecked db terminalId body eventType)
      (reconcileDeviceEvent env terminalId body eventType fresh now) db) :
    Settles driver env terminalId body eventType fresh now db := by
  have same : reconcile driver env terminalId body eventType fresh now db =
      reconcileDeviceEvent env terminalId body eventType fresh now db := by
    simp only [reconcile, List.all_eq_true.mpr driven, if_true]
  cases outcome : reconcileDeviceEvent env terminalId body eventType fresh now db with
  | error e =>
      have refuses : Refuses db terminalId body eventType e := not_not.mp (avoids e outcome)
      obtain ⟨status, detail, low, high, rfl⟩ := Failure.refusal_of_not_fault refuses.client
      exact .inl ⟨status, detail, low, high, same.trans outcome, refuses⟩
  | ok r => exact .inr ⟨r.1, r.2, same.trans outcome⟩

/-- A fault is neither a refusal nor an end. -/
theorem not_settles {e : Failure} (fault : e.Fault)
    (raised : reconcile driver env terminalId body eventType fresh now db = .error e) :
    ¬ Settles driver env terminalId body eventType fresh now db := by
  rintro (⟨status, detail, low, high, refused, -⟩ | ⟨reply, db', completed⟩)
  · cases raised.symm.trans refused
    exact fault ⟨low, high⟩
  · exact absurd (raised.symm.trans completed) (by simp)

/-- An event that does not come to look for its job is answered, or refused as it is read. -/
theorem avoids_of_not_searching (silent : searching eventType body = none)
    (readable : eventType ≠ "task.progress" → (eventKind? eventType).isSome → ¬ Unreadable body) :
    Avoids (Unchecked db terminalId body eventType)
      (reconcileDeviceEvent env terminalId body eventType fresh now) db := by
  have absent (kind : EventKind) (input : EventInput) : ¬ Reads body eventType kind input := by
    intro reads
    rw [searching_iff.mpr reads] at silent
    cases silent
  simp only [reconcileDeviceEvent]
  split
  · exact avoids_pure _ _
  · rename_i lasting
    cases typed : eventKind? eventType with
    | none => exact avoids_pure _ _
    | some kind =>
        cases read : readEvent body with
        | error e =>
            have client : ¬ e.Fault := by
              intro fault
              exact readable lasting (by simp [typed]) (readEvent_fault.mp ⟨e, read, fault⟩)
            intro e' raised
            cases raised
            exact Refuses.checked (.unread lasting typed read client)
        | ok input =>
            simp only [lift, pure_bind]
            split
            · exact avoids_pure _ _
            · rename_i paused
              exact absurd ⟨lasting, typed, read, paused⟩ (absent kind input)

theorem settles_of_applicable (unused : fresh.Unused db)
    (applicable : Applicable driver db terminalId body eventType) :
    Settles driver env terminalId body eventType fresh now db := by
  refine settles_of_avoids applicable.driven ?_
  cases search : searching eventType body with
  | none => exact avoids_of_not_searching search applicable.readable
  | some found =>
      obtain ⟨kind, input⟩ := found
      have reads := searching_iff.mp search
      by_cases taken : ∃ order job command, Concerns db terminalId input order job command ∧
          Accepts kind input order job command
      · obtain ⟨order, job, command, concerns, accepts⟩ := taken
        obtain ⟨payload, valid⟩ := readEvent_ok reads.valid
        have reported : input.payload.get? "stepProgress" ≠ some .null := by
          rw [payload]
          exact applicable.reported valid
        rcases judgeEvent_cases env terminalId kind input order job command fresh now with
          ⟨-, applied⟩ | ⟨refused, -⟩
        · have completes : Completes (apply env terminalId kind input order job command fresh now)
              db := by
            cases kind with
            | step => exact applyStep_completes reported
            | task event =>
                exact applyEvent_completes unused concerns.rows
                  (applicable.named event input order job command reads concerns accepts) reported
                  (accepts.task event rfl).2.2.2
          intro e raised
          rw [reconcile_concerned reads concerns, applied] at raised
          exact completes.avoids e raised
        · exact absurd accepts refused
      · refine reconcile_judged reads fun order job command concerns accepts => taken ?_
        exact ⟨order, job, command, concerns, accepts⟩

theorem applicable_of_settles
    (settles : Settles driver env terminalId body eventType fresh now db)
    (reported : validateMetrics (payloadOf body) = .ok () →
      (payloadOf body).get? "stepProgress" ≠ some .null) :
    Applicable driver db terminalId body eventType := by
  have driven : ∀ p ∈ bound db terminalId body eventType, p.taken driver = true := by
    by_contra untaken
    refine not_settles (e := .exception "DataError") trivial ?_ settles
    simp only [reconcile, List.all_eq_true, untaken, if_false]
  have raises {e : Failure} (fault : e.Fault)
      (raised : reconcileDeviceEvent env terminalId body eventType fresh now db = .error e) :
      False := by
    refine not_settles fault ?_ settles
    simpa only [reconcile, List.all_eq_true.mpr driven, if_true] using raised
  refine ⟨fun lasting typed unreadable => ?_, reported, ?_, driven⟩
  · obtain ⟨kind, typed⟩ := Option.isSome_iff_exists.mp typed
    obtain ⟨e, read, fault⟩ := readEvent_fault.mpr unreadable
    refine raises fault ?_
    simp only [reconcileDeviceEvent, if_neg lasting, typed, read, lift]
    rfl
  · intro event input order job command reads concerns accepts
    cases named : failureCode event input.payload with
    | ok u => rfl
    | error e =>
        have unnamed : e = .exception "TypeError" := by
          simp only [failureCode] at named
          split at named
          · split at named
            · cases named
            · cases named
            · cases named
              rfl
          · cases named
        subst unnamed
        rcases judgeEvent_cases env terminalId (.task event) input order job command fresh now with
          ⟨-, applied⟩ | ⟨refused, -⟩
        · refine (raises (e := .exception "TypeError") trivial ?_).elim
          rw [reconcile_concerned reads concerns, applied]
          simp only [apply, applyEvent, named]
          rfl
        · exact absurd accepts refused

end Settling

section Rising

/-- No stored progress falls, or rises above one. -/
def Rises (db db' : Db) : Prop :=
  ∀ k j, db.jobs.find? k = some j → j.progress ≤ 1 →
    ∃ j', db'.jobs.find? k = some j' ∧ j.progress ≤ j'.progress ∧ j'.progress ≤ 1

instance : IsPreorder Db Rises where
  refl _ := fun _ j found one => ⟨j, found, le_refl _, one⟩
  trans _ _ _ h h' := by
    intro k j found one
    obtain ⟨j', found', up, one'⟩ := h k j found one
    obtain ⟨j'', found'', up', one''⟩ := h' k j' found' one'
    exact ⟨j'', found'', up.trans up', one''⟩

theorem rises_of_jobs (same : db'.jobs = db.jobs) : Rises db db' := fun _ j found one =>
  ⟨j, same ▸ found, le_refl _, one⟩

theorem Rises.blind : Blind Rises where
  orders _ _ := rises_of_jobs rfl
  orderTransitions _ _ := rises_of_jobs rfl
  commands _ _ := rises_of_jobs rfl
  commandTransitions _ _ := rises_of_jobs rfl
  payments _ _ := rises_of_jobs rfl
  refunds _ _ := rises_of_jobs rfl
  dispatchRequests _ _ := rises_of_jobs rfl

theorem rises_modify {k : Id} {f : Job → Job} (hf : ∀ j, (f j).id = j.id)
    (up : ∀ j, db.jobs.find? k = some j → j.progress ≤ 1 →
      j.progress ≤ (f j).progress ∧ (f j).progress ≤ 1) :
    Rises db { db with jobs := db.jobs.modify k f hf } := by
  intro id j found one
  by_cases here : id = k
  · subst here
    exact ⟨f j, by simp [Table.find?_modify, found], up j found one⟩
  · exact ⟨j, by simp [Table.find?_modify, here, found], le_refl _, one⟩

theorem markHold_rises {k : Id} : Follows Rises (markHold event k now) := by
  unfold markHold
  split
  · exact follows_write fun db => rises_modify _ fun j _ one => ⟨le_refl _, one⟩
  · split
    · exact follows_write fun db => rises_modify _ fun j _ one => ⟨le_refl _, one⟩
    · exact follows_pure ()

/-- What an event without an overall progress of its own makes of the stored one. -/
theorem deviceProgress_rises {overall step : Rat} {p : Rat × Rat}
    (silent : numberField? input.payload "overallProgress" = none)
    (shown : deviceProgress input.payload overall step = .ok p) (one : overall ≤ 1) :
    overall ≤ p.1 ∧ p.1 ≤ 1 := by
  have reported : input.payload.get? "stepProgress" ≠ some .null := by
    intro null
    rw [deviceProgress_null null] at shown
    cases shown
  obtain ⟨b, progress⟩ := deviceProgress_ok reported overall step
  cases progress.symm.trans shown
  exact ⟨le_clamp (le_overallOf silent overall) one, (clamp_range _).2⟩

theorem applyEvent_rises (rows : Rows db order job command)
    (silent : numberField? input.payload "overallProgress" = none)
    (h : Ran (applyEvent env terminalId event input order job command fresh now) db reply db') :
    Rises db db' := by
  simp only [applyEvent] at h
  rw [ran_bind] at h
  obtain ⟨_, t, code, h⟩ := h
  rw [ran_bind] at h
  obtain ⟨p, t', shown, h⟩ := h
  obtain ⟨-, rfl⟩ := ran_lift.mp code
  obtain ⟨progress, rfl⟩ := ran_lift.mp shown
  rw [ran_bind] at h
  obtain ⟨r, t₁, commanded, h⟩ := h
  rw [ran_bind] at h
  obtain ⟨_, t₂, updated, h⟩ := h
  have jobs : t₁.jobs = t'.jobs := (transitionCommand_rest commanded).2.2
  have first : Rises t' t₁ := rises_of_jobs jobs
  have second : Rises t₁ t₂ := by
    simp only [OrderRepository.updateJobTerminal, OrderRepository.modifyJob, ran_write] at updated
    subst updated
    refine rises_modify _ fun j found one => ?_
    rw [jobs, rows.queued] at found
    cases found
    obtain ⟨up, high⟩ := deviceProgress_rises silent progress one
    simp only [OrderRepository.JobOutcome.apply, jobOutcome]
    split
    · exact ⟨one, le_refl _⟩
    · exact ⟨up, high⟩
  have rest : Rises t₂ db' := by
    refine (follows_bind markHold_rises fun _ => follows_bind (Rises.blind.transitionOrder _ _ _)
      fun moved => ?_) _ _ _ h
    refine follows_bind (follows_onlyIf fun _ => Rises.blind.createAutomaticRefundRecord _ _ _)
      fun _ => ?_
    exact follows_bind (follows_onlyIf fun _ => Rises.blind.requestDispatch _) fun _ =>
      follows_pure _
  exact IsTrans.trans _ _ _ first (IsTrans.trans _ _ _ second rest)

theorem applyStep_rises (found : db.jobs.find? job.id = some job)
    (silent : numberField? input.payload "overallProgress" = none)
    (h : Ran (applyStep input order job now) db reply db') : Rises db db' := by
  simp only [applyStep] at h
  rw [ran_bind] at h
  obtain ⟨p, t, shown, h⟩ := h
  obtain ⟨progress, rfl⟩ := ran_lift.mp shown
  simp only [OrderRepository.updateJobProgress, OrderRepository.modifyJob, ran_write_bind,
    ran_pure] at h
  obtain ⟨-, rfl⟩ := h
  refine rises_modify _ fun j there one => ?_
  cases found.symm.trans there
  exact deviceProgress_rises silent progress one

/-- One event raises the progress of its job, or leaves it. -/
theorem reconcile_rises (silent : numberField? (payloadOf body) "overallProgress" = none)
    (h : Ran (reconcileDeviceEvent env terminalId body eventType fresh now) db reply db') :
    Rises db db' := by
  rcases reconcileDeviceEvent_cases h with ⟨-, rfl⟩ |
    ⟨kind, input, order, job, command, reads, concerns, -, applied⟩ |
    ⟨event, input, command, r, -, -, -, transition⟩
  · exact Std.Refl.refl _
  · rw [← (readEvent_ok reads.valid).1] at silent
    cases kind with
    | step => exact applyStep_rises concerns.rows.queued silent applied
    | task event => exact applyEvent_rises concerns.rows silent applied
  · exact Rises.blind.transitionCommand _ _ _ _ _ _ _ transition

/-- An event as it is handed over to be reconciled. -/
structure Report where
  terminalId : Id
  body : Json
  eventType : String
  fresh : FreshRefund
  now : Time

/-- Events reconciled one after the other. -/
def reporting (driver : Driver) (env : Env) : Machine Db Report (Except Failure EventReply) where
  next db r :=
    match reconcile driver env r.terminalId r.body r.eventType r.fresh r.now db with
    | .ok (reply, db') => (db', .ok reply)
    | .error e => (db, .error e)

/-- The event says how far its task is by the legacy field, or not at all. -/
def Report.Legacy (r : Report) : Prop :=
  numberField? (payloadOf r.body) "overallProgress" = none

theorem reporting_rises {r : Report} (legacy : r.Legacy) :
    Rises db ((reporting driver env).step db r) := by
  simp only [Machine.step, reporting]
  cases outcome : reconcile driver env r.terminalId r.body r.eventType r.fresh r.now db with
  | error e => exact Std.Refl.refl _
  | ok p =>
      simp only [reconcile] at outcome
      split at outcome
      · exact reconcile_rises legacy outcome
      · cases outcome

theorem run_rises {reports : List Report} (legacy : ∀ r ∈ reports, r.Legacy) :
    Rises db ((reporting driver env).run db reports) := by
  induction reports generalizing db with
  | nil => exact Std.Refl.refl _
  | cons r reports ih =>
      have first : Rises db ((reporting driver env).step db r) :=
        reporting_rises (legacy r List.mem_cons_self)
      exact IsTrans.trans _ _ _ first (ih fun r mem => legacy r (List.mem_cons_of_mem _ mem))

end Rising

section Claim

/-- Whatever metrics the validation lets through, the progress is a pair of shares. -/
def Judgeable (payload : Json) : Prop :=
  validateMetrics payload = .ok () → ∀ overall step, ∃ a b,
    deviceProgress payload overall step = .ok (a, b) ∧ (0 ≤ a ∧ a ≤ 1) ∧ 0 ≤ b ∧ b ≤ 1

theorem judgeable_iff {payload : Json} : Judgeable payload ↔
    (validateMetrics payload = .ok () → payload.get? "stepProgress" ≠ some .null) := by
  constructor
  · intro judgeable valid null
    obtain ⟨a, b, shown, -⟩ := judgeable valid 0 0
    rw [deviceProgress_null null] at shown
    cases shown
  · intro reported valid overall step
    obtain ⟨b, shown⟩ := deviceProgress_ok (reported valid) overall step
    exact ⟨_, _, shown, clamp_range _, clamp_range b⟩

/-- An accepted payload can be applied exactly where none of its values stops a function that
takes them for checked; and the legacy progress never falls. -/
theorem metrics_applicable (driver : Driver) (env : Env) (terminalId : Id) (body : Json)
    (eventType : String) (fresh : FreshRefund) (now : Time) (db : Db) (unused : fresh.Unused db) :
    (Settles driver env terminalId body eventType fresh now db ∧ Judgeable (payloadOf body) ∧
      ∀ (db : Db) (reports : List Report), (∀ r ∈ reports, r.Legacy) →
        Rises db ((reporting driver env).run db reports)) ↔
    Applicable driver db terminalId body eventType := by
  constructor
  · rintro ⟨settles, judgeable, -⟩
    exact applicable_of_settles settles (judgeable_iff.mp judgeable)
  · intro applicable
    exact ⟨settles_of_applicable unused applicable, judgeable_iff.mpr applicable.reported,
      fun db reports legacy => run_rises legacy⟩

/-- The drink is under way. -/
def startedSale : List Action :=
  System.dispatchedSale ++ [System.bareReport "started" "task.started"]

def startedDb : Db := ((System.machine System.shop).run {} startedSale).db

/-- A driver that takes every text and document. -/
def anyDriver : Driver := ⟨fun _ => true, fun _ => true⟩

/-- A step whose progress is explicitly null. -/
def nullStep : Json :=
  .obj [("payload", .obj [("taskId", .str "task"), ("stepProgress", .null)])]

theorem metrics_applicable_nullStep :
    ((Settles anyDriver System.shop 0 nullStep "step.started" (System.freshRefund 1) 1 startedDb ∧
      Judgeable (payloadOf nullStep) ∧
      ∀ (db : Db) (reports : List Report), (∀ r ∈ reports, r.Legacy) →
        Rises db ((reporting anyDriver System.shop).run db reports)) ↔
    Applicable anyDriver startedDb 0 nullStep "step.started") := by
  have empty : startedDb.refunds.rows = [] := by decide +kernel
  refine metrics_applicable _ _ _ _ _ _ _ _ ⟨?_, ?_⟩
  · cases found : startedDb.refunds.find? (System.freshRefund 1).id with
    | none => rfl
    | some r =>
        have mem := Table.mem_of_find? found
        rw [empty] at mem
        cases mem
  · rw [empty]
    intro r mem
    cases mem

/-- The validation accepts the null, and the event ends in a type error at its accepting rows. -/
theorem nullStep_raises :
    ¬ ∀ (driver : Driver) (env : Env) (terminalId : Id) (body : Json) (eventType : String)
      (fresh : FreshRefund) (now : Time) (db : Db),
      Settles driver env terminalId body eventType fresh now db ∧ Judgeable (payloadOf body) ∧
        ∀ (db : Db) (reports : List Report), (∀ r ∈ reports, r.Legacy) →
          Rises db ((reporting driver env).run db reports) := by
  intro claim
  obtain ⟨settles, -, -⟩ := claim anyDriver System.shop 0 nullStep "step.started"
    (System.freshRefund 1) 1 startedDb
  have faulty : (match reconcile anyDriver System.shop 0 nullStep "step.started"
      (System.freshRefund 1) 1 startedDb with
    | .error e => decide e.Fault
    | .ok _ => false) = true := by decide +kernel
  cases outcome : reconcile anyDriver System.shop 0 nullStep "step.started"
      (System.freshRefund 1) 1 startedDb with
  | ok r =>
      rw [outcome] at faulty
      cases faulty
  | error e =>
      rw [outcome] at faulty
      exact not_settles (of_decide_eq_true faulty) outcome settles

end Claim

end ProductionService
end CoffeeCloud
