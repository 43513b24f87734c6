import CoffeeCloud.Effects.Frames
import CoffeeCloud.Effects.Reports

/-!
What the metrics of an event come to. An event is read, and refused or judged; one
that its rows accept completes, unless a number or a text it carries stops a
function that takes it for checked.
-/
namespace CoffeeCloud
open Library Tx

/-- What the services raise besides a refusal of the request. -/
def Failure.Fault : Failure → Prop
  | .serviceError status _ => ¬ (400 ≤ status ∧ status < 500)
  | _ => True

instance (e : Failure) : Decidable e.Fault :=
  match e with
  | .serviceError status _ => inferInstanceAs (Decidable (¬ (400 ≤ status ∧ status < 500)))
  | .httpException _ _ | .uniqueViolation _ | .checkViolation _ | .exception _ => isTrue trivial

/-- The identifiers a refund would draw are not drawn yet. -/
structure FreshRefund.Unused (fresh : FreshRefund) (db : Db) : Prop where
  id : db.refunds.find? fresh.id = none
  number : ∀ r ∈ db.refunds.rows, r.merchantRefundNo ≠ fresh.merchantRefundNo

namespace ProductionService
variable {db db' : Db} {now : Time} {env : Env} {order : Order} {job : Job} {command : Command}
  {fresh : FreshRefund} {terminalId : Id} {body payload : Json} {eventType : String}
  {kind : EventKind} {input : EventInput}

section Progress

theorem clamp_range (q : Rat) : 0 ≤ clamp q ∧ clamp q ≤ 1 :=
  ⟨le_max_left _ _, max_le (by norm_num) (min_le_left _ _)⟩

theorem le_clamp {q r : Rat} (le : q ≤ r) (one : q ≤ 1) : q ≤ clamp r :=
  (le_min one le).trans (le_max_right _ _)

/-- The overall progress before it is clamped. -/
def overallOf (payload : Json) (overall : Rat) : Rat :=
  (numberField? payload "overallProgress").getD
    (((numberField? payload "progress").map (max overall)).getD overall)

theorem le_overallOf (silent : numberField? payload "overallProgress" = none) (overall : Rat) :
    overall ≤ overallOf payload overall := by
  simp only [overallOf, silent, Option.getD_none]
  cases numberField? payload "progress" with
  | none => exact le_refl _
  | some q => exact le_max_left _ _

theorem deviceProgress_ok (reported : payload.get? "stepProgress" ≠ some .null) (overall step : Rat) :
    ∃ b, deviceProgress payload overall step = .ok (clamp (overallOf payload overall), clamp b) := by
  simp only [deviceProgress, overallOf]
  cases numberField? payload "overallProgress" with
  | none =>
      cases there : payload.get? "stepProgress" with
      | none => exact ⟨_, rfl⟩
      | some value =>
          cases value with
          | null => exact absurd there reported
          | bool _ | int _ | float _ | str _ | arr _ | obj _ => exact ⟨_, rfl⟩
  | some q =>
      cases there : payload.get? "stepProgress" with
      | none => exact ⟨_, rfl⟩
      | some value =>
          cases value with
          | null => exact absurd there reported
          | bool _ | int _ | float _ | str _ | arr _ | obj _ => exact ⟨_, rfl⟩

theorem deviceProgress_null (null : payload.get? "stepProgress" = some .null) (overall step : Rat) :
    deviceProgress payload overall step = .error (.exception "TypeError") := by
  simp only [deviceProgress, null]

end Progress

section Reading

theorem forM_error {α ε : Type} {xs : List α} {f : α → Except ε Unit} {e : ε} :
    xs.forM f = .error e ↔ ∃ before x after, xs = before ++ x :: after ∧
      (∀ y ∈ before, f y = .ok ()) ∧ f x = .error e := by
  induction xs with
  | nil => simp [pure, Except.pure]
  | cons x xs ih =>
      change (f x >>= fun _ => xs.forM f) = .error e ↔ _
      cases here : f x with
      | error e' =>
          constructor
          · intro h
            exact ⟨[], x, xs, rfl, by simp, here.trans h⟩
          · rintro ⟨before, y, after, split, fine, stops⟩
            cases before with
            | nil =>
                cases split
                exact here.symm.trans stops
            | cons z before =>
                cases split
                have ok := fine x (by simp)
                rw [here] at ok
                cases ok
      | ok u =>
          change xs.forM f = .error e ↔ _
          rw [ih]
          constructor
          · rintro ⟨before, y, after, rfl, fine, stops⟩
            refine ⟨x :: before, y, after, rfl, ?_, stops⟩
            intro z mem
            rcases List.mem_cons.mp mem with rfl | mem
            · exact here
            · exact fine z mem
          · rintro ⟨before, y, after, split, fine, stops⟩
            cases before with
            | nil =>
                cases split
                rw [here] at stops
                cases stops
            | cons z before =>
                cases split
                exact ⟨before, y, after, rfl, fun w mem => fine w (List.mem_cons_of_mem _ mem), stops⟩

theorem forM_ok {α ε : Type} {xs : List α} {f : α → Except ε Unit} :
    xs.forM f = .ok () ↔ ∀ x ∈ xs, f x = .ok () := by
  induction xs with
  | nil => simp [pure, Except.pure]
  | cons x xs ih =>
      change (f x >>= fun _ => xs.forM f) = .ok () ↔ _
      cases here : f x with
      | error e =>
          constructor
          · intro h
            cases h
          · intro h
            exact here.symm.trans (h x (by simp))
      | ok u =>
          change xs.forM f = .ok () ↔ _
          rw [ih]
          simp [here]

def textKeys : List String := ["taskId", "messageId", "orderId", "stepId", "stepName", "state"]

def numberKeys : List String :=
  ["overallProgress", "stepProgress", "progress", "plannedDurationSeconds", "elapsedSeconds",
    "remainingSeconds"]

/-- The payload of an event, as it is read. -/
def payloadOf (body : Json) : Json :=
  match body.get? "payload" with
  | some (.obj members) => .obj members
  | _ => .obj []

/-- The first number that is not fine is an integer no float is near. -/
def Oversized (payload : Json) : Prop :=
  validateAttempt payload = .ok () ∧ (∀ key ∈ textKeys, validateText payload key = .ok ()) ∧
    ∃ before key after n, numberKeys = before ++ key :: after ∧
      (∀ k ∈ before, validateNumber payload k = .ok ()) ∧
      payload.field? key = some (.int n) ∧ exceedsFloat n = true

theorem validateNumber_fault {key : String} {e : Failure} (fault : e.Fault) :
    validateNumber payload key = .error e ↔
      e = .exception "OverflowError" ∧ ∃ n, payload.field? key = some (.int n) ∧
        exceedsFloat n = true := by
  simp only [validateNumber]
  have refused (k : String) : ¬ Except.error (.serviceError 422 k) = (.error e : Except Failure Unit) := by
    rintro ⟨⟩
    exact fault (by decide)
  -- The bound itself is of no matter here.
  generalize exceedsFloat = exceeds
  cases payload.field? key with
  | none => simp
  | some value =>
      cases value with
      | int n =>
          cases big : exceeds n with
          | true =>
              simp only [big, if_true, Except.error.injEq, Option.some.injEq, Json.int.injEq]
              constructor
              · rintro rfl
                exact ⟨rfl, n, rfl, big⟩
              · exact fun h => h.1.symm
          | false =>
              by_cases sign : 0 ≤ n
              · simp [big, sign]
              · simpa [big, sign] using refused _
      | float q =>
          by_cases sign : 0 ≤ q
          · simp [sign]
          · simpa [sign] using refused _
      | null | bool _ | str _ | arr _ | obj _ => simpa using refused _

theorem validateText_error {key : String} {e : Failure}
    (h : validateText payload key = .error e) : ¬ e.Fault := by
  simp only [validateText] at h
  split at h
  · cases h
  · cases h
  · cases h
    exact fun fault => fault (by decide)

theorem validateAttempt_error {e : Failure} (h : validateAttempt payload = .error e) :
    ¬ e.Fault := by
  simp only [validateAttempt] at h
  split at h
  · cases h
  · split at h
    · cases h
    · cases h
      decide
  · cases h
    decide

theorem validateFailure_error {e : Failure} (h : validateFailure payload = .error e) :
    ¬ e.Fault := by
  simp only [validateFailure] at h
  split at h
  · cases h
  · cases h
  · cases h
    decide

theorem revision_error {e : Failure} (h : revision payload = .error e) : ¬ e.Fault := by
  simp only [revision] at h
  split at h
  · cases h
  · split at h
    · cases h
    · cases h
      decide
  · cases h
    decide

theorem bind_error {α β ε : Type} {x : Except ε α} {f : α → Except ε β} {e : ε} :
    (x >>= f) = .error e ↔ x = .error e ∨ ∃ a, x = .ok a ∧ f a = .error e := by
  cases x with
  | error e' => simp [bind, Except.bind]
  | ok a => simp [bind, Except.bind]

/-- The metrics are refused for what they say, or an integer is too large to be judged. -/
theorem validateMetrics_fault :
    (∃ e, validateMetrics payload = .error e ∧ e.Fault) ↔ Oversized payload := by
  have unfolded : validateMetrics payload = (validateAttempt payload >>= fun _ =>
      textKeys.forM (validateText payload) >>= fun _ =>
        numberKeys.forM (validateNumber payload) >>= fun _ => validateFailure payload) := rfl
  simp only [unfolded, bind_error]
  constructor
  · rintro ⟨e, refused | ⟨_, attempt, refused | ⟨_, texts, stopped | ⟨_, -, refused⟩⟩⟩, fault⟩
    · exact absurd fault (validateAttempt_error refused)
    · obtain ⟨_, _, _, -, -, refused⟩ := forM_error.mp refused
      exact absurd fault (validateText_error refused)
    · obtain ⟨before, key, after, split, fine, stops⟩ := forM_error.mp stopped
      obtain ⟨-, n, found, huge⟩ := (validateNumber_fault fault).mp stops
      exact ⟨attempt, forM_ok.mp texts, before, key, after, n, split, fine, found, huge⟩
    · exact absurd fault (validateFailure_error refused)
  · rintro ⟨attempt, texts, before, key, after, n, split, fine, found, huge⟩
    have fault : (Failure.exception "OverflowError").Fault := trivial
    refine ⟨_, .inr ⟨(), attempt, .inr ⟨(), forM_ok.mpr texts, .inl ?_⟩⟩, fault⟩
    exact forM_error.mpr ⟨before, key, after, split, fine,
      (validateNumber_fault fault).mpr ⟨rfl, n, found, huge⟩⟩

/-- An event that is read to its metrics and finds one it cannot judge. -/
def Unreadable (body : Json) : Prop :=
  (∃ r, revision (payloadOf body) = .ok r) ∧ Oversized (payloadOf body)

theorem readEvent_eq (body : Json) : readEvent body = (revision (payloadOf body) >>= fun r =>
      validateMetrics (payloadOf body) >>= fun _ =>
        match eventTaskId body with
        | none => .error (.serviceError 422 "taskId is required for production events")
        | some taskId =>
            match body.field? "taskId", textField? (payloadOf body) "taskId" with
            | some outer, some inner =>
                if outer.asStr? = some inner then .ok ⟨payloadOf body, r, taskId⟩
                else .error (.serviceError 409 "conflicting taskId fields")
            | _, _ => .ok ⟨payloadOf body, r, taskId⟩) := rfl

theorem readEvent_fault : (∃ e, readEvent body = .error e ∧ e.Fault) ↔ Unreadable body := by
  simp only [readEvent_eq, bind_error]
  constructor
  · rintro ⟨e, refused | ⟨r, revised, stopped | ⟨_, -, refused⟩⟩, fault⟩
    · exact absurd fault (revision_error refused)
    · exact ⟨⟨r, revised⟩, validateMetrics_fault.mp ⟨e, stopped, fault⟩⟩
    · split at refused
      · cases refused
        exact absurd fault (by decide)
      · split at refused
        · split at refused
          · cases refused
          · cases refused
            exact absurd fault (by decide)
        · cases refused
  · rintro ⟨⟨r, revised⟩, oversized⟩
    obtain ⟨e, stopped, fault⟩ := validateMetrics_fault.mpr oversized
    exact ⟨e, .inr ⟨r, revised, .inl stopped⟩, fault⟩

theorem readEvent_ok (h : readEvent body = .ok input) :
    input.payload = payloadOf body ∧ validateMetrics (payloadOf body) = .ok () := by
  rw [readEvent_eq] at h
  cases revised : revision (payloadOf body) with
  | error e =>
      rw [revised] at h
      cases h
  | ok r =>
      cases valid : validateMetrics (payloadOf body) with
      | error e =>
          rw [revised, valid] at h
          cases h
      | ok u =>
          refine ⟨?_, rfl⟩
          rw [revised, valid] at h
          change (match eventTaskId body with
            | none => _
            | some taskId => _) = _ at h
          split at h
          · cases h
          · split at h
            · split at h
              · cases h
                rfl
              · cases h
            · cases h
              rfl

end Reading

section Judging

theorem searching_iff : searching eventType body = some (kind, input) ↔
    Reads body eventType kind input := by
  simp only [searching]
  by_cases progress : eventType = "task.progress"
  · simp only [if_pos progress, reduceCtorEq, false_iff]
    exact fun reads => reads.lasting progress
  · simp only [if_neg progress]
    cases typed : eventKind? eventType with
    | none =>
        simp only [reduceCtorEq, false_iff]
        intro reads
        exact absurd (typed.symm.trans reads.typed) (by simp)
    | some kind' =>
        cases read : readEvent body with
        | error e =>
            simp only [reduceCtorEq, false_iff]
            intro reads
            exact absurd (read.symm.trans reads.valid) (by simp)
        | ok input' =>
            simp only
            split
            · rename_i unpaused
              simp only [reduceCtorEq, false_iff]
              intro reads
              cases read.symm.trans reads.valid
              exact reads.paused unpaused
            · rename_i paused
              simp only [Option.some.injEq, Prod.mk.injEq]
              constructor
              · rintro ⟨rfl, rfl⟩
                exact ⟨progress, typed, read, paused⟩
              · intro reads
                cases read.symm.trans reads.valid
                cases typed.symm.trans reads.typed
                exact ⟨rfl, rfl⟩

/-- A command that is there moves where the table lets it. -/
theorem transitionCommand_completes (issued : db.commands.find? command.id = some command)
    {target : CommandStatus} {strict : Bool} (actor : String)
    (allowed : strict = true → (decideTransition command.status target).allowed = true) :
    Completes (transitionCommand command target actor strict now) db := by
  simp only [transitionCommand]
  split
  · exact completes_pure _ _
  · split
    · refine completes_bind ?_ fun _ _ _ => completes_pure _ _
      simp only [CommandRepository.transition, CommandRepository.modifyCommand,
        CommandRepository.byDbId]
      refine completes_bind (completes_write _ _) fun _ t wrote => ?_
      refine completes_bind (completes_read _ _) fun found t' there => ?_
      simp only [ran_write] at wrote
      obtain ⟨rfl, rfl⟩ := (ran_read _ _ _ _).mp there
      subst wrote
      refine completes_bind (completes_require_isSome ?_ _ _) fun _ _ _ =>
        completes_bind (completes_write _ _) fun _ _ _ => completes_pure _ _
      rw [Table.find?_modify, if_pos rfl, issued]
      rfl
    · rename_i illegal
      cases strict with
      | true => exact absurd (allowed rfl) illegal
      | false => exact completes_pure _ _

/-- The checks an event fails by, all of them made before the first write. -/
inductive Refuses (db : Db) (terminalId : Id) (body : Json) (eventType : String) :
    Failure → Prop where
  | unread {kind : EventKind} {e : Failure} (lasting : eventType ≠ "task.progress")
      (typed : eventKind? eventType = some kind) (refused : readEvent body = .error e)
      (client : ¬ e.Fault) : Refuses db terminalId body eventType e
  | unowned {kind : EventKind} {input : EventInput} {command : Command}
      (reads : Reads body eventType kind input)
      (jobless : taskJob db terminalId input.taskId = none)
      (found : taskCommand db terminalId input.taskId = some command)
      (other : ¬ (textField? input.payload "messageId").all (· = command.messageId)) :
      Refuses db terminalId body eventType
        (.serviceError 409 "task command association mismatch")
  | unbound {kind : EventKind} {input : EventInput} {job : Job} {commandId : Id}
      (reads : Reads body eventType kind input)
      (located : taskJob db terminalId input.taskId = some job) (bound : job.commandId = some commandId)
      (other : (db.commands.find? commandId).filter (fun c => c.commandType = "MAKE_DRINK" &&
        c.terminalId = terminalId && c.taskId = some input.taskId) = none) :
      Refuses db terminalId body eventType
        (.serviceError 409 "production command association mismatch")
  | unassociated {kind : EventKind} {input : EventInput} {order : Order} {job : Job}
      {command : Command} (reads : Reads body eventType kind input)
      (located : taskJob db terminalId input.taskId = some job)
      (rows : Rows db order job command)
      (other : ¬ ((textField? input.payload "messageId").all (· = command.messageId) ∧
        (textField? input.payload "orderId").all (· = toString order.id))) :
      Refuses db terminalId body eventType (.serviceError 409 "task event association mismatch")

theorem Refuses.client {e : Failure} (refuses : Refuses db terminalId body eventType e) :
    ¬ e.Fault := by
  cases refuses with
  | unread _ _ _ client => exact client
  | unowned | unbound | unassociated => exact fun fault => fault (by decide)

/-- An error that comes from none of these checks. -/
def Unchecked (db : Db) (terminalId : Id) (body : Json) (eventType : String) (e : Failure) : Prop :=
  ¬ Refuses db terminalId body eventType e

theorem Refuses.checked {e : Failure} (refuses : Refuses db terminalId body eventType e) :
    ¬ Unchecked db terminalId body eventType e := not_not.mpr refuses

/-- Where no rows accept the event, it is answered or fails one of its checks. -/
theorem reconcile_judged (reads : Reads body eventType kind input)
    (quiet : ∀ order job command, Concerns db terminalId input order job command →
      ¬ Accepts kind input order job command) :
    Avoids (Unchecked db terminalId body eventType)
      (reconcileDeviceEvent env terminalId body eventType fresh now) db := by
  intro e h
  rw [reconcile_reads reads] at h
  revert h
  cases located : taskJob db terminalId input.taskId with
  | none =>
      refine (?_ : Avoids (Unchecked db terminalId body eventType)
        (reconcileStandalone terminalId input kind now) db) e
      simp only [reconcileStandalone, CommandRepository.byTask]
      refine avoids_bind (avoids_read _ _) fun found t read => ?_
      obtain ⟨first, rfl⟩ := (ran_read _ _ _ _).mp read
      split
      · rename_i command event
        obtain ⟨mem, mine⟩ := Table.head?_select_some first
        refine avoids_bind (avoids_ensure_of (fun other => Refuses.checked
          (.unowned reads located first other)) _) fun _ t ensured => ?_
        obtain ⟨-, rfl⟩ := (ran_ensure _ _ _ _ _).mp ensured
        split
        · exact avoids_pure _ _
        · exact avoids_bind (transitionCommand_completes (Table.find?_of_mem mem) _
            (by simp)).avoids fun _ _ _ => avoids_pure _ _
      · exact avoids_pure _ _
  | some job =>
      refine (?_ : Avoids (Unchecked db terminalId body eventType)
        (reconcileLocated env terminalId kind input job fresh now) db) e
      simp only [reconcileLocated, OrderRepository.findWithTerminal, OrderRepository.lockJob]
      refine avoids_bind (avoids_read _ _) fun found t read => ?_
      obtain ⟨rfl, rfl⟩ := (ran_read _ _ _ _).mp read
      refine avoids_bind (avoids_read _ _) fun row t read => ?_
      obtain ⟨rfl, rfl⟩ := (ran_read _ _ _ _).mp read
      split
      · rename_i order job' foundOrder foundJob
        have same : job' = job := Option.some.inj (foundJob.symm.trans (taskJob_some located).1)
        subst same
        obtain ⟨ordered, hosted⟩ := Option.filter_eq_some_iff.mp foundOrder
        have mine : order.id = job'.orderId := Table.key_of_find? ordered
        rw [← mine] at ordered
        cases bound : job'.commandId with
        | none => exact avoids_pure _ _
        | some commandId =>
            simp only [boundCommand, CommandRepository.byDbId, bind_assoc]
            refine avoids_bind (avoids_read _ _) fun issued t read => ?_
            obtain ⟨rfl, rfl⟩ := (ran_read _ _ _ _).mp read
            refine avoids_bind (avoids_require_of (fun other => Refuses.checked
              (.unbound reads located bound other)) _) fun command t required => ?_
            obtain ⟨there, rfl⟩ := (ran_require _ _ _ _ _).mp required
            obtain ⟨issued, production⟩ := Option.filter_eq_some_iff.mp there
            have key : command.id = commandId := Table.key_of_find? issued
            rw [← key] at issued bound
            have rows : Rows db order job' command := ⟨ordered, foundJob, issued, mine.symm, bound⟩
            refine avoids_bind (avoids_ensure_of (fun other => Refuses.checked
              (.unassociated reads located rows other)) _) fun _ t ensured => ?_
            obtain ⟨associated, rfl⟩ := (ran_ensure _ _ _ _ _).mp ensured
            rcases judgeEvent_cases env terminalId kind input order job' command fresh now with
              ⟨accepts, -⟩ | ⟨-, reason, ignored⟩
            · exact absurd accepts (quiet _ _ _ ⟨located, hosted, rows, production, associated⟩)
            · rw [ignored]
              exact avoids_pure _ _
      · exact avoids_pure _ _

end Judging

end ProductionService
end CoffeeCloud
