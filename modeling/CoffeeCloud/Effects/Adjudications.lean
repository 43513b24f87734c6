import CoffeeCloud.Effects.Production
import CoffeeCloud.Services.Adjudications

/-!
An adjudication ends the three rows of a held order at once and files its answer,
or it finds the answer to the same request on file.
-/
namespace CoffeeCloud
open Library Tx PublicOrderService ProductionService

/-- The work of an adjudication of order `o`. -/
def Work.Adjudicates (o : Nat) : Work → Prop
  | .coordinate o' _ _ order _ _ _ _ _ => o' = o ∧ order ∈ finalOrders
  | .rule _ => True
  | _ => False

namespace OrderAdjudicationService
variable {db db' : Db} {now : Time} {env : Env} {order : Order} {job : Job} {command : Command}
  {fresh : FreshRefund} {r : Request} {result : Adjudication}

/-- A job as its adjudication writes it, its review still marked. -/
def adjudicated (outcome : Outcome) (started : Bool) (e : JobEntry) : JobEntry :=
  { e with status := outcome.jobStatus, started, version := e.version + 1 }

theorem jobOutcome_adjudicated (outcome : Outcome) (j : Job) :
    JobEntry.of ((jobOutcome outcome job now).apply now j) =
      adjudicated outcome job.startedAt.isSome (.of j) := by
  simp [JobEntry.of, OrderRepository.JobOutcome.apply, jobOutcome, adjudicated]

/-- The three rows end together, and the answer names the revision the job has then. -/
theorem resolve_effect (sound : db.books.Sound) (rows : Rows db order job command)
    (held : order.status = .hold) (working : job.status ∉ finalJobs)
    (h : Ran (resolve env r order job command fresh now) db result db') :
    Books.machine.ReachableBy (Posts Reports) db.books db'.books ∧
      db.floor.ok (.coordinate order.id job.id command.id r.outcome.orderStatus
        r.outcome.jobStatus r.outcome.commandStatus job.lastDeviceRevision job.executionAttempt
        (job.revision + 1)) ∧
      db.adjudications.find? (r.orderId, r.key) = none ∧
      db'.floor = Floor.apply (.rule (.of result))
        (Floor.apply (.coordinate order.id job.id command.id r.outcome.orderStatus
          r.outcome.jobStatus r.outcome.commandStatus job.lastDeviceRevision job.executionAttempt
          (job.revision + 1)) db.floor) ∧
      result.orderId = r.orderId ∧ result.idempotencyKey = r.key ∧
      result.requestDigest = r.digest ∧ result.productionRevision = job.revision + 1 := by
  simp only [resolve] at h
  rw [ran_bind] at h
  obtain ⟨c, t₁, transition, h⟩ := h
  rw [ran_bind] at h
  obtain ⟨_, t₂, update, h⟩ := h
  rw [ran_bind] at h
  obtain ⟨_, t₃, clear, h⟩ := h
  rw [ran_bind] at h
  obtain ⟨moved, t₄, ended, h⟩ := h
  rw [ran_bind] at h
  obtain ⟨_, t₅, back, h⟩ := h
  simp only [OrderRepository.terminalForUpdate, ran_read_bind] at h
  rw [ran_bind] at h
  obtain ⟨_, t₆, request, h⟩ := h
  simp only [AdjudicationRepository.insert, bind_assoc, ran_read_bind, ran_ensure_bind,
    ran_write_bind, ran_pure, id_eq, Option.isNone_iff_eq_none] at h
  obtain ⟨unfiled, rfl, rfl⟩ := h
  have requested := enqueue_same _ _ _ _ request
  have floor₁ := transitionCommand_effect transition (Db.floor_command rows.issued)
  obtain ⟨books₁, orders₁, -⟩ := transitionCommand_rest transition
  obtain ⟨books₂, floor₂, orders₂, -⟩ := modifyJob_effect
    (adjudicated r.outcome job.startedAt.isSome) update (jobOutcome_adjudicated r.outcome)
  obtain ⟨books₃, floor₃, orders₃, -⟩ := modifyJob_effect (fun e => { e with review := false })
    clear fun _ => rfl
  have books : t₃.books = db.books := books₃.trans (books₂.trans books₁)
  have found : t₃.orders.find? order.id = some order := by
    rw [orders₃, orders₂, orders₁, rows.ordered]
  have legal : r.outcome.orderStatus ∈ orderTransitions order.status := by
    rw [held]
    cases r.outcome <;> decide
  have live : order.status ∉ finalOrders := by
    rw [held]
    decide
  obtain ⟨posts, floor⟩ := endOrder_effect (books ▸ sound) found live (.inr legal)
    (fun lost => by cases h : r.outcome <;> simp [h] at lost; all_goals decide)
    (fun kept => by cases h : r.outcome <;> simp [h] at kept; decide) ended back
  have moved : { adjudicated r.outcome job.startedAt.isSome (.of job) with review := false } =
      { JobEntry.of job with
        status := r.outcome.jobStatus, review := r.outcome.jobStatus = .hold
        revision := job.lastDeviceRevision, attempt := job.executionAttempt
        version := job.revision + 1
        started := (JobEntry.of job).started || r.outcome.jobStatus = .executing } := by
    cases r.outcome <;> simp [adjudicated, JobEntry.of, Outcome.jobStatus]
  have done := coordinate_floor (f := db.floor) (o := order.id) (c := command.id)
    (s := r.outcome.orderStatus) (d := r.outcome.commandStatus)
    (g := fun e => { adjudicated r.outcome job.startedAt.isSome e with review := false })
    (Db.floor_job rows.queued) moved
  have left : t₆.floor = Floor.apply (.coordinate order.id job.id command.id
      r.outcome.orderStatus r.outcome.jobStatus r.outcome.commandStatus job.lastDeviceRevision
      job.executionAttempt (job.revision + 1)) db.floor := by
    rw [requested.floor, floor, floor₃, floor₂, floor₁, adjust_adjust]
    exact done
  have rulings : t₆.floor.rulings = db.floor.rulings := by rw [left]; rfl
  refine ⟨?_, ?_, ?_, ?_, rfl, rfl, rfl, rfl⟩
  · have same : t₆.books = t₅.books := requested.books
    change Books.machine.ReachableBy (Posts Reports) db.books t₆.books
    rw [same, ← books]
    exact posts
  · refine rows.coordinate_ok ?_ ?_ (.inr legal) working le_rfl le_rfl (Int.lt_succ _) ?_
    · cases r.outcome <;> rfl
    · cases r.outcome <;> decide
    · cases r.outcome <;> decide
  · have unruled : t₆.floor.rulings (r.orderId, r.key) = none :=
      (Table.view_eq_none Ruling.of).mpr unfiled
    rw [rulings] at unruled
    exact (Table.view_eq_none Ruling.of).mp unruled
  · rw [← left]
    simp only [Db.floor, Floor.apply]
    congr 1
    exact Table.view_insert Ruling.of unfiled

/-- A request is answered from the file, or it ends an order that waits for it. -/
theorem adjudicate_cases (h : Ran (adjudicate env r fresh now) db result db') :
    (db' = db ∧ db.adjudications.find? (r.orderId, r.key) = some result ∧
        result.requestDigest = r.digest) ∨
      db.adjudications.find? (r.orderId, r.key) = none ∧
        ∃ order job command, Rows db order job command ∧ order.id = r.orderId ∧
          order.status = .hold ∧ job.status = .hold ∧ job.revision = r.expectedRevision ∧
          Ran (resolve env r order job command fresh now) db result db' := by
  simp only [adjudicate, OrderRepository.findWithTerminal, AdjudicationRepository.find,
    ran_ensure_bind, ran_read_bind, ran_require_bind] at h
  obtain ⟨-, order, found, h⟩ := h
  obtain ⟨found, -⟩ := Option.filter_eq_some_iff.mp found
  cases filed : db.adjudications.find? (r.orderId, r.key) with
  | some previous =>
      simp only [filed, ran_ensure_bind, ran_pure] at h
      obtain ⟨same, rfl, rfl⟩ := h
      exact .inl ⟨rfl, rfl, same⟩
  | none =>
      simp only [filed, OrderRepository.job, ran_read_bind, ran_require_bind, ran_ensure_bind] at h
      obtain ⟨job, foundJob, expected, ⟨onHold, held, -⟩, h⟩ := h
      obtain ⟨foundJob, -⟩ := Option.filter_eq_some_iff.mp foundJob
      obtain ⟨row, mine⟩ := first_job foundJob
      rw [ran_bind] at h
      obtain ⟨command, t, heldCommand, h⟩ := h
      simp only [ran_ensure_bind] at h
      obtain ⟨-, h⟩ := h
      have key : order.id = r.orderId := Table.key_of_find? found
      simp only [OrderAdjudicationService.heldCommand, CommandRepository.byDbId] at heldCommand
      cases bound : job.commandId with
      | none => simp [bound] at heldCommand
      | some commandId =>
          simp only [bound, ran_read_bind, ran_require] at heldCommand
          obtain ⟨issued, rfl⟩ := heldCommand
          obtain ⟨issued, -⟩ := Option.filter_eq_some_iff.mp issued
          have commandKey : command.id = commandId := Table.key_of_find? issued
          refine .inr ⟨rfl, order, job, command, ?_, key, onHold, held, expected, h⟩
          exact
            { ordered := by rw [key, found], queued := row, issued := by rw [commandKey, issued]
              mine := by rw [key]; simpa using mine, bound := by rw [bound, commandKey] }

theorem adjudicate_effect (sound : db.books.Sound)
    (h : Ran (adjudicate env r fresh now) db result db') :
    Refines Reports (Work.Adjudicates r.orderId) db db' := by
  rcases adjudicate_cases h with ⟨rfl, -⟩ | ⟨-, order, job, command, rows, key, onHold, held, -, h⟩
  · exact .refl _
  · have live : job.status ∉ finalJobs := by
      rw [held]
      decide
    obtain ⟨posts, ok, unfiled, left, filed, keyed, -⟩ := resolve_effect sound rows onHold live h
    refine ⟨posts, fun _ => ?_⟩
    have finished : r.outcome.orderStatus ∈ finalOrders := by cases r.outcome <;> decide
    have ended : Works (Work.Adjudicates r.orderId) db.floor _ := ⟨ok, key, finished⟩
    have unruled : db.floor.rulings (result.orderId, result.idempotencyKey) = none := by
      rw [filed, keyed]
      exact (Table.view_eq_none Ruling.of).mpr unfiled
    rw [left]
    refine Machine.ReachableBy.trans (.single ended) (.single (a := Work.rule (.of result)) ?_)
    exact ⟨unruled, trivial⟩

end OrderAdjudicationService
end CoffeeCloud
