import CoffeeCloud.Effects.PublicOrders
import CoffeeCloud.Services.Parameters

/-!
What a report of a device does: it moves order, job and command together or
leaves all three, and an order it ends without a drink returns its money.
-/
namespace CoffeeCloud
open Library Tx PublicOrderService

namespace ProductionService
variable {db db' : Db} {now : Time} {env : Env} {order : Order} {job : Job} {command : Command}
  {fresh : FreshRefund} {u : Unit}

theorem ran_lift {α : Type} {x : Except Failure α} {a : α} :
    Ran (lift x) db a db' ↔ x = .ok a ∧ db' = db := by
  cases x with
  | error e => simp [lift]
  | ok b => simp [lift, eq_comm]

/-- An order that reaches its end and then returns its money. -/
theorem died {status : OrderStatus} {key : String} {r : Option Entered} (sound : db.books.Sound)
    (found : db.orders.find? order.id = some order) (automatic : AutomaticKey key)
    (legal : status ∈ orderTransitions order.status) (dead : status.Dead)
    (returns : Returns (Books.setStatus order.id status db.books) db'.books order.id
      order.paidPaymentId key r) :
    db.books.ok AutomaticKey (.die order.id status r) ∧
      (∀ e, r = some e → AutomaticKey e.key) ∧
      db'.books = Books.post (.die order.id status r) db.books := by
  obtain ⟨b, returns, left⟩ := returns_setStatus returns
  refine ⟨die_ok sound (Db.books_order found) automatic returns legal dead, ?_, ?_⟩
  · rintro e rfl
    exact returns.2.1 ▸ automatic
  · rw [left, die_post status returns]

theorem createAutomaticRefundRecord_effect {reason : String} (owns : Owns db.books order)
    (h : Ran (createAutomaticRefundRecord env order job reason fresh now) db u db') :
    db'.floor = db.floor ∧ ∃ r, Returns db.books db'.books order.id order.paidPaymentId
      s!"production:{job.id}:automatic-refund" r := by
  simp only [createAutomaticRefundRecord] at h
  rw [ran_bind] at h
  obtain ⟨x, t, find, h⟩ := h
  obtain ⟨rfl, primary, other⟩ := paymentToReturn_effect find
  cases x with
  | none =>
      simp only [ran_pure] at h
      obtain ⟨-, rfl⟩ := h
      refine ⟨rfl, none, rfl, fun p shown => ?_⟩
      have := primary (by simp [shown])
      simp [shown] at this
  | some p =>
      have shown : order.paidPaymentId.isSome → order.paidPaymentId = some p :=
        fun claimed => (primary claimed).symm
      simp only [PaymentRepository.find, ran_read_bind] at h
      split at h
      · rename_i missing
        simp only [ran_pure] at h
        obtain ⟨-, rfl⟩ := h
        refine ⟨rfl, none, rfl, fun q primary pe hp refundable => ?_⟩
        cases (shown (by simp [primary])).symm.trans primary
        obtain ⟨payment, row, rfl⟩ := (Table.view_eq_some _).mp hp
        have refundable : payment.status ∈ refundablePaymentStatuses := refundable
        simp [row, refundable] at missing
      · simp only [ran_bind, ran_pure] at h
        obtain ⟨x, t', ensured, -, rfl⟩ := h
        refine returned owns ?_ shown ensured
        cases claimed : order.paidPaymentId with
        | none => exact .inr (other claimed p rfl)
        | some q => exact .inl (claimed.symm.trans (shown (by simp [claimed])))

/-- What a report of a device may post: an order moves on, or it dies and its money goes back. -/
def Reports (x : Posting) : Prop := Dies x ∨ ∃ o s, x = .move o s

/-- The one job a floor keeps under a command, an order or a task. -/
theorem first_job {p : Job → Bool} (h : db.jobs.first? p = some job) :
    db.jobs.find? job.id = some job ∧ p job = true :=
  ⟨Table.find?_of_mem (Table.first?_some h).1, (Table.first?_some h).2⟩

/-- No job is bound to a command whose task no job has. -/
theorem free_of_task {terminalId : Id} {taskId : String} {c : Command}
    (none : db.jobs.first? (fun j => j.terminalId = terminalId ∧ j.taskId = taskId) = none)
    (row : db.commands.find? c.id = some c) (here : c.terminalId = terminalId)
    (task : c.taskId = some taskId) (sound : db.floor.Sound) : db.floor.Free c.id := by
  intro k e hk bound
  obtain ⟨ce, hc, -, terminal, same⟩ := sound.bound k e c.id hk bound
  cases (Db.floor_command row).symm.trans hc
  obtain ⟨j, found, rfl⟩ := (Table.view_eq_some _).mp hk
  have other := Table.first?_none.mp none j (Table.mem_of_find? found)
  have terminal : c.terminalId = j.terminalId := terminal
  have same : c.taskId = some j.taskId := same
  simp [← here, terminal, Option.some.inj (task.symm.trans same)] at other

theorem transitionCommand_free {target : CommandStatus} {actor : String} {strict : Bool}
    {r : Command × Bool} {P : Posting → Prop}
    (h : Ran (transitionCommand command target actor strict now) db r db')
    (found : db.commands.find? command.id = some command)
    (free : db.floor.Sound → db.floor.Free command.id) :
    Refines P (fun w => w = .free command.id target) db db' := by
  rcases ran_transitionCommand h with ⟨-, rfl, -⟩ | ⟨-, -, legal, -, _, rfl⟩
  · exact .refl _
  · exact .work (.free command.id target)
      (fun floorSound => ⟨free floorSound, _, Db.floor_command found, legal⟩) rfl
      db.moveCommand_books db.moveCommand_floor

theorem reconcileStandalone_effect {terminalId : Id} {input : EventInput} {kind : EventKind}
    {reply : EventReply}
    (none : db.jobs.first? (fun j => j.terminalId = terminalId ∧ j.taskId = input.taskId) = none)
    (h : Ran (reconcileStandalone terminalId input kind now) db reply db') :
    Refines Reports (fun _ => True) db db' := by
  simp only [reconcileStandalone, CommandRepository.byTask, ran_read_bind] at h
  split at h
  · rename_i command event found
    obtain ⟨mem, mine⟩ := Table.head?_select_some found
    simp only [Bool.and_eq_true, decide_eq_true_eq] at mine
    have row : db.commands.find? command.id = some command := Table.find?_of_mem mem
    simp only [ran_ensure_bind] at h
    obtain ⟨-, h⟩ := h
    rw [ran_ite] at h
    rcases h with ⟨-, h⟩ | ⟨-, h⟩
    · simp only [ran_pure] at h
      exact h.2 ▸ .refl _
    · simp only [ran_bind, ran_pure] at h
      obtain ⟨r, t, transition, -, rfl⟩ := h
      exact (transitionCommand_free transition row (free_of_task none row mine.1.1 mine.1.2)).mono
        (fun _ hx => hx) fun _ _ => trivial
  · simp only [ran_pure] at h
    exact h.2 ▸ .refl _

/-- The three rows an event concerns, as they stand. -/
structure Rows (db : Db) (order : Order) (job : Job) (command : Command) : Prop where
  ordered : db.orders.find? order.id = some order
  queued : db.jobs.find? job.id = some job
  issued : db.commands.find? command.id = some command
  mine : job.orderId = order.id
  bound : job.commandId = some command.id

theorem Rows.coordinate_ok (rows : Rows db order job command) {s : OrderStatus} {j : JobStatus}
    {c : CommandStatus} {revision attempt version : Int}
    (together : Coordinated s (some (j, some c)) = true)
    (gone : j ∉ [.queued, .dispatched])
    (legal : order.status = s ∨ s ∈ orderTransitions order.status) (live : job.status ∉ finalJobs)
    (later : job.lastDeviceRevision ≤ revision) (again : job.executionAttempt ≤ attempt)
    (newer : job.revision < version) (onward : c ≠ .created) :
    db.floor.ok (.coordinate order.id job.id command.id s j c revision attempt version) :=
  ⟨together, gone, order.status, .of job, ⟨_, Db.floor_order rows.ordered, rfl⟩, legal.imp_left Eq.symm,
    Db.floor_job rows.queued, rows.mine, rows.bound, live, later, again, newer, onward⟩

/-- The three rows moved one by one have moved together. -/
theorem coordinate_floor {f : Floor} {o j c : Id} {s : OrderStatus} {t : JobStatus}
    {d : CommandStatus} {revision attempt version : Int} {e : JobEntry} {g : JobEntry → JobEntry}
    (hj : f.jobs j = some e)
    (moved : g e = { e with
      status := t, review := t = .hold, revision, attempt, version
      started := e.started || t = .executing }) :
    Floor.setOrder o s { f with
        jobs := adjust f.jobs j g
        commands := adjust f.commands c fun e => { e with status := d } } =
      Floor.apply (.coordinate o j c s t d revision attempt version) f := by
  simp only [Floor.apply, Floor.setOrder, adjust_of_some hj, moved]

/-- The three rows move together, the device's counters as they were. -/
theorem coordinated_step (rows : Rows db order job command) {W : Work → Prop} {s : OrderStatus}
    {t : JobStatus} {d : CommandStatus} {version : Int} {g : JobEntry → JobEntry}
    (moved : g (.of job) = { JobEntry.of job with status := t, review := t = .hold, version })
    (together : Coordinated s (some (t, some d)) = true) (past : t = .hold ∨ t ∈ finalJobs)
    (legal : order.status = s ∨ s ∈ orderTransitions order.status) (live : job.status ∉ finalJobs)
    (newer : job.revision < version) (onward : d ≠ .created)
    (hW : W (.coordinate order.id job.id command.id s t d job.lastDeviceRevision
      job.executionAttempt version)) :
    Floor.machine.ReachableBy (Works W) db.floor (Floor.setOrder order.id s
      { db.floor with
        jobs := adjust db.floor.jobs job.id g
        commands := adjust db.floor.commands command.id fun e => { e with status := d } }) := by
  have gone : t ∉ [.queued, .dispatched] ∧ t ≠ .executing := by
    revert past
    cases t <;> decide
  have work : Works W db.floor _ :=
    ⟨rows.coordinate_ok together gone.1 legal live le_rfl le_rfl newer onward, hW⟩
  have kept : g (.of job) = { JobEntry.of job with
      status := t, review := t = .hold, revision := job.lastDeviceRevision
      attempt := job.executionAttempt, version
      started := (JobEntry.of job).started || t = .executing } := by
    rw [moved]
    simp [gone.2, JobEntry.of]
  rw [coordinate_floor (Db.floor_job rows.queued) kept]
  exact .single work

theorem markHold_effect {event : TaskEvent} {k : Id} (h : Ran (markHold event k now) db u db') :
    ∃ g : JobEntry → JobEntry, db'.books = db.books ∧
      db'.floor = { db.floor with jobs := adjust db.floor.jobs k g } ∧
      db'.orders = db.orders ∧ db'.commands = db.commands ∧
      ∀ e : JobEntry, e.status = event.jobTarget →
        (e.review = true → event.jobTarget = .hold ∨ event.jobTarget ∈ finalJobs) →
        g e = { e with
          review := event.jobTarget = .hold
          version := e.version + if event.jobTarget = .hold then 1 else 0 } := by
  simp only [markHold] at h
  rw [ran_ite] at h
  rcases h with ⟨hold, h⟩ | ⟨notHold, h⟩
  · obtain ⟨books, floor, orders, commands⟩ :=
      modifyJob_effect (fun e => { e with status := .hold, review := true, version := e.version + 1 })
        h fun _ => rfl
    exact ⟨_, books, floor, orders, commands, fun e same _ => by simp [hold, same ▸ hold]⟩
  · rw [ran_ite] at h
    rcases h with ⟨-, h⟩ | ⟨live, h⟩
    · obtain ⟨books, floor, orders, commands⟩ :=
        modifyJob_effect (fun e => { e with review := false }) h fun _ => rfl
      exact ⟨_, books, floor, orders, commands, fun e _ _ => by simp [notHold]⟩
    · simp only [ran_pure] at h
      obtain ⟨-, rfl⟩ := h
      refine ⟨fun e => e, rfl, by rw [adjust_id], rfl, rfl, fun e _ review => ?_⟩
      have : e.review = false := by
        by_contra asked
        exact (review (by simpa using asked)).elim notHold live
      simp [notHold, ← this]

/-- An order that reaches its next place: it moves on, or it dies and its money goes back. -/
theorem endOrder_effect {target : OrderStatus} {actor reason : String} {c : Prop} [Decidable c]
    {moved : Order} {t : Db} (sound : db.books.Sound)
    (found : db.orders.find? order.id = some order) (live : order.status ∉ finalOrders)
    (legal : order.status = target ∨ target ∈ orderTransitions order.status)
    (dead : c → target.Dead ∧ target ∈ finalOrders)
    (onward : ¬ c → target ∈ [OrderStatus.queued, .dispatched, .accepted, .making, .ready, .hold])
    (transition : Ran (transitionOrder order target actor now) db moved t)
    (back : Ran (Tx.onlyIf c (createAutomaticRefundRecord env moved job reason fresh now)) t u db') :
    Books.machine.ReachableBy (Posts Reports) db.books db'.books ∧
      db'.floor = Floor.setOrder order.id target db.floor := by
  obtain ⟨books, floor⟩ := transitionOrder_effect transition found legal
  obtain ⟨id, primary, -⟩ := transitionOrder_rest transition found
  rw [ran_onlyIf] at back
  rcases back with ⟨lost, back⟩ | ⟨kept, rfl⟩
  · have owns : Owns t.books moved := by
      intro p pe shown hp
      rw [books] at hp
      rw [id]
      exact owns_of_sound sound found p pe (primary ▸ shown) hp
    obtain ⟨still, r, returns⟩ := createAutomaticRefundRecord_effect owns back
    rw [books, id, primary] at returns
    obtain ⟨ok, automatic, posted⟩ := died sound found ⟨job.id, by simp⟩
      (legal.resolve_left fun same => live (same ▸ (dead lost).2)) (dead lost).1 returns
    exact ⟨posted ▸ .single ⟨ok, .inl ⟨_, _, _, rfl, automatic⟩⟩, by rw [still, floor]⟩
  · refine ⟨?_, floor⟩
    rw [books]
    rcases legal with same | legal
    · have stays : Books.setStatus order.id order.status db.books = db.books :=
        Books.setStatus_eq_self (Db.books_order found)
      rw [← same, stays]
      exact .refl _
    · exact .single (a := Posting.move order.id target)
        ⟨⟨_, Db.books_order found, legal, onward kept⟩, .inr ⟨_, _, rfl⟩⟩

theorem finishOrder_effect {event : TaskEvent} {terminalId : Id} {reply : EventReply}
    {k : Order → EventReply} (sound : db.books.Sound)
    (found : db.orders.find? order.id = some order) (live : order.status ∉ finalOrders)
    (allowed : orderTransitionAllowed order.status event.orderTarget = true)
    (h : Ran (do
      let order ← transitionOrder order event.orderTarget "device-event" now
      Tx.onlyIf (event ∈ ([.failed, .rejected, .cancelled] : List TaskEvent))
        (createAutomaticRefundRecord env order job event.type fresh now)
      Tx.onlyIf (event.orderTarget ∈ finalOrders) (requestDispatch terminalId now)
      pure (k order)) db reply db') :
    Books.machine.ReachableBy (Posts Reports) db.books db'.books ∧
      db'.floor = Floor.setOrder order.id event.orderTarget db.floor := by
  rw [ran_bind] at h
  obtain ⟨moved, t, transition, h⟩ := h
  rw [ran_bind] at h
  obtain ⟨_, t₁, back, h⟩ := h
  rw [ran_bind] at h
  obtain ⟨_, t₂, request, h⟩ := h
  simp only [ran_pure] at h
  obtain ⟨-, rfl⟩ := h
  have requested : Same t₁ t₂ := by
    refine follows_onlyIf (fun _ => ?_) _ _ _ request
    exact enqueue_same terminalId
  rw [requested.books, requested.floor]
  refine endOrder_effect sound found live (by simpa [orderTransitionAllowed] using allowed) ?_ ?_
    transition back
  · cases event <;> decide
  · cases event <;> decide

/-- A job after an event, before its hold is marked. -/
def reported (event : TaskEvent) (input : EventInput) (started : Bool) (e : JobEntry) : JobEntry :=
  { e with
    status := event.jobTarget
    revision := max e.revision (input.revision.getD e.revision)
    attempt := max e.attempt (input.attempt.getD e.attempt)
    started := started || event.jobTarget = .executing
    version := e.version + 1 }

theorem jobOutcome_reported {event : TaskEvent} {input : EventInput} {progress step : Rat} (j : Job) :
    JobEntry.of ((jobOutcome event input job progress step now).apply now j) =
      reported event input job.startedAt.isSome (.of j) := by
  simp only [JobEntry.of, OrderRepository.JobOutcome.apply, jobOutcome, reported]
  congr 1
  split
  · rename_i executing
    simp [executing]
  · rename_i other
    simp [other]

/-- What an event makes of the rows that accept it. -/
def reportWork (kind : EventKind) (input : EventInput) (order : Order) (job : Job)
    (command : Command) : Work :=
  let revision := max job.lastDeviceRevision (input.revision.getD job.lastDeviceRevision)
  let attempt := max job.executionAttempt (input.attempt.getD job.executionAttempt)
  match kind with
  | .step => .progress job.id revision attempt (job.revision + 1)
  | .task event =>
      .coordinate order.id job.id command.id event.orderTarget event.jobTarget event.commandTarget
        revision attempt (job.revision + 1 + if event.jobTarget = .hold then 1 else 0)

theorem applyEvent_effect {terminalId : Id} {event : TaskEvent} {input : EventInput}
    {reply : EventReply} (sound : db.books.Sound) (rows : Rows db order job command)
    (live : order.status ∉ finalOrders) (working : job.status ∉ finalJobs)
    (allowed : orderTransitionAllowed order.status event.orderTarget = true)
    (unheld : job.status = .hold → event.jobTarget ∈ finalJobs)
    (h : Ran (applyEvent env terminalId event input order job command fresh now) db reply db') :
    Books.machine.ReachableBy (Posts Reports) db.books db'.books ∧
      (db.floor.Sound → db.floor.ok (reportWork (.task event) input order job command) ∧
        db'.floor = Floor.apply (reportWork (.task event) input order job command) db.floor) := by
  simp only [applyEvent] at h
  rw [ran_bind] at h
  obtain ⟨_, t, code, h⟩ := h
  rw [ran_bind] at h
  obtain ⟨⟨progress, step⟩, t', shown, h⟩ := h
  obtain ⟨-, rfl⟩ := ran_lift.mp code
  obtain ⟨-, rfl⟩ := ran_lift.mp shown
  rw [ran_bind] at h
  obtain ⟨r, t₁, transition, h⟩ := h
  rw [ran_bind] at h
  obtain ⟨_, t₂, update, h⟩ := h
  rw [ran_bind] at h
  obtain ⟨_, t₃, mark, h⟩ := h
  have floor₁ := transitionCommand_effect transition (Db.floor_command rows.issued)
  obtain ⟨books₁, orders₁, jobs₁⟩ := transitionCommand_rest transition
  obtain ⟨books₂, floor₂, orders₂, -⟩ := modifyJob_effect (reported event input job.startedAt.isSome)
    update jobOutcome_reported
  obtain ⟨g, books₃, floor₃, orders₃, -, held⟩ := markHold_effect mark
  have books : t₃.books = t'.books := books₃.trans (books₂.trans books₁)
  have found : t₃.orders.find? order.id = some order := by rw [orders₃, orders₂, orders₁, rows.ordered]
  obtain ⟨posts, floor⟩ := finishOrder_effect (books ▸ sound) found live allowed h
  refine ⟨books ▸ posts, fun floorSound => ⟨?_, ?_⟩⟩
  · refine rows.coordinate_ok ?_ ?_ (by simpa [orderTransitionAllowed] using allowed) working
      (le_max_left _ _) (le_max_left _ _) ?_ ?_
    · cases event <;> rfl
    · cases event <;> decide
    · split <;> omega
    · cases event <;> decide
  · have review := (floorSound.neat _ _ (Db.floor_job rows.queued)).review.mp
    have moved := held (reported event input job.startedAt.isSome (.of job)) rfl fun asked =>
      .inr (unheld (review asked))
    rw [floor, floor₃, floor₂, floor₁, adjust_adjust]
    exact coordinate_floor (g := fun e => g (reported event input job.startedAt.isSome e))
      (Db.floor_job rows.queued) moved

theorem applyStep_effect {input : EventInput} {reply : EventReply}
    (found : db.jobs.find? job.id = some job) (working : job.status = .executing)
    (h : Ran (applyStep input order job now) db reply db') :
    db'.books = db.books ∧ db.floor.ok (reportWork .step input order job command) ∧
      db'.floor = Floor.apply (reportWork .step input order job command) db.floor := by
  simp only [applyStep] at h
  rw [ran_bind] at h
  obtain ⟨⟨progress, step⟩, t, shown, h⟩ := h
  obtain ⟨-, rfl⟩ := ran_lift.mp shown
  simp only [OrderRepository.updateJobProgress, ran_bind, ran_pure] at h
  obtain ⟨_, t', update, -, rfl⟩ := h
  obtain ⟨books, floor, -⟩ := modifyJob_effect (fun e => { e with
      revision := max e.revision (input.revision.getD e.revision)
      attempt := max e.attempt (input.attempt.getD e.attempt)
      version := e.version + 1 }) update fun _ => rfl
  refine ⟨books, ?_, ?_⟩
  · exact ⟨_, Db.floor_job found, working, le_max_left _ _, le_max_left _ _, Int.lt_succ _⟩
  · rw [floor]
    simp only [reportWork, Floor.apply, adjust_of_some (Db.floor_job found)]
    rfl

/-- A held job takes only the events that end it. -/
theorem decideJobEvent_held {event : TaskEvent} {revision : Option Int} {last : Int}
    (allowed : (decideJobEvent .hold event revision last).allowed = true) :
    event.jobTarget ∈ finalJobs := by
  simp only [decideJobEvent] at allowed
  split at allowed
  · simp at allowed
  · split at allowed
    · simp at allowed
    · simpa [finalJobs] using allowed

/-- What an event does that its rows accept. -/
def apply (env : Env) (terminalId : Id) (kind : EventKind) (input : EventInput) (order : Order)
    (job : Job) (command : Command) (fresh : FreshRefund) (now : Time) : Sql EventReply :=
  match kind with
  | .step => applyStep input order job now
  | .task event => applyEvent env terminalId event input order job command fresh now

/-- An event is applied where its rows accept it; else it is answered and that is all. -/
theorem judgeEvent_cases (env : Env) (terminalId : Id) (kind : EventKind) (input : EventInput)
    (order : Order) (job : Job) (command : Command) (fresh : FreshRefund) (now : Time) :
    Accepts kind input order job command ∧
        judgeEvent env terminalId kind input order job command fresh now =
          apply env terminalId kind input order job command fresh now ∨
      ¬ Accepts kind input order job command ∧ ∃ reason,
        judgeEvent env terminalId kind input order job command fresh now =
          pure (.ignored order.id order.status reason (.of command true)) := by
  simp only [judgeEvent]
  split
  · rename_i stale
    refine .inr ⟨fun accepts => ?_, _, rfl⟩
    obtain ⟨n, attempt, low⟩ := (Option.any_eq_true _ _).mp stale
    exact absurd (accepts.attempt n attempt) (not_le.mpr (by simpa using low))
  · rename_i current
    have attempt (n : Int) (h : input.attempt = some n) : job.executionAttempt ≤ n := by
      rw [h] at current
      simpa using current
    split
    · rename_i final
      refine .inr ⟨fun accepts => ?_, _, rfl⟩
      rcases final with order | job | command
      · exact accepts.orderLive order
      · exact accepts.jobLive job
      · exact accepts.commandLive command
    · rename_i live
      simp only [not_or] at live
      cases kind with
      | step =>
          dsimp only
          split
          · rename_i stale
            refine .inr ⟨fun accepts => ?_, _, rfl⟩
            obtain ⟨executing, making, later⟩ := accepts.step rfl
            rcases stale with other | other | low
            · exact other executing
            · exact other making
            · obtain ⟨n, revision, low⟩ := (Option.any_eq_true _ _).mp low
              exact absurd (later n revision) (not_lt.mpr (by simpa using low))
          · rename_i fitting
            simp only [not_or, not_not] at fitting
            refine .inl ⟨⟨attempt, live.1, live.2.1, live.2.2, fun _ => ⟨fitting.1, fitting.2.1, ?_⟩,
              by simp⟩, rfl⟩
            intro n revision
            have later := fitting.2.2
            rw [revision] at later
            simpa using later
      | task event =>
          dsimp only
          split
          · rename_i refused
            refine .inr ⟨fun accepts => ?_, _, rfl⟩
            obtain ⟨allowed, once, -⟩ := accepts.task event rfl
            simp [allowed, once] at refused
          · rename_i decided
            simp only [Bool.or_eq_true, Bool.not_eq_true', not_or, Bool.not_eq_false] at decided
            split
            · rename_i refused
              refine .inr ⟨fun accepts => ?_, _, rfl⟩
              obtain ⟨-, -, order, command⟩ := accepts.task event rfl
              simp [order, command] at refused
            · rename_i legal
              simp only [Bool.or_eq_true, Bool.not_eq_true', not_or, Bool.not_eq_false] at legal
              refine .inl ⟨⟨attempt, live.1, live.2.1, live.2.2, by simp, ?_⟩, rfl⟩
              rintro _ ⟨⟩
              exact ⟨decided.1, by simpa using decided.2, legal⟩

theorem apply_effect {terminalId : Id} {kind : EventKind} {input : EventInput}
    {reply : EventReply} (sound : db.books.Sound) (rows : Rows db order job command)
    (accepts : Accepts kind input order job command)
    (h : Ran (apply env terminalId kind input order job command fresh now) db reply db') :
    Books.machine.ReachableBy (Posts Reports) db.books db'.books ∧
      (db.floor.Sound → db.floor.ok (reportWork kind input order job command) ∧
        db'.floor = Floor.apply (reportWork kind input order job command) db.floor) := by
  cases kind with
  | step =>
      have moved : _ ∧ db.floor.ok (reportWork .step input order job command) ∧ _ :=
        applyStep_effect rows.queued (accepts.step rfl).1 h
      exact ⟨moved.1 ▸ .refl _, fun _ => moved.2⟩
  | task event =>
      obtain ⟨allowed, -, legal, -⟩ := accepts.task event rfl
      exact applyEvent_effect sound rows accepts.orderLive accepts.jobLive legal
        (fun held => decideJobEvent_held (held ▸ allowed)) h

theorem judgeEvent_effect {terminalId : Id} {kind : EventKind} {input : EventInput}
    {reply : EventReply} (sound : db.books.Sound) (rows : Rows db order job command)
    (h : Ran (judgeEvent env terminalId kind input order job command fresh now) db reply db') :
    Refines Reports (fun _ => True) db db' := by
  rcases judgeEvent_cases env terminalId kind input order job command fresh now with
    ⟨accepts, applied⟩ | ⟨-, reason, ignored⟩
  · obtain ⟨posts, left⟩ := apply_effect sound rows accepts (applied ▸ h)
    exact ⟨posts, fun S => (left S).2 ▸ .single ⟨(left S).1, trivial⟩⟩
  · rw [ignored, ran_pure] at h
    exact h.2 ▸ .refl _

theorem reconcileLocated_effect {terminalId : Id} {kind : EventKind} {input : EventInput}
    {located : Job} {reply : EventReply} (sound : db.books.Sound)
    (row : db.jobs.find? located.id = some located)
    (h : Ran (reconcileLocated env terminalId kind input located fresh now) db reply db') :
    Refines Reports (fun _ => True) db db' := by
  simp only [reconcileLocated, OrderRepository.findWithTerminal, OrderRepository.lockJob,
    ran_read_bind, row] at h
  split at h
  · rename_i order job foundOrder foundJob
    cases foundJob
    obtain ⟨foundOrder, -⟩ := Option.filter_eq_some_iff.mp foundOrder
    have mine : order.id = located.orderId := Table.key_of_find? foundOrder
    cases bound : located.commandId with
    | none =>
        simp only [bound, ran_pure] at h
        exact h.2 ▸ .refl _
    | some commandId =>
        simp only [bound, boundCommand, CommandRepository.byDbId, bind_assoc, ran_read_bind,
          ran_require_bind, ran_ensure_bind] at h
        obtain ⟨command, found, -, h⟩ := h
        obtain ⟨found, -⟩ := Option.filter_eq_some_iff.mp found
        have key : command.id = commandId := Table.key_of_find? found
        rw [← mine] at foundOrder
        rw [← key] at found
        exact judgeEvent_effect sound ⟨foundOrder, row, found, mine.symm, key ▸ bound⟩ h
  · simp only [ran_pure] at h
    exact h.2 ▸ .refl _

/-- Whatever a device reports, the order, its job and its command move together or not at all. -/
theorem reconcileDeviceEvent_effect {terminalId : Id} {body : Json} {eventType : String}
    {reply : EventReply} (sound : db.books.Sound)
    (h : Ran (reconcileDeviceEvent env terminalId body eventType fresh now) db reply db') :
    Refines Reports (fun _ => True) db db' := by
  simp only [reconcileDeviceEvent] at h
  rw [ran_ite] at h
  rcases h with ⟨-, h⟩ | ⟨-, h⟩
  · simp only [ran_pure] at h
    exact h.2 ▸ .refl _
  · cases kind? : eventKind? eventType with
    | none =>
        simp only [kind?, ran_pure] at h
        exact h.2 ▸ .refl _
    | some kind =>
        simp only [kind?] at h
        rw [ran_bind] at h
        obtain ⟨input, t, read, h⟩ := h
        obtain ⟨-, rfl⟩ := ran_lift.mp read
        rw [ran_ite] at h
        rcases h with ⟨-, h⟩ | ⟨-, h⟩
        · simp only [ran_pure] at h
          exact h.2 ▸ .refl _
        · simp only [OrderRepository.jobForTask, ran_read_bind] at h
          split at h
          · rename_i none
            exact reconcileStandalone_effect none h
          · rename_i located found
            exact reconcileLocated_effect sound (Table.find?_of_mem (Table.first?_some found).1) h

theorem reconcileOrderAck_effect {terminalId : Id} {taskId : String} {body : Json}
    {reply : EventReply} (sound : db.books.Sound)
    (h : Ran (reconcileOrderAck env terminalId taskId body fresh now) db reply db') :
    Refines Reports (fun _ => True) db db' := by
  simp only [reconcileOrderAck, DeviceMessageRepository.command, ran_require_bind,
    ran_read_bind] at h
  obtain ⟨accepted, -, messageId, -, command, -, h⟩ := h
  exact reconcileDeviceEvent_effect sound h

/-- Stored events are reconciled again one after the other. -/
theorem reconcileStored_effect {p : String → Bool} {fresh : Nat → FreshRefund}
    (sound : db.books.Sound) (h : Ran (reconcileStored env p fresh now) db u db') :
    Refines Reports (fun _ => True) db db' := by
  simp only [reconcileStored, storedEvents, ran_read_bind] at h
  generalize List.zipIdx _ = items at h
  induction items generalizing db with
  | nil =>
      simp only [ran_forEach_nil] at h
      exact h ▸ .refl _
  | cons item items ih =>
      simp only [ran_forEach_cons, ran_bind, ran_pure] at h
      obtain ⟨t, ⟨reply, t', one, -, rfl⟩, rest⟩ := h
      have first := reconcileDeviceEvent_effect sound one
      exact first.trans (ih (first.booksSound sound) (by simpa only [ran_bind, ran_pure] using rest))

end ProductionService
end CoffeeCloud
