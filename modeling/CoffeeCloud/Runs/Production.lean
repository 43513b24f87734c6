import CoffeeCloud.Runs
import CoffeeCloud.Effects.Reports

/-!
Where an order, its job and the job's command stand together in every state, and
that an order only moves along its table whoever writes it.
-/
namespace CoffeeCloud
open Library Tx

/-- The command a job is bound to. -/
def Db.commandOf (db : Db) (job : Job) : Option Command := job.commandId.bind db.commands.find?

/-- Orders, jobs and commands stand together, and no event finds them otherwise. -/
structure Db.InStep (db : Db) : Prop where
  job : ∀ j job, db.jobs.find? j = some job → ∃ order, db.orders.find? job.orderId = some order ∧
    Coordinated order.status (some (job.status, (db.commandOf job).map (·.status))) = true
  bound : ∀ j job, db.jobs.find? j = some job → job.commandId.isSome → (db.commandOf job).isSome
  single : ∀ j j' job job', db.jobs.find? j = some job → db.jobs.find? j' = some job' →
    job.orderId = job'.orderId → j = j'
  jobless : ∀ o order, db.orders.find? o = some order →
    (∀ j job, db.jobs.find? j = some job → job.orderId ≠ o) → Coordinated order.status none = true
  review : ∀ j job, db.jobs.find? j = some job →
    (job.manualReviewRequired = true ↔ job.status = .hold)
  admits : ∀ j job order command (event : TaskEvent) revision last, db.jobs.find? j = some job →
    db.orders.find? job.orderId = some order → db.commandOf job = some command →
    (decideJobEvent job.status event revision last).allowed = true →
    orderTransitionAllowed order.status event.orderTarget = true ∧
      (decideTransition command.status event.commandTarget).allowed = true

theorem Db.commandStatus_of (db : Db) (job : Job) :
    db.floor.commandStatus (.of job) = (db.commandOf job).map (·.status) := by
  simp only [Floor.commandStatus, JobEntry.of, commandOf]
  cases job.commandId with
  | none => rfl
  | some c =>
      simp only [Option.bind_some, Db.floor, Table.view, Option.map_map]
      rfl

/-- Where an order and the command of a job that is under way stand. -/
theorem coordinated_active {s : OrderStatus} {j : JobStatus} {c : CommandStatus}
    (together : Coordinated s (some (j, some c)) = true) (active : j ∈ activeJobs) :
    (j = .dispatched ∧ s = .dispatched ∧ c ∈ [.created, .delivering, .published]) ∨
    (j = .accepted ∧ s = .accepted ∧ c = .acked) ∨
    (j ∈ [.executing, .paused, .retryWait] ∧ s = .making ∧ c = .executing) ∨
    (j = .hold ∧ s = .hold ∧ c = .unknown) := by
  simp only [activeJobs, List.mem_cons, List.not_mem_nil, or_false] at active
  revert together
  rcases active with rfl | rfl | rfl | rfl | rfl | rfl | rfl <;> cases s <;>
    first
      | (simp [Coordinated]; done)
      | (cases c <;> decide)

/-- What an event that is allowed asks of the job: a held one takes only an end. -/
theorem decideJobEvent_takes {j : JobStatus} {event : TaskEvent} {revision : Option Int} {last : Int}
    (allowed : (decideJobEvent j event revision last).allowed = true) :
    j ∈ [JobStatus.hold, .unknown] ∧ event.jobTarget ∈ finalJobs ∨
      j ∉ [JobStatus.hold, .unknown] ∧ event.accepts j = true := by
  simp only [decideJobEvent] at allowed
  split at allowed
  · simp at allowed
  · split at allowed
    · simp at allowed
    · split at allowed
      · simp at allowed
      · split at allowed
        · rename_i held
          exact .inl ⟨held, of_decide_eq_true allowed⟩
        · rename_i free
          split at allowed
          · simp at allowed
          · exact .inr ⟨free, allowed⟩

/-- Where the three stand together, an event the job takes is one the other two take. -/
theorem coordinated_admits {s : OrderStatus} {j : JobStatus} {c : CommandStatus} {event : TaskEvent}
    {revision : Option Int} {last : Int} (together : Coordinated s (some (j, some c)) = true)
    (allowed : (decideJobEvent j event revision last).allowed = true) :
    orderTransitionAllowed s event.orderTarget = true ∧
      (decideTransition c event.commandTarget).allowed = true := by
  have takes := decideJobEvent_takes allowed
  have active : j ∈ activeJobs := by
    revert takes
    cases event <;> cases j <;> decide
  revert takes
  rcases coordinated_active together active with ⟨rfl, rfl, issued⟩ | ⟨rfl, rfl, rfl⟩ |
    ⟨making, rfl, rfl⟩ | ⟨rfl, rfl, rfl⟩
  · simp only [List.mem_cons, List.not_mem_nil, or_false] at issued
    rcases issued with rfl | rfl | rfl <;> cases event <;> decide
  · cases event <;> decide
  · simp only [List.mem_cons, List.not_mem_nil, or_false] at making
    rcases making with rfl | rfl | rfl <;> cases event <;> decide
  · cases event <;> decide

namespace System
variable {env : Env} {s : System}

theorem Sound.inStep (sound : s.Sound) : s.db.InStep where
  job j job found := by
    obtain ⟨status, ⟨e, ho, stands⟩, together⟩ := sound.floor.coordinated j _ (Db.floor_job found)
    obtain ⟨order, row, rfl⟩ := (Table.view_eq_some _).mp ho
    rw [Db.commandStatus_of] at together
    exact ⟨order, row, (show order.status = status from stands) ▸ together⟩
  bound j job found issued := by
    obtain ⟨c, issued⟩ := Option.isSome_iff_exists.mp issued
    obtain ⟨e, hc, -⟩ := sound.floor.bound j _ c (Db.floor_job found) issued
    obtain ⟨command, row, -⟩ := (Table.view_eq_some _).mp hc
    simp [Db.commandOf, issued, row]
  single j j' job job' found found' same :=
    sound.floor.oneJob j j' _ _ (Db.floor_job found) (Db.floor_job found') same
  jobless o order found none := by
    refine sound.floor.jobless o order.status ⟨_, Db.floor_order found, rfl⟩ ?_
    intro j e hj mine
    obtain ⟨job, row, rfl⟩ := (Table.view_eq_some _).mp hj
    exact none j job row mine
  review j job found := (sound.floor.neat j _ (Db.floor_job found)).review
  admits j job order command event revision last found ordered issued allowed := by
    obtain ⟨status, ⟨e, ho, stands⟩, together⟩ := sound.floor.coordinated j _ (Db.floor_job found)
    cases (Db.floor_order ordered).symm.trans ho
    rw [Db.commandStatus_of, issued] at together
    exact coordinated_admits ((show order.status = status from stands) ▸ together) allowed

/-- Whatever was done to an empty shop, its orders, jobs and commands stand together. -/
theorem run_inStep (as : List Action) : ((machine env).run {} as).db.InStep :=
  (sound_run sound_empty as).inStep

end System

/-- The order stays where it is or goes along one edge of the table. -/
def OrderStatus.Goes (s t : OrderStatus) : Prop := t = s ∨ t ∈ orderTransitions s

/-- What is left of an order's life: an end is never left, FAILED only for REFUNDED. -/
def OrderStatus.Ends (s t : OrderStatus) : Prop :=
  (s ∈ [.ready, .cancelled, .expired, .refunded] → t = s) ∧
    (s = .failed → t ∈ [OrderStatus.failed, .refunded])

theorem OrderStatus.Ends.refl (s : OrderStatus) : s.Ends s := by
  refine ⟨fun _ => rfl, ?_⟩
  rintro rfl
  decide

theorem OrderStatus.Ends.goes {s t u : OrderStatus} (h : s.Ends t) (goes : t.Goes u) :
    s.Ends u := by
  have stays (finished : t ∈ [OrderStatus.ready, .cancelled, .expired, .refunded]) : u = t := by
    refine goes.resolve_right ?_
    revert finished
    cases t <;> simp [orderTransitions]
  constructor
  · intro finished
    have same := h.1 finished
    exact (stays (same ▸ finished)).trans same
  · intro failed
    rcases List.mem_cons.mp (h.2 failed) with rfl | refunded
    · rcases goes with rfl | moved
      · exact List.mem_cons_self
      · exact List.mem_cons_of_mem _ moved
    · rw [stays (List.mem_cons_of_mem _ (List.mem_cons_of_mem _ (List.mem_cons_of_mem _ refunded)))]
      exact h.2 failed

/-- Every order stays where it is or goes along one edge of the table. -/
def Db.Legal (db db' : Db) : Prop := ∀ o order, db.orders.find? o = some order →
  ∃ order', db'.orders.find? o = some order' ∧ order.status.Goes order'.status

theorem Db.legal_refl (db : Db) : db.Legal db := fun _ order found => ⟨order, found, .inl rfl⟩

theorem Db.legal_of_floor {db db' : Db} (moves : ∀ o e, db.floor.orders o = some e →
    ∃ e', db'.floor.orders o = some e' ∧ e.status.Goes e'.status) : db.Legal db' := by
  intro o order found
  obtain ⟨e', ho, moved⟩ := moves o _ (Db.floor_order found)
  obtain ⟨order', found', rfl⟩ := (Table.view_eq_some _).mp ho
  exact ⟨order', found', moved⟩

theorem Db.legal_work {db db' : Db} (h : db'.floor = db.floor ∨
    ∃ w, db.floor.ok w ∧ db'.floor = Floor.apply w db.floor) : db.Legal db' := by
  refine Db.legal_of_floor fun o e ho => ?_
  rcases h with same | ⟨w, ok, same⟩
  · exact ⟨e, same ▸ ho, .inl rfl⟩
  · obtain ⟨e', ho', -, moved⟩ := Floor.apply_order ok ho
    exact ⟨e', same ▸ ho', moved.imp_right And.left⟩

/-- What an action replays at a start of the service, where it does. -/
def Action.replay? : Action → Option ((String → Bool) × (Nat → FreshRefund) × Time)
  | .replayCommandEvents fresh now => some
      ((· ∈ ["task.started", "task.succeeded", "task.failed", "task.cancelled"]), fresh, now)
  | .replayOrderEvents fresh now =>
      some (fun t => t.startsWith "task." || t.startsWith "step.", fresh, now)
  | _ => none

/-- The actions that reconcile what a device reported. -/
def Action.Reconciles : Action → Bool
  | .event .. | .taskAck .. | .replayCommandEvents .. | .replayOrderEvents .. => true
  | _ => false

/-- Where an action other than a report may send an order. -/
def Action.sends : Action → List OrderStatus
  | .createPayment .. => [.awaitingPayment]
  | .paymentCreated .. | .callback .. | .closeIntents .. => [.paid]
  | .cancel .. => [.cancelled]
  | .adjudicate .. => [.ready, .failed, .cancelled, .expired]
  | .poll .. | .expireCommand .. => [.hold, .expired]
  | .expireUnpaid .. => [.expired]
  | .outboxBatch .. => [.queued]
  | .processDispatch .. => [.dispatched]
  | .reconcilePayment .. => [.paid, .cancelled]
  | .recordRefund .. => [.refunded]
  | .holdOverdue .. => [.hold]
  | _ => []

/-- Where two edges lead through places an action sends orders to, one edge does. -/
theorem Action.sends_short (a : Action) (s t u : OrderStatus) (edge : t ∈ orderTransitions s)
    (edge' : u ∈ orderTransitions t) (ht : t ∈ a.sends) (hu : u ∈ a.sends) :
    u ∈ orderTransitions s := by
  have apart {K : List OrderStatus} (h : ∀ t ∈ K, ∀ u ∈ K, u ∉ orderTransitions t) (ht : t ∈ K)
      (hu : u ∈ K) : u ∈ orderTransitions s := absurd edge' (h t ht u hu)
  cases a with
  | reconcilePayment =>
      simp only [sends, List.mem_cons, List.not_mem_nil, or_false] at ht hu
      rcases ht with rfl | rfl
      · rcases hu with rfl | rfl
        · exact absurd edge' (by decide)
        · revert edge
          cases s <;> decide
      · simp [orderTransitions] at edge'
  | _ =>
      simp only [sends] at ht hu
      exact apart (by decide) ht hu

/-- An action sends orders nowhere else. -/
theorem Action.works_send {a : Action} {tickets : List Ticket} {f : Floor} {w : Work}
    {t : OrderStatus} (quiet : a.Reconciles = false) (sound : f.Sound)
    (hw : CoffeeCloud.Works (a.Works tickets) f w) (sent : w.target = some t) : t ∈ a.sends := by
  obtain ⟨ok, hw⟩ := hw
  have lapses {c : Nat} (h : w.Lapses c) : t ∈ [OrderStatus.hold, .expired] := by
    cases w with
    | coordinate =>
        cases sent
        exact h.2
    | free | revoke => cases sent
    | _ => exact h.elim
  cases a with
  | setTerminal =>
      cases hw
      cases sent
  | createOrder =>
      rcases hw with ⟨o, t, rfl⟩ | ⟨o, j, t, k, rfl⟩ <;> cases sent
  | createPayment | paymentCreated | callback | closeIntents | expireUnpaid | recordRefund =>
      obtain ⟨o, rfl⟩ := hw
      cases sent
      exact List.mem_singleton.mpr rfl
  | cancel =>
      obtain ⟨o, rfl | ⟨j, rfl⟩⟩ := hw <;> cases sent <;> exact List.mem_singleton.mpr rfl
  | adjudicate =>
      cases w with
      | coordinate o j c order job command revision attempt version =>
          cases sent
          have unrefunded := Floor.coordinate_unrefunded sound ok
          have finished : t ∈ finalOrders := hw.2
          simp only [sends]
          revert unrefunded finished
          cases t <;> decide
      | rule => cases sent
      | _ => exact hw.elim
  | createRaw | createAdmin | claimCommands | published | retryPublish | commandResult =>
      cases w with
      | issue | enclose | claim | publish | retry | handOver | free => cases sent
      | _ => exact hw.elim
  | poll =>
      obtain ⟨candidate, -, polls | h⟩ := hw
      · cases w with
        | handOver => cases sent
        | _ => exact polls.elim
      · exact lapses h
  | expireCommand =>
      obtain ⟨c, -, h⟩ := hw
      exact lapses h
  | outboxBatch =>
      obtain ⟨o, j, t, k, rfl⟩ := hw
      cases sent
      exact List.mem_singleton.mpr rfl
  | processDispatch =>
      cases w with
      | dispatch =>
          cases sent
          exact List.mem_singleton.mpr rfl
      | enclose => cases sent
      | _ => exact hw.elim
  | reconcilePayment =>
      obtain ⟨o, rfl | rfl⟩ := hw
      · cases sent
        exact List.mem_cons_self
      · cases sent
        exact List.mem_cons_of_mem _ List.mem_cons_self
  | holdOverdue =>
      obtain ⟨o, j, -, h⟩ := hw
      cases w with
      | coordinate =>
          cases sent
          exact List.mem_singleton.mpr h.2
      | _ => exact h.elim
  | cleanupHistory =>
      obtain ⟨x, rfl⟩ := hw
      cases sent
  | event | taskAck | replayCommandEvents | replayOrderEvents => cases quiet
  | _ => exact hw.elim

namespace System
variable {env : Env} {s : System}

/-- A replay is a run of its stored events, or it raised and left everything as it was. -/
theorem step_replays {a : Action} {p : String → Bool} {fresh : Nat → FreshRefund} {now : Time}
    (replays : a.replay? = some (p, fresh, now)) :
    (machine env).step s a = s ∨
      (ProductionService.replaying env now).Along (ProductionService.Passes env now) s.db
          (ProductionService.replayed s.db p fresh) ∧
        (ProductionService.replaying env now).run s.db
          (ProductionService.replayed s.db p fresh) = ((machine env).step s a).db := by
  rcases step_cases env s a with ⟨answer, tickets, db', ran, next⟩ | ⟨e, -, next⟩
  · simp only [Machine.step, next]
    cases a <;> cases replays
    all_goals
      obtain ⟨⟨_, ran⟩, -⟩ := ran_quiet ran
      exact .inr (ProductionService.ran_reconcileStored.mp ran)
  · exact .inl (by simp only [Machine.step, next])

/-- Along a replay every event finds books and floor sound, and moves each order along one edge at
most. -/
theorem replay_legal {now : Time} {items : List (TerminalEvent × FreshRefund)} {db : Db}
    (books : db.books.Sound) (floor : db.floor.Sound)
    (along : (ProductionService.replaying env now).Along (ProductionService.Passes env now) db items) :
    (ProductionService.replaying env now).Along
      (fun db item => db.Legal ((ProductionService.replaying env now).step db item)) db items := by
  have sound := Machine.along_of_invariant
    (I := fun db => db.books.Sound ∧ db.floor.Sound) (fun db item sound passes => by
      obtain ⟨reply, ran⟩ := ProductionService.passes_iff.mpr ⟨passes, rfl⟩
      have refines := ProductionService.reconcileDeviceEvent_effect sound.1 ran
      exact ⟨refines.booksSound sound.1, refines.floorSound sound.2⟩) ⟨books, floor⟩ along
  refine Machine.along_mono _ (fun db item here => ?_) sound
  obtain ⟨reply, ran⟩ := ProductionService.passes_iff.mpr ⟨here.2, rfl⟩
  exact Db.legal_work (ProductionService.reconcile_work here.1.1 here.1.2 ran)

/-- One transaction moves an order along one edge at most. -/
theorem step_legal (sound : s.Sound) {a : Action} (once : a.replay? = none) :
    s.db.Legal ((machine env).step s a).db := by
  cases reports : a.Reconciles with
  | false =>
      have refines : Refines a.Posts (a.Works s.tickets) s.db ((machine env).step s a).db :=
        step_refines sound a
      refine Db.legal_of_floor fun o e ho => ?_
      obtain ⟨e', ho', -, moved⟩ := refines.order sound.floor a.sends
        (fun f w t hf hw sent => a.works_send reports hf hw sent) a.sends_short ho
      exact ⟨e', ho', moved.imp_right And.left⟩
  | true =>
      rcases step_cases env s a with ⟨answer, tickets, db', ran, next⟩ | ⟨e, -, next⟩
      · simp only [Machine.step, next]
        cases a with
        | event terminalId e fresh now =>
            obtain ⟨⟨_, ran⟩, -⟩ := ran_quiet ran
            rcases DeviceMessageService.event_cases ran with
              rfl | ⟨-, -, t, reply, mid, before, reconciled, after⟩
            · exact Db.legal_refl _
            · refine Db.legal_work ?_
              rw [after.same.floor, ← before.same.floor]
              exact ProductionService.reconcile_work (before.same.books ▸ sound.books)
                (before.same.floor ▸ sound.floor) reconciled
        | taskAck terminalId taskId ack fresh now =>
            obtain ⟨⟨_, ran⟩, -⟩ := ran_quiet ran
            simp only [DeviceMessageService.taskAck, ProductionService.reconcileOrderAck,
              DeviceMessageRepository.command, ran_require_bind, ran_read_bind] at ran
            obtain ⟨accepted, -, messageId, -, command, -, ran⟩ := ran
            exact Db.legal_work (ProductionService.reconcile_work sound.books sound.floor ran)
        | replayCommandEvents | replayOrderEvents => cases once
        | _ => cases reports
      · simp only [Machine.step, next]
        exact Db.legal_refl _

/-- Whatever is done, each action moves an order along one edge at most, as does each event of a
replay; an order at its end stays there, a failed one may still be refunded; and a job at its end
stays there, its device revision and attempt never falling. -/
theorem lifecycle (as : List Action) (a : Action) (bs : List Action) :
    (a.replay? = none →
      ((machine env).run {} as).db.Legal ((machine env).run {} (as ++ [a])).db) ∧
    (∀ p fresh now, a.replay? = some (p, fresh, now) →
      (machine env).run {} (as ++ [a]) = (machine env).run {} as ∨
        (ProductionService.replaying env now).Along
            (fun db item => db.Legal ((ProductionService.replaying env now).step db item))
            ((machine env).run {} as).db
            (ProductionService.replayed ((machine env).run {} as).db p fresh) ∧
          (ProductionService.replaying env now).run ((machine env).run {} as).db
              (ProductionService.replayed ((machine env).run {} as).db p fresh) =
            ((machine env).run {} (as ++ [a])).db) ∧
    (∀ o order, ((machine env).run {} as).db.orders.find? o = some order →
      ∃ order', ((machine env).run {} (as ++ bs)).db.orders.find? o = some order' ∧
        order.status.Ends order'.status) ∧
    ∀ j job, ((machine env).run {} as).db.jobs.find? j = some job →
      ∃ job', ((machine env).run {} (as ++ bs)).db.jobs.find? j = some job' ∧
        (job.status ∈ finalJobs → job'.status = job.status) ∧
        job.lastDeviceRevision ≤ job'.lastDeviceRevision ∧
        job.executionAttempt ≤ job'.executionAttempt := by
  have sound : ((machine env).run {} as).Sound := sound_run sound_empty as
  simp only [Machine.run_append, Machine.run_cons, Machine.run_nil]
  have refines : Refines _ _ _ ((machine env).run ((machine env).run {} as) bs).db :=
    run_refines sound bs
  refine ⟨fun once => step_legal sound once, fun p fresh now replays => ?_, fun o order found => ?_,
    fun j job found => ?_⟩
  · refine (step_replays replays).imp_right fun ran => ⟨?_, ran.2⟩
    exact replay_legal sound.books sound.floor ran.1
  · obtain ⟨e', ho', ends⟩ := (refines.floor sound.floor).invariant
      (I := fun f => ∃ e', f.orders o = some e' ∧ order.status.Ends e'.status)
      ⟨_, Db.floor_order found, .refl _⟩ <| by
        rintro f w ⟨e', ho', ends⟩ hw
        obtain ⟨e'', ho'', -, moved⟩ := Floor.apply_order hw.1 ho'
        exact ⟨e'', ho'', ends.goes (moved.imp_right And.left)⟩
    obtain ⟨order', row, rfl⟩ := (Table.view_eq_some _).mp ho'
    exact ⟨order', row, ends⟩
  · obtain ⟨e', hj', onward⟩ := refines.job sound.floor (Db.floor_job found)
    obtain ⟨job', row, rfl⟩ := (Table.view_eq_some _).mp hj'
    exact ⟨job', row, fun final => congrArg JobEntry.status (onward.final final), onward.revision,
      onward.attempt⟩

end System
end CoffeeCloud
