import CoffeeCloud.Effects.Collected
import CoffeeCloud.Effects.Recorded
import CoffeeCloud.Runs

/-!
The histories over whole runs. The log of the commands is faithful whatever
happens. The timeline of the orders is faithful as long as no order that waits for
its money is written over: the statements that record money or the end of an
intent set its status without an entry.
-/
namespace CoffeeCloud
open Library Tx PublicOrderService ProductionService

/-- The step sets the status of an order that waits for its money, and enters nothing. -/
def System.Silences (s : System) : Action → Prop
  | .callback provider eventId values .. => s.db.MarksPaid provider eventId values
  | .paymentCreated ticket answer .. => ∃ payment, s.tickets[ticket]? = some (.payment payment) ∧
      answer.status = "PAID" ∧ s.db.MarksPaid payment.provider
        s!"query-paid:{payment.merchantPaymentNo}"
        (PaymentApplicationService.queriedPaid payment.merchantPaymentNo payment.amountMinor answer)
  | .closeIntents ticket answers _ => ∃ orderId intents,
      s.tickets[ticket]? = some (.cancelled orderId intents) ∧
        ∃ c ∈ answers.filterMap (CloseAnswer.closed? intents), s.db.Settles c
  | .reconcilePayment ticket answer .. => ∃ payment,
      s.tickets[ticket]? = some (.reconcile payment) ∧
        (answer.status = "PAID" ∧ s.db.MarksPaid payment.provider
            s!"reconcile-paid:{payment.merchantPaymentNo}"
            (PaymentApplicationService.queriedPaid payment.merchantPaymentNo payment.amountMinor
              answer) ∨
          s.db.ClosesOut payment answer.status)
  | _ => False

namespace System
variable {env : Env} {s : System} {db' : Db} {answer : Answer} {tickets : List Ticket}

theorem setTerminal_recorded (terminal : Terminal) : Follows Recorded (setTerminal terminal) :=
  follows_untouched fun _ => ⟨rfl, rfl, rfl, rfl⟩

theorem setMerchantAccount_recorded (account : MerchantAccount) :
    Follows Recorded (setMerchantAccount account) :=
  follows_untouched fun _ => ⟨rfl, rfl, rfl, rfl⟩

/-- The table: every action keeps the histories, or it silences an order and keeps the commands. -/
theorem action_recorded {a : Action}
    (h : Ran (body env s.tickets a) s.db (answer, tickets) db') :
    Recorded s.db db' ∨ s.Silences a ∧ KeepsCommands s.db db' := by
  by_cases loud : s.Silences a
  · refine .inr ⟨loud, ?_⟩
    cases a with
    | callback provider eventId values fresh outboxId now =>
        obtain ⟨_, ran, -⟩ := ran_paid h
        exact applyPaidCallback_commands _ _ _ _ _ _ _ ran
    | paymentCreated ticket said fresh outboxId now =>
        obtain ⟨payment, located, -⟩ := loud
        simp only [body, located] at h
        obtain ⟨⟨_, ran⟩, -⟩ := ran_quiet h
        exact created_commands _ _ _ _ _ _ ran
    | closeIntents ticket answers now =>
        obtain ⟨orderId, intents, located, -⟩ := loud
        simp only [body, located] at h
        split at h
        · exact (ran_nothing h).2.2 ▸ .refl _
        · obtain ⟨⟨_, ran⟩, -⟩ := ran_quiet h
          exact closeIntents_commands _ _ _ _ _ ran
    | reconcilePayment ticket said fresh outboxId now =>
        obtain ⟨payment, located, -⟩ := loud
        simp only [body, located] at h
        obtain ⟨⟨_, ran⟩, -⟩ := ran_quiet h
        exact reconcilePayment_commands _ _ _ _ _ _ ran
    | _ => exact loud.elim
  · left
    cases a with
    | setTerminal terminal =>
        obtain ⟨⟨_, ran⟩, -⟩ := ran_quiet h
        exact setTerminal_recorded _ _ _ _ ran
    | setMerchantAccount account =>
        obtain ⟨⟨_, ran⟩, -⟩ := ran_quiet h
        exact setMerchantAccount_recorded _ _ _ _ ran
    | createOrder r mode admitted fresh now =>
        obtain ⟨⟨_, ran⟩, -⟩ := ran_quiet h
        exact create_recorded ran
    | createPayment r paymentId merchantNo now =>
        obtain ⟨_, ran, -⟩ := ran_leaving h
        exact createPayment_recorded ran
    | callback provider eventId values fresh outboxId now =>
        obtain ⟨_, ran, -⟩ := ran_paid h
        exact (applyPaidCallback_keepsStatus loud ran).recorded
    | paymentCreated ticket said fresh outboxId now =>
        simp only [body] at h
        split at h
        · rename_i payment located
          obtain ⟨⟨_, ran⟩, -⟩ := ran_quiet h
          exact (created_keepsStatus (fun paid marks => loud ⟨payment, located, paid, marks⟩)
            ran).recorded
        · exact (ran_nothing h).2.2 ▸ .refl _
    | cancel orderId token fresh now =>
        obtain ⟨_, ran, -⟩ := ran_leaving h
        exact cancel_recorded ran
    | closeIntents ticket answers now =>
        simp only [body] at h
        split at h
        · rename_i orderId intents located
          split at h
          · exact (ran_nothing h).2.2 ▸ .refl _
          · obtain ⟨⟨_, ran⟩, -⟩ := ran_quiet h
            exact (closeIntents_keepsStatus
              (fun c hc settles => loud ⟨orderId, intents, located, c, hc, settles⟩) ran).recorded
        · exact (ran_nothing h).2.2 ▸ .refl _
    | refund paymentId key reason amount fresh now =>
        obtain ⟨⟨_, ran⟩, -⟩ := ran_quiet h
        exact (refund_keepsStatus _ _ _ _ _ _ _ ran).recorded
    | merchantRefund orderId key reason amount fresh now =>
        obtain ⟨⟨_, ran⟩, -⟩ := ran_quiet h
        exact (merchantRefund_keepsStatus _ _ _ _ _ _ _ ran).recorded
    | adjudicate r fresh now =>
        obtain ⟨⟨_, ran⟩, -⟩ := ran_quiet h
        exact adjudicate_recorded ran
    | createRaw r fresh now =>
        obtain ⟨⟨_, ran⟩, -⟩ := ran_quiet h
        exact insertCommand_recorded ran
    | createAdmin r key fresh clock now =>
        obtain ⟨⟨_, ran⟩, -⟩ := ran_quiet h
        exact createAdmin_recorded ran
    | claimCommands gatewayId picks now =>
        simp only [body] at h
        rw [ran_bind] at h
        obtain ⟨rows, t, ran, h⟩ := h
        simp only [ran_pure] at h
        exact h.2 ▸ (claim_keepsStatus _ _ _ _ _ _ ran).recorded
    | published outboxId gatewayId now =>
        obtain ⟨⟨_, ran⟩, -⟩ := ran_quiet h
        exact published_recorded ran
    | retryPublish outboxId gatewayId now =>
        obtain ⟨⟨_, ran⟩, -⟩ := ran_quiet h
        exact (retry_keepsStatus _ _ _ _ _ ran).recorded
    | pollCandidates terminalId cursor limit =>
        obtain ⟨_, ran, -⟩ := ran_leaving h
        simp only [DeviceMessageRepository.commandsAfter, ran_read] at ran
        exact ran.2 ▸ .refl _
    | poll ticket clock clock' fresh now =>
        simp only [body] at h
        split at h
        · rw [ran_bind] at h
          obtain ⟨polled, t, ran, h⟩ := h
          simp only [ran_pure] at h
          exact h.2 ▸ pollCandidate_recorded ran
        · exact (ran_nothing h).2.2 ▸ .refl _
    | event terminalId e fresh now =>
        obtain ⟨⟨_, ran⟩, -⟩ := ran_quiet h
        exact event_recorded ran
    | taskAck terminalId taskId ack fresh now =>
        obtain ⟨⟨_, ran⟩, -⟩ := ran_quiet h
        exact reconcileOrderAck_recorded ran
    | commandResult terminalId messageId status now =>
        obtain ⟨⟨_, ran⟩, -⟩ := ran_quiet h
        exact commandResult_recorded ran
    | markOffline clock =>
        obtain ⟨⟨_, ran⟩, -⟩ := ran_quiet h
        exact markOffline_recorded _ _ _ _ ran
    | expireUnpaid picks now =>
        obtain ⟨⟨_, ran⟩, -⟩ := ran_quiet h
        exact expireUnpaid_recorded ran
    | expiredCommands now =>
        obtain ⟨_, ran, -⟩ := ran_leaving h
        simp only [WorkerRepository.expiredCommands, ran_read] at ran
        exact ran.2 ▸ .refl _
    | expireCommand ticket clock fresh now =>
        simp only [body] at h
        split at h
        · rw [ran_bind] at h
          obtain ⟨verdict, t, ran, h⟩ := h
          simp only [ran_pure] at h
          exact h.2 ▸ expireOrderForCommand_recorded ran
        · exact (ran_nothing h).2.2 ▸ .refl _
    | outboxBatch picks disturbed fresh now =>
        obtain ⟨⟨_, ran⟩, -⟩ := ran_quiet h
        exact outboxBatch_recorded _ _ _ _ _ _ ran
    | claimDispatch pick now =>
        obtain ⟨_, ran, -⟩ := ran_leaving h
        exact (claimDispatch_keepsStatus _ _ _ _ ran).recorded
    | processDispatch ticket fresh now =>
        simp only [body] at h
        split at h
        · obtain ⟨⟨_, ran⟩, -⟩ := ran_quiet h
          exact processDispatch_recorded ran
        · exact (ran_nothing h).2.2 ▸ .refl _
    | retryDispatch ticket now =>
        simp only [body] at h
        split at h
        · obtain ⟨⟨_, ran⟩, -⟩ := ran_quiet h
          exact (modifyRequests_keepsStatus _ _ _ _ ran).recorded
        · exact (ran_nothing h).2.2 ▸ .refl _
    | repairDispatch limit now =>
        obtain ⟨⟨_, ran⟩, -⟩ := ran_quiet h
        exact (repairMissing_keepsStatus _ _ _ _ ran).recorded
    | claimPayment pick now =>
        obtain ⟨_, ran, -⟩ := ran_leaving h
        exact (claimPayment_keepsStatus _ _ _ _ ran).recorded
    | reconcilePayment ticket said fresh outboxId now =>
        simp only [body] at h
        split at h
        · rename_i payment located
          obtain ⟨⟨_, ran⟩, -⟩ := ran_quiet h
          exact (reconcilePayment_keepsStatus
            (fun paid marks => loud ⟨payment, located, .inl ⟨paid, marks⟩⟩)
            (fun closes => loud ⟨payment, located, .inr closes⟩) ran).recorded
        · exact (ran_nothing h).2.2 ▸ .refl _
    | claimRefund pick now =>
        obtain ⟨_, ran, -⟩ := ran_leaving h
        exact (claimRefund_keepsStatus _ _ _ _ ran).recorded
    | recordRefund ticket said now =>
        simp only [body] at h
        split at h
        · obtain ⟨⟨_, ran⟩, -⟩ := ran_quiet h
          exact recordRefund_recorded ran
        · exact (ran_nothing h).2.2 ▸ .refl _
    | watchdogScan now =>
        obtain ⟨_, ran, -⟩ := ran_leaving h
        simp only [WorkerRepository.watchdogRows, ran_read] at ran
        exact ran.2 ▸ .refl _
    | holdOverdue ticket clock now =>
        simp only [body] at h
        split at h
        · obtain ⟨⟨_, ran⟩, -⟩ := ran_quiet h
          exact holdOverdueJob_recorded ran
        · exact (ran_nothing h).2.2 ▸ .refl _
    | cleanupHistory events business outbox now =>
        obtain ⟨⟨_, ran⟩, -⟩ := ran_quiet h
        exact cleanupHistory_recorded _ _ _ _ _ _ ran
    | replayCommandEvents fresh now =>
        obtain ⟨⟨_, ran⟩, -⟩ := ran_quiet h
        exact reconcileStored_recorded ran
    | replayOrderEvents fresh now =>
        obtain ⟨⟨_, ran⟩, -⟩ := ran_quiet h
        exact reconcileStored_recorded ran

/-- The log of the commands stays faithful, whatever the step. -/
theorem logged_step (a : Action) (logged : s.db.Logged) : ((machine env).step s a).db.Logged := by
  rcases step_cases env s a with ⟨answer, tickets, db', ran, next⟩ | ⟨e, -, next⟩
  · simp only [Machine.step, next]
    rcases action_recorded ran with recorded | ⟨-, kept⟩
    · exact recorded.logged logged
    · exact kept.logged logged
  · simp only [Machine.step, next]
    exact logged

theorem timeline_step {a : Action} (quiet : ¬ s.Silences a)
    (faithful : s.db.timeline.Faithful OrderLegal) :
    ((machine env).step s a).db.timeline.Faithful OrderLegal := by
  rcases step_cases env s a with ⟨answer, tickets, db', ran, next⟩ | ⟨e, -, next⟩
  · simp only [Machine.step, next]
    rcases action_recorded ran with recorded | ⟨loud, -⟩
    · exact recorded.timeline faithful
    · exact absurd loud quiet
  · simp only [Machine.step, next]
    exact faithful

theorem timeline_empty : ({} : Db).timeline.Faithful OrderLegal := by
  refine Chronicle.faithful_of (fun _ _ => rfl) fun k s there => ?_
  simp [Db.timeline, Table.view] at there

theorem logged_empty : ({} : Db).Logged := by
  refine ⟨Chronicle.faithful_of (fun _ _ => rfl) fun k s there => ?_, fun k c found => ?_⟩
  · simp [Db.commandLog, Table.view] at there
  · simp at found

end System

/-- The timeline of every order leads, entry by entry, to where the order is. -/
def Db.TimelinesConnected (db : Db) : Prop :=
  ∀ k order, db.orders.find? k = some order →
    Connected OrderLegal (db.timeline.entries k) order.status

/-- The log of every command leads, entry by entry, to where the command is, the command counts
its changes, and no two entries share their number. -/
def Db.LogsConnected (db : Db) : Prop :=
  (∀ k command, db.commands.find? k = some command →
    Connected CommandLegal (db.commandLog.entries k) command.status ∧
      (db.commandLog.entries k).length = command.revision + 1) ∧
    (db.commandTransitions.map fun t => (t.commandId, t.revision)).Nodup

namespace System
variable {env : Env}

/-- In a run in which no order that waits for its money is written over, every timeline is
connected in every state. -/
theorem timelines_connected {as : List Action}
    (quiet : (machine env).Along (fun s a => ¬ s.Silences a) {} as) :
    (machine env).Always (fun s => s.db.TimelinesConnected) {} as := by
  have faithful := Machine.invariant_always (M := machine env) (s := {})
    (I := fun s => s.db.timeline.Faithful OrderLegal)
    (fun s a faithful quiet => timeline_step quiet faithful) timeline_empty quiet
  refine Machine.always_mono (fun s faithful k order found => ?_) faithful
  exact (faithful.chain (Table.view_of_find? _ found)).connected

/-- An order made for nothing and handed to the robot. -/
def freeDispatch : List Action :=
  [ .setTerminal
      { id := 0, deviceId := "robot", connectionStatus := "online", lastHeartbeatAt := some 0 },
    .createOrder
      { identifier := "robot", paymentMode := .testFree, idempotencyKey := "order"
        requestDigest := "digest", accessToken := "token" }
      .testFree (.ok espresso) ⟨0, 0, "task"⟩ 0,
    .claimDispatch 0 0,
    .processDispatch 0 ⟨0, "message", "digest", 0⟩ 0 ]

theorem timelines_connected_freeDispatch :
    (((machine shop).run {} freeDispatch).db.timeline.entries 0).map (·.after) =
        [.queued, .dispatched] ∧
      (machine shop).Always (fun s => s.db.TimelinesConnected) {} freeDispatch :=
  ⟨by decide +kernel, timelines_connected ⟨id, id, id, id, trivial⟩⟩

/-- A sale: the order is paid, and its timeline ends where it waited for the money. -/
theorem sale_silent : ¬ ((machine shop).run {} sale).db.TimelinesConnected := by
  intro connected
  obtain ⟨order, found, paid⟩ := (Option.any_eq_true (fun o : Order => o.status = .paid)
    (((machine shop).run {} sale).db.orders.find? 0)).mp (by decide +kernel)
  obtain ⟨rest, last, entries, ends⟩ := (connected 0 order found).closing
  have waits : ((((machine shop).run {} sale).db.timeline.entries 0).map (·.after)).getLast? =
      some .awaitingPayment := by decide +kernel
  rw [entries] at waits
  have paid : order.status = .paid := by simpa using paid
  simp [ends, paid] at waits

/-- Whatever is done, the log of every command is connected in every state. -/
theorem logs_connected (env : Env) (as : List Action) :
    (machine env).Always (fun s => s.db.LogsConnected) {} as := by
  have logged := Machine.invariant_always (M := machine env) (P := fun _ _ => True) (s := {})
    (I := fun s => s.db.Logged) (fun s a logged _ => logged_step a logged) logged_empty
    (Machine.along_true _ _ as)
  refine Machine.always_mono (fun s logged => ⟨fun k command found => ⟨?_, ?_⟩, ?_⟩) logged
  · exact (logged.faithful.chain (Table.view_of_find? _ found)).connected
  · exact logged.counted k command found
  · have distinct := logged.faithful.distinct
    simpa only [Db.commandLog, List.map_map, Function.comp_def] using distinct

end System
end CoffeeCloud
