import CoffeeCloud.Effects.Adjudications
import CoffeeCloud.Effects.BackgroundWorker
import CoffeeCloud.Effects.DeviceMessages

/-!
What every action does to the books and the floor, in one table, and from it
what holds in every state of every run.
-/
namespace CoffeeCloud
open Library Tx PublicOrderService ProductionService

namespace Action

/-- The postings an action may make. -/
def Posts : Action → Posting → Prop
  | .createOrder .. => fun x => ∃ o s p, x = .openOrder o s p
  | .createPayment .. => PaymentApplicationService.Opens
  | .paymentCreated .. => PaymentApplicationService.Created
  | .callback .. => Collect
  | .cancel .. | .expireUnpaid .. => Dies
  | .closeIntents .. => Closes
  | .refund _ key .. => PaymentApplicationService.Requests key
  | .merchantRefund _ key .. => PaymentApplicationService.Requests ("merchant:" ++ key)
  | .adjudicate .. | .poll .. | .event .. | .taskAck .. | .expireCommand .. | .processDispatch ..
  | .holdOverdue .. | .replayCommandEvents .. | .replayOrderEvents .. => Reports
  | .outboxBatch .. => BackgroundWorkerService.Processes
  | .reconcilePayment .. => BackgroundWorkerService.Reconciles
  | .claimRefund .. | .recordRefund .. => Outcome
  | .cleanupHistory .. => fun x => ∃ e, x = .purge e
  | _ => fun _ => False

/-- The work an action may do, given the tickets at hand. -/
def Works (tickets : List Ticket) : Action → Work → Prop
  | .setTerminal terminal => fun w => w = .register terminal.id
  | .createOrder .. => Takes
  | .createPayment .. => fun w => ∃ o, w = .jobless o .awaitingPayment
  | .paymentCreated .. | .callback .. | .closeIntents .. => fun w => ∃ o, w = .jobless o .paid
  | .cancel .. => fun w => ∃ o, w = .jobless o .cancelled ∨ ∃ j, w = .cancelQueued o j
  | .adjudicate r .. => Work.Adjudicates r.orderId
  | .createRaw .. | .createAdmin .. => Work.Issues
  | .claimCommands .. | .published .. | .retryPublish .. => Work.Publishes
  | .poll ticket .. => fun w => ∃ candidate, tickets[ticket]? = some (.poll candidate) ∧
      (w.Polls candidate.id ∨ w.Lapses candidate.id)
  | .event .. | .taskAck .. | .replayCommandEvents .. | .replayOrderEvents .. => fun _ => True
  | .commandResult .. => Work.Answers
  | .expireUnpaid .. => fun w => ∃ o, w = .jobless o .expired
  | .expireCommand ticket .. => fun w => ∃ c, tickets[ticket]? = some (.expiry c) ∧ w.Lapses c
  | .outboxBatch .. => BackgroundWorkerService.Queues
  | .processDispatch .. => Work.Dispatches
  | .reconcilePayment .. => fun w => ∃ o, w = .jobless o .paid ∨ w = .jobless o .cancelled
  | .recordRefund .. => fun w => ∃ o, w = .refunded o
  | .holdOverdue ticket .. => fun w => ∃ o j, tickets[ticket]? = some (.overdue o j) ∧ w.Holds j
  | .cleanupHistory .. => fun w => ∃ x, w = .discard x
  | _ => fun _ => False

end Action

/-- What a ticket promises stays true of the database. -/
def Db.Backs (db : Db) : Ticket → Prop
  | .cancelled orderId intents => ∀ i ∈ intents, db.books.ClosingAt orderId i.id
  | .overdue orderId jobId => ∃ e, db.floor.jobs jobId = some e ∧ e.order = orderId
  | _ => True

namespace System
variable {env : Env} {s : System} {db' : Db} {answer : Answer} {tickets : List Ticket}
  {α : Type} {m : Sql α} {db : Db}

/-- What holds in every state. -/
structure Sound (s : System) : Prop where
  books : s.db.books.Sound
  floor : s.db.floor.Sound
  filed : s.db.floor.Filed
  backed : ∀ t ∈ s.tickets, s.db.Backs t

theorem ran_quiet (h : Ran (quiet m) db (answer, tickets) db') :
    (∃ a, Ran m db a db') ∧ answer = .done ∧ tickets = [] := by
  simp only [quiet, ran_bind, ran_pure, Prod.mk.injEq] at h
  obtain ⟨a, t, ran, ⟨rfl, rfl⟩, rfl⟩ := h
  exact ⟨⟨a, ran⟩, rfl, rfl⟩

theorem ran_leaving {f : α → List Ticket} (h : Ran (leaving m f) db (answer, tickets) db') :
    ∃ a, Ran m db a db' ∧ answer = .done ∧ tickets = f a := by
  simp only [leaving, ran_bind, ran_pure, Prod.mk.injEq] at h
  obtain ⟨a, t, ran, ⟨rfl, rfl⟩, rfl⟩ := h
  exact ⟨a, ran, rfl, rfl⟩

theorem ran_paid {m : Sql (Payment × Bool)} (h : Ran (paid m) db (answer, tickets) db') :
    ∃ r, Ran m db r db' ∧ answer = .paid r.1.id r.2 ∧ tickets = [] := by
  simp only [paid, ran_bind, ran_pure, Prod.mk.injEq] at h
  obtain ⟨r, t, ran, ⟨rfl, rfl⟩, rfl⟩ := h
  exact ⟨r, ran, rfl, rfl⟩

theorem ran_nothing (h : Ran nothing db (answer, tickets) db') :
    answer = .done ∧ tickets = [] ∧ db' = db := by
  simp only [nothing, ran_pure, Prod.mk.injEq] at h
  exact ⟨h.1.1.symm, h.1.2.symm, h.2.symm⟩

theorem setTerminal_effect {terminal : Terminal} {u : Unit} {P : Posting → Prop}
    (h : Ran (setTerminal terminal) db u db') :
    Refines P (fun w => w = .register terminal.id) db db' := by
  simp only [setTerminal, ran_write] at h
  subst h
  refine .work (.register terminal.id) (fun _ => trivial) rfl rfl ?_
  simp only [Db.floor, Floor.apply]
  congr 1
  funext i
  split
  · rename_i new
    rw [Table.find?_insert _ _ _ (Option.isNone_iff_eq_none.mp new)]
    change (if i = terminal.id then some terminal else db.terminals.find? i).isSome = _
    split <;> simp_all
  · rename_i old
    rw [Table.find?_modifyWhere]
    by_cases same : i = terminal.id
    · subst same
      simpa [Option.isSome_iff_ne_none] using old
    · simp [same]

/-- On a sound floor an order outlives no expiry of its command. -/
theorem reports_of_expires {f : Floor} {x : Posting} (sound : f.Sound)
    (h : Expires f.Sound x) : Reports x :=
  h.resolve_right fun astray => astray.1 sound

/-- The table: what an action does to the books and the floor. -/
theorem action_refines {a : Action} (sound : s.Sound)
    (h : Ran (body env s.tickets a) s.db (answer, tickets) db') :
    Refines a.Posts (a.Works s.tickets) s.db db' := by
  cases a with
  | setTerminal terminal =>
      obtain ⟨⟨_, ran⟩, -⟩ := ran_quiet h
      exact setTerminal_effect ran
  | setMerchantAccount account =>
      obtain ⟨⟨_, ran⟩, -⟩ := ran_quiet h
      simp only [setMerchantAccount, ran_write] at ran
      exact .of_same (ran ▸ ⟨rfl, rfl⟩)
  | createOrder r mode admitted fresh now =>
      obtain ⟨⟨_, ran⟩, -⟩ := ran_quiet h
      exact PublicOrderService.create_effect ran
  | createPayment r paymentId merchantNo now =>
      obtain ⟨_, ran, -⟩ := ran_leaving h
      exact PaymentApplicationService.create_effect ran
  | callback provider eventId values fresh outboxId now =>
      obtain ⟨_, ran, -⟩ := ran_paid h
      rcases applyPaidCallback_effect sound.books ran with ⟨-, -, replayed⟩ | ⟨-, -, refines⟩
      · exact .of_same replayed.same
      · exact refines
  | paymentCreated ticket answer' fresh outboxId now =>
      simp only [body] at h
      split at h
      · obtain ⟨⟨_, ran⟩, -⟩ := ran_quiet h
        exact PaymentApplicationService.created_effect sound.books ran
      · exact (ran_nothing h).2.2 ▸ .refl _
  | cancel orderId token fresh now =>
      obtain ⟨_, ran, -⟩ := ran_leaving h
      exact (cancel_effect sound.books ran).1
  | closeIntents ticket answers now =>
      simp only [body] at h
      split at h
      · rename_i orderId intents located
        have backed := sound.backed _ (List.mem_of_getElem? located)
        split at h
        · exact (ran_nothing h).2.2 ▸ .refl _
        · rename_i closed some
          obtain ⟨⟨_, ran⟩, -⟩ := ran_quiet h
          refine closeIntents_effect sound.books some (fun c hc => ?_) ran
          obtain ⟨answer, -, hc⟩ := List.mem_filterMap.mp hc
          obtain ⟨intent, found, rfl⟩ := Option.map_eq_some_iff.mp hc
          exact backed intent (List.mem_of_getElem? found)
      · exact (ran_nothing h).2.2 ▸ .refl _
  | refund paymentId key reason amount fresh now =>
      obtain ⟨⟨_, ran⟩, -⟩ := ran_quiet h
      exact PaymentApplicationService.refund_effect ran
  | merchantRefund orderId key reason amount fresh now =>
      obtain ⟨⟨_, ran⟩, -⟩ := ran_quiet h
      exact MerchantOrders.refund_effect ran
  | adjudicate r fresh now =>
      obtain ⟨⟨_, ran⟩, -⟩ := ran_quiet h
      exact OrderAdjudicationService.adjudicate_effect sound.books ran
  | createRaw r fresh now =>
      obtain ⟨⟨_, ran⟩, -⟩ := ran_quiet h
      exact CommandService.createRaw_effect ran
  | createAdmin r key fresh clock now =>
      obtain ⟨⟨_, ran⟩, -⟩ := ran_quiet h
      exact CommandService.createAdmin_effect ran
  | claimCommands gatewayId picks now =>
      simp only [body] at h
      rw [ran_bind] at h
      obtain ⟨rows, t, ran, h⟩ := h
      simp only [ran_pure] at h
      exact h.2 ▸ (CommandRepository.claim_effect ran).1
  | published outboxId gatewayId now =>
      obtain ⟨⟨_, ran⟩, -⟩ := ran_quiet h
      exact CommandService.published_effect ran
  | retryPublish outboxId gatewayId now =>
      obtain ⟨⟨_, ran⟩, -⟩ := ran_quiet h
      exact CommandService.retry_effect ran
  | pollCandidates terminalId cursor limit =>
      obtain ⟨_, ran, -⟩ := ran_leaving h
      simp only [DeviceMessageRepository.commandsAfter, ran_read] at ran
      exact ran.2 ▸ .refl _
  | poll ticket clock clock' fresh now =>
      simp only [body] at h
      split at h
      · rename_i candidate located
        rw [ran_bind] at h
        obtain ⟨polled, t, ran, h⟩ := h
        simp only [ran_pure] at h
        refine h.2 ▸ (DeviceMessageService.pollCandidate_effect sound.books ran).mono
          (fun _ => reports_of_expires sound.floor) fun w hw => ⟨candidate, located, hw⟩
      · exact (ran_nothing h).2.2 ▸ .refl _
  | event terminalId e fresh now =>
      obtain ⟨⟨_, ran⟩, -⟩ := ran_quiet h
      exact DeviceMessageService.event_effect sound.books ran
  | taskAck terminalId taskId ack fresh now =>
      obtain ⟨⟨_, ran⟩, -⟩ := ran_quiet h
      exact reconcileOrderAck_effect sound.books ran
  | commandResult terminalId messageId status now =>
      obtain ⟨⟨_, ran⟩, -⟩ := ran_quiet h
      exact DeviceMessageService.commandResult_effect ran
  | markOffline clock =>
      obtain ⟨⟨_, ran⟩, -⟩ := ran_quiet h
      exact .of_same (BackgroundWorkerService.markOffline_effect ran)
  | expireUnpaid picks now =>
      obtain ⟨⟨_, ran⟩, -⟩ := ran_quiet h
      exact BackgroundWorkerService.expireUnpaid_effect ran
  | expiredCommands now =>
      obtain ⟨_, ran, -⟩ := ran_leaving h
      simp only [WorkerRepository.expiredCommands, ran_read] at ran
      exact ran.2 ▸ .refl _
  | expireCommand ticket clock fresh now =>
      simp only [body] at h
      split at h
      · rename_i commandId located
        rw [ran_bind] at h
        obtain ⟨verdict, t, ran, h⟩ := h
        simp only [ran_pure] at h
        refine h.2 ▸ (expireOrderForCommand_effect sound.books ran).mono
          (fun _ => reports_of_expires sound.floor) fun w hw => ⟨commandId, located, hw⟩
      · exact (ran_nothing h).2.2 ▸ .refl _
  | outboxBatch picks disturbed fresh now =>
      obtain ⟨⟨_, ran⟩, -⟩ := ran_quiet h
      obtain ⟨books, floor⟩ := BackgroundWorkerService.processBusinessOutboxBatch_effect sound.books
        sound.floor ran
      exact ⟨books.mono fun _ _ hx => hx.1, fun _ => floor⟩
  | claimDispatch pick now =>
      obtain ⟨_, ran, -⟩ := ran_leaving h
      exact .of_same (BackgroundWorkerService.claimDispatch_same ran)
  | processDispatch ticket fresh now =>
      simp only [body] at h
      split at h
      · obtain ⟨⟨_, ran⟩, -⟩ := ran_quiet h
        exact BackgroundWorkerService.processDispatch_effect ran
      · exact (ran_nothing h).2.2 ▸ .refl _
  | retryDispatch ticket now =>
      simp only [body] at h
      split at h
      · obtain ⟨⟨_, ran⟩, -⟩ := ran_quiet h
        exact .of_same (BackgroundWorkerService.retryDispatch_same ran)
      · exact (ran_nothing h).2.2 ▸ .refl _
  | repairDispatch limit now =>
      obtain ⟨⟨_, ran⟩, -⟩ := ran_quiet h
      exact .of_same (BackgroundWorkerService.repairMissing_same ran)
  | claimPayment pick now =>
      obtain ⟨_, ran, -⟩ := ran_leaving h
      exact .of_same (BackgroundWorkerService.claimPayment_effect ran)
  | reconcilePayment ticket answer' fresh outboxId now =>
      simp only [body] at h
      split at h
      · obtain ⟨⟨_, ran⟩, -⟩ := ran_quiet h
        exact BackgroundWorkerService.reconcilePayment_effect sound.books ran
      · exact (ran_nothing h).2.2 ▸ .refl _
  | claimRefund pick now =>
      obtain ⟨_, ran, -⟩ := ran_leaving h
      exact BackgroundWorkerService.claimRefund_effect ran
  | recordRefund ticket answer' now =>
      simp only [body] at h
      split at h
      · obtain ⟨⟨_, ran⟩, -⟩ := ran_quiet h
        exact BackgroundWorkerService.recordRefund_effect sound.books ran
      · exact (ran_nothing h).2.2 ▸ .refl _
  | watchdogScan now =>
      obtain ⟨_, ran, -⟩ := ran_leaving h
      simp only [WorkerRepository.watchdogRows, ran_read] at ran
      exact ran.2 ▸ .refl _
  | holdOverdue ticket clock now =>
      simp only [body] at h
      split at h
      · rename_i orderId jobId located
        obtain ⟨⟨_, ran⟩, -⟩ := ran_quiet h
        obtain ⟨e, hj, mine⟩ := sound.backed _ (List.mem_of_getElem? located)
        refine (holdOverdueJob_effect (fun job found => ?_) ran).mono (fun _ hx => hx)
          fun w hw => ⟨orderId, jobId, located, hw⟩
        cases (Db.floor_job found).symm.trans hj
        exact mine
      · exact (ran_nothing h).2.2 ▸ .refl _
  | cleanupHistory events business outbox now =>
      obtain ⟨⟨_, ran⟩, -⟩ := ran_quiet h
      exact BackgroundWorkerService.cleanupHistory_effect ran
  | replayCommandEvents fresh now =>
      obtain ⟨⟨_, ran⟩, -⟩ := ran_quiet h
      exact reconcileStored_effect sound.books ran
  | replayOrderEvents fresh now =>
      obtain ⟨⟨_, ran⟩, -⟩ := ran_quiet h
      exact reconcileStored_effect sound.books ran

/-- A ticket stays backed. -/
theorem backs_kept {P : Posting → Prop} {W : Work → Prop} (h : Refines P W db db')
    (sound : db.floor.Sound) {t : Ticket} (backed : db.Backs t) : db'.Backs t := by
  cases t with
  | cancelled orderId intents => exact fun i hi => closingAt_of_refines h (backed i hi)
  | overdue orderId jobId =>
      obtain ⟨e, hj, mine⟩ := backed
      obtain ⟨e', hj', onward⟩ := h.job sound hj
      exact ⟨e', hj', onward.order.trans mine⟩
  | _ => trivial

/-- Only a cancellation and a watchdog scan leave tickets that promise something. -/
theorem action_backs {a : Action} (sound : s.Sound)
    (h : Ran (body env s.tickets a) s.db (answer, tickets) db') : ∀ t ∈ tickets, db'.Backs t := by
  cases a with
  | cancel orderId token fresh now =>
      obtain ⟨intents, ran, -, rfl⟩ := ran_leaving h
      intro t ht
      split at ht
      · simp at ht
      · cases List.mem_singleton.mp ht
        exact (cancel_effect sound.books ran).2
  | watchdogScan now =>
      obtain ⟨rows, ran, -, rfl⟩ := ran_leaving h
      simp only [WorkerRepository.watchdogRows, ran_read] at ran
      obtain ⟨rfl, rfl⟩ := ran
      intro t ht
      obtain ⟨row, hrow, rfl⟩ := List.mem_map.mp ht
      obtain ⟨job, hjob, rfl⟩ := List.mem_map.mp hrow
      have mem := (Table.mem_select.mp (List.mem_of_mem_take hjob)).1
      exact ⟨_, Db.floor_job (Table.find?_of_mem mem), rfl⟩
  | createPayment r paymentId merchantNo now =>
      obtain ⟨opened, -, -, rfl⟩ := ran_leaving h
      intro t ht
      cases opened with
      | duplicate => simp [openedTicket] at ht
      | proceed payment =>
          cases List.mem_singleton.mp ht
          trivial
  | pollCandidates | expiredCommands | claimDispatch | claimPayment | claimRefund =>
      obtain ⟨x, -, -, rfl⟩ := ran_leaving h
      intro t ht
      obtain ⟨row, -, rfl⟩ := List.mem_map.mp ht
      trivial
  | callback =>
      obtain ⟨-, -, -, rfl⟩ := ran_paid h
      simp
  | claimCommands =>
      simp only [body, ran_bind, ran_pure, Prod.mk.injEq] at h
      obtain ⟨-, -, -, ⟨-, rfl⟩, -⟩ := h
      simp
  | paymentCreated | closeIntents | poll | expireCommand | processDispatch | retryDispatch
  | reconcilePayment | recordRefund | holdOverdue =>
      have none : tickets = [] := by
        simp only [body] at h
        split at h
        · first
            | exact (ran_quiet h).2.2
            | simp only [ran_bind, ran_pure, Prod.mk.injEq] at h
              obtain ⟨-, -, -, ⟨-, rfl⟩, -⟩ := h
              rfl
            | split at h
              · exact (ran_nothing h).2.1
              · exact (ran_quiet h).2.2
        · exact (ran_nothing h).2.1
      simp [none]
  | _ =>
      obtain ⟨-, -, rfl⟩ := ran_quiet h
      simp

theorem Sound.step (sound : s.Sound) (a : Action) : ((machine env).step s a).Sound := by
  rcases step_cases env s a with ⟨answer, tickets, db', ran, next⟩ | ⟨e, -, next⟩
  · have refines := action_refines sound ran
    simp only [Machine.step, next]
    refine ⟨refines.booksSound sound.books, refines.floorSound sound.floor,
      refines.filed sound.floor sound.filed, fun t ht => ?_⟩
    rcases List.mem_append.mp ht with old | new
    · exact backs_kept refines sound.floor (sound.backed t old)
    · exact action_backs sound ran t new
  · simp only [Machine.step, next]
    exact sound

theorem step_refines (sound : s.Sound) (a : Action) :
    Refines a.Posts (a.Works s.tickets) s.db ((machine env).step s a).db := by
  rcases step_cases env s a with ⟨answer, tickets, db', ran, next⟩ | ⟨e, -, next⟩
  · simp only [Machine.step, next]
    exact action_refines sound ran
  · simp only [Machine.step, next]
    exact .refl _

theorem sound_empty : ({} : System).Sound where
  books := by
    constructor <;> simp [Db.books, Table.view, balanceOf]
  floor := by
    constructor <;> simp [Db.floor, Table.view, Floor.At]
  filed := by
    constructor <;> simp [Db.floor, Table.view]
  backed := by simp

theorem sound_run (sound : s.Sound) (as : List Action) : ((machine env).run s as).Sound :=
  Machine.invariant_run (P := fun _ _ => True) (I := Sound) (fun _ a h _ => h.step a) sound
    (Machine.along_true _ s as)

theorem run_refines (sound : s.Sound) (as : List Action) :
    Refines (fun _ => True) (fun _ => True) s.db ((machine env).run s as).db := by
  have kept := Machine.invariant_run (M := machine env) (P := fun _ _ => True)
    (I := fun t => t.Sound ∧ Refines (fun _ => True) (fun _ => True) s.db t.db)
    (fun t a h _ => ⟨h.1.step a,
      h.2.trans ((step_refines h.1 a).mono (fun _ _ => trivial) fun _ _ => trivial)⟩)
    ⟨sound, .refl _⟩ (Machine.along_true _ s as)
  exact kept.2

/-- A shop for runs on concrete inputs. -/
def shop : Env :=
  { canonicalDigest := fun _ => "digest", hashToken := id, allowMockPayment := true }

def espresso : Product :=
  { recipeId := "espresso", recipeVersion := "1", name := "Espresso", currency := "CNY"
    priceMinor := 500 }

def freshRefund (n : Id) : FreshRefund := ⟨n, s!"R{n}"⟩

/-- One terminal, one order, and its payment as the channel confirms it. -/
def sale : List Action :=
  [ .setTerminal { id := 0, deviceId := "robot" },
    .createOrder
      { identifier := "robot", paymentMode := .online, idempotencyKey := "order"
        requestDigest := "digest", accessToken := "token" }
      .online (.ok espresso) ⟨0, 0, "task"⟩ 0,
    .createPayment
      { orderId := 0, provider := none, accessToken := some "token", idempotencyKey := "pay" }
      0 "M0" 0,
    .paymentCreated 0 ⟨"PENDING", none⟩ (freshRefund 0) 0 0,
    .callback "mock" "paid" [("out_trade_no", "M0"), ("amount_minor", "500")] (freshRefund 0) 0 0 ]

/-- The sale queued and dispatched to the robot. -/
def dispatchedSale : List Action :=
  sale ++
    [ .setTerminal
        { id := 0, deviceId := "robot", connectionStatus := "online", lastHeartbeatAt := some 0 },
      .outboxBatch [0] (fun _ => false) (fun _ => ⟨0, "task"⟩) 0,
      .claimDispatch 0 0,
      .processDispatch 1 ⟨0, "message", "digest", 0⟩ 0 ]

theorem sound_of_reachable (reach : (machine env).Reachable {} s) : s.Sound := by
  obtain ⟨as, rfl⟩ := reach
  exact sound_run sound_empty as

end System
end CoffeeCloud
