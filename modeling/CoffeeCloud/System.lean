import CoffeeCloud.Library.Machine
import CoffeeCloud.Services.DeviceMessages
import CoffeeCloud.Services.Adjudications
import CoffeeCloud.Services.BackgroundWorker

/-!
The whole system as a machine. One action is one transaction: every transaction
locks the rows it decides on before it reads them for the decision, so any
interleaving of transactions has the effect of some order of them. All choice is
in the action: identifiers drawn, rows picked where a query skips locked ones,
channel answers, the database clock and the process clock. What a procedure
carries from one of its transactions to the next is a ticket. A ticket is never
used up, so an answer may also arrive twice or be stale.
-/
namespace CoffeeCloud
open Library

/-- What one transaction of a procedure leaves for the next. -/
inductive Ticket where
  | payment (payment : Payment)
  | cancelled (orderId : Id) (intents : List Payment)
  | reconcile (payment : Payment)
  | refund (refundId : Id)
  | expiry (commandId : Id)
  | poll (candidate : Command)
  | overdue (orderId jobId : Id)
  | dispatch (request : DispatchRequest)

structure System where
  db : Db := {}
  tickets : List Ticket := []

/-- What an action answers, as far as a caller can tell actions apart by it. -/
inductive Answer where
  | done
  | raised (failure : Failure)
  | paid (paymentId : Id) (duplicate : Bool)
  | handed (commandIds : List Id)
  | verdict (commandId : Id) (status : Option CommandStatus)
deriving DecidableEq, Repr

/-- A close request the channel answered, by the place of its intent among those to be closed. -/
structure CloseAnswer where
  intent : Nat
  answer : PaymentApplicationService.ChannelAnswer
  fresh : FreshRefund
  outboxId : Id

def CloseAnswer.closed? (intents : List Payment) (c : CloseAnswer) :
    Option PublicOrderService.Closed :=
  (intents[c.intent]?).map fun intent => ⟨intent, c.answer, c.fresh, c.outboxId⟩

inductive Action where
  -- The world around the services.
  | setTerminal (terminal : Terminal)
  | setMerchantAccount (account : MerchantAccount)
  -- Customers and the channel.
  | createOrder (request : PublicOrderService.CreateRequest) (mode : PaymentMode)
      (admitted : Except Failure Product) (fresh : PublicOrderService.FreshOrder) (now : Time)
  | createPayment (request : PaymentApplicationService.CreateRequest) (paymentId : Id)
      (merchantNo : String) (now : Time)
  | paymentCreated (ticket : Nat) (answer : PaymentApplicationService.ChannelAnswer)
      (fresh : FreshRefund) (outboxId : Id) (now : Time)
  | callback (provider eventId : String) (values : Values) (fresh : FreshRefund) (outboxId : Id)
      (now : Time)
  | cancel (orderId : Id) (accessToken : Option String) (fresh : FreshRefund) (now : Time)
  | closeIntents (ticket : Nat) (answers : List CloseAnswer) (now : Time)
  -- Operators and merchants.
  | refund (paymentId : Id) (key reason : String) (amountMinor : Option Int) (fresh : FreshRefund)
      (now : Time)
  | merchantRefund (orderId : Id) (key reason : String) (amountMinor : Int) (fresh : FreshRefund)
      (now : Time)
  | adjudicate (request : OrderAdjudicationService.Request) (fresh : FreshRefund) (now : Time)
  | createRaw (request : CommandService.CreateRequest) (fresh : ProductionService.FreshCommand)
      (now : Time)
  | createAdmin (request : CommandService.CreateRequest) (key : String)
      (fresh : ProductionService.FreshCommand) (clock now : Time)
  -- The gateway and the devices.
  | claimCommands (gatewayId : String) (picks : List Id) (now : Time)
  | published (outboxId : Id) (gatewayId : String) (now : Time)
  | retryPublish (outboxId : Id) (gatewayId : String) (now : Time)
  | pollCandidates (terminalId cursor : Id) (limit : Nat)
  | poll (ticket : Nat) (clock clock' : Time) (fresh : FreshRefund) (now : Time)
  | event (terminalId : Id) (event : DeviceMessageService.DeviceEvent) (fresh : FreshRefund)
      (now : Time)
  | taskAck (terminalId : Id) (taskId : String) (body : Json) (fresh : FreshRefund) (now : Time)
  | commandResult (terminalId : Id) (messageId status : String) (now : Time)
  -- Workers.
  | markOffline (clock : Time)
  | expireUnpaid (picks : List Id) (now : Time)
  | expiredCommands (now : Time)
  | expireCommand (ticket : Nat) (clock : Time) (fresh : FreshRefund) (now : Time)
  | outboxBatch (picks : List Id) (disturbed : Id → Bool)
      (fresh : Id → BackgroundWorkerService.FreshJob) (now : Time)
  | claimDispatch (pick : Id) (now : Time)
  | processDispatch (ticket : Nat) (fresh : ProductionService.FreshCommand) (now : Time)
  | retryDispatch (ticket : Nat) (now : Time)
  | repairDispatch (limit : Nat) (now : Time)
  | claimPayment (pick : Id) (now : Time)
  | reconcilePayment (ticket : Nat) (answer : PaymentApplicationService.ChannelAnswer)
      (fresh : FreshRefund) (outboxId : Id) (now : Time)
  | claimRefund (pick : Id) (now : Time)
  | recordRefund (ticket : Nat) (answer : BackgroundWorkerService.RefundAnswer) (now : Time)
  | watchdogScan (now : Time)
  | holdOverdue (ticket : Nat) (clock now : Time)
  | cleanupHistory (events : List (Id × String)) (business outbox : List Id) (now : Time)
  | replayCommandEvents (fresh : Nat → FreshRefund) (now : Time)
  | replayOrderEvents (fresh : Nat → FreshRefund) (now : Time)

namespace System

def setTerminal (terminal : Terminal) : Sql Unit :=
  Tx.write fun db => { db with
    terminals :=
      if (db.terminals.find? terminal.id).isNone then db.terminals.insert terminal
      else db.terminals.modifyWhere (fun t => t.id = terminal.id)
        (fun t => { terminal with id := t.id }) (fun _ => rfl) }

def setMerchantAccount (account : MerchantAccount) : Sql Unit :=
  Tx.write fun db => { db with
    merchantAccounts :=
      (db.merchantAccounts.deleteWhere fun a => a.id = account.id).insert account }

/-- A transaction as an action sees it: what it answers and the tickets it leaves. -/
abbrev Body := Sql (Answer × List Ticket)

def quiet {α : Type} (m : Sql α) : Body := do
  let _ ← m
  pure (.done, [])

def paid (m : Sql (Payment × Bool)) : Body := do
  let (payment, duplicate) ← m
  pure (.paid payment.id duplicate, [])

def leaving {α : Type} (m : Sql α) (tickets : α → List Ticket) : Body := do
  let a ← m
  pure (.done, tickets a)

def nothing : Body := pure (.done, [])

/-- The intent left to the channel by the first transaction of a payment creation. -/
def openedTicket : PaymentApplicationService.Opened → List Ticket
  | .duplicate _ => []
  | .proceed payment _ => [.payment payment]

def polledAnswer (candidate : Id) : DeviceMessageService.Polled → Answer
  | .skipped => .handed []
  | .handed command => .handed [command.id]
  | .judged verdict => .verdict candidate verdict

def body (env : Env) (tickets : List Ticket) : Action → Body
  | .setTerminal terminal => quiet (setTerminal terminal)
  | .setMerchantAccount account => quiet (setMerchantAccount account)
  | .createOrder r mode admitted fresh now =>
      quiet (PublicOrderService.create env r mode admitted fresh now)
  | .createPayment r paymentId merchantNo now =>
      leaving (PaymentApplicationService.create env r paymentId merchantNo now) openedTicket
  | .paymentCreated ticket answer fresh outboxId now =>
      match tickets[ticket]? with
      | some (.payment payment) =>
          quiet (PaymentApplicationService.created env payment answer fresh outboxId now)
      | _ => nothing
  | .callback provider eventId values fresh outboxId now =>
      paid (applyPaidCallback env provider eventId values fresh outboxId now)
  | .cancel orderId token fresh now =>
      leaving (PublicOrderService.cancel env orderId token fresh now)
        fun intents => if intents.isEmpty then [] else [.cancelled orderId intents]
  | .closeIntents ticket answers now =>
      match tickets[ticket]? with
      | some (.cancelled orderId intents) =>
          match answers.filterMap (CloseAnswer.closed? intents) with
          | [] => nothing
          | closed => quiet (PublicOrderService.closeIntents env orderId closed now)
      | _ => nothing
  | .refund paymentId key reason amount fresh now =>
      quiet (PaymentApplicationService.refund env paymentId key reason amount fresh now)
  | .merchantRefund orderId key reason amount fresh now =>
      quiet (MerchantOrders.refund env orderId key reason amount fresh now)
  | .adjudicate r fresh now => quiet (OrderAdjudicationService.adjudicate env r fresh now)
  | .createRaw r fresh now => quiet (CommandService.createRaw r fresh now)
  | .createAdmin r key fresh clock now =>
      quiet (CommandService.createAdmin r key fresh clock now)
  | .claimCommands gatewayId picks now => do
      let rows ← CommandService.claim env gatewayId picks now
      pure (.handed (rows.map (·.commandId)), [])
  | .published outboxId gatewayId now =>
      quiet (CommandService.published outboxId gatewayId now)
  | .retryPublish outboxId gatewayId now => quiet (CommandService.retry outboxId gatewayId now)
  | .pollCandidates terminalId cursor limit =>
      leaving (DeviceMessageRepository.commandsAfter terminalId cursor limit)
        fun rows => rows.map .poll
  | .poll ticket clock clock' fresh now =>
      match tickets[ticket]? with
      | some (.poll candidate) => do
          let polled ← DeviceMessageService.pollCandidate env candidate clock clock' fresh now
          pure (polledAnswer candidate.id polled, [])
      | _ => nothing
  | .event terminalId e fresh now => quiet (DeviceMessageService.event env terminalId e fresh now)
  | .taskAck terminalId taskId body fresh now =>
      quiet (DeviceMessageService.taskAck env terminalId taskId body fresh now)
  | .commandResult terminalId messageId status now =>
      quiet (DeviceMessageService.commandResult terminalId messageId status now)
  | .markOffline clock => quiet (BackgroundWorkerService.markOffline env clock)
  | .expireUnpaid picks now => quiet (BackgroundWorkerService.expireUnpaid env picks now)
  | .expiredCommands now =>
      leaving (WorkerRepository.expiredCommands now) fun rows => rows.map fun c => .expiry c.id
  | .expireCommand ticket clock fresh now =>
      match tickets[ticket]? with
      | some (.expiry commandId) => do
          let verdict ←
            ProductionService.expireOrderForCommand env commandId clock fresh now
          pure (.verdict commandId verdict, [])
      | _ => nothing
  | .outboxBatch picks disturbed fresh now =>
      quiet (BackgroundWorkerService.processBusinessOutboxBatch picks disturbed fresh now)
  | .claimDispatch pick now =>
      leaving (BackgroundWorkerService.claimDispatch pick now)
        fun request => request.toList.map .dispatch
  | .processDispatch ticket fresh now =>
      match tickets[ticket]? with
      | some (.dispatch request) =>
          quiet (BackgroundWorkerService.processDispatch env request fresh now)
      | _ => nothing
  | .retryDispatch ticket now =>
      match tickets[ticket]? with
      | some (.dispatch request) => quiet (BackgroundWorkerService.retryDispatch request now)
      | _ => nothing
  | .repairDispatch limit now => quiet (DispatchRepository.repairMissing limit now)
  | .claimPayment pick now =>
      leaving (BackgroundWorkerService.claimPayment env pick now)
        fun payment => payment.toList.map .reconcile
  | .reconcilePayment ticket answer fresh outboxId now =>
      match tickets[ticket]? with
      | some (.reconcile payment) =>
          quiet (BackgroundWorkerService.reconcilePayment env payment answer fresh outboxId now)
      | _ => nothing
  | .claimRefund pick now =>
      leaving (BackgroundWorkerService.claimRefund pick now)
        fun refund => refund.toList.map fun r => .refund r.id
  | .recordRefund ticket answer now =>
      match tickets[ticket]? with
      | some (.refund refundId) =>
          quiet (BackgroundWorkerService.recordRefund refundId answer now)
      | _ => nothing
  | .watchdogScan now =>
      leaving (WorkerRepository.watchdogRows env now)
        fun rows => rows.map fun row => .overdue row.1 row.2
  | .holdOverdue ticket clock now =>
      match tickets[ticket]? with
      | some (.overdue orderId jobId) =>
          quiet (ProductionService.holdOverdueJob env orderId jobId clock now)
      | _ => nothing
  | .cleanupHistory events business outbox now =>
      quiet (WorkerRepository.cleanupHistory env events business outbox now)
  | .replayCommandEvents fresh now =>
      quiet (ProductionService.reconcileStoredCommandEvents env fresh now)
  | .replayOrderEvents fresh now =>
      quiet (ProductionService.reconcileStoredOrderEvents env fresh now)

/-- A transaction that raises is rolled back. -/
def machine (env : Env) : Machine System Action Answer where
  next s a :=
    match body env s.tickets a s.db with
    | .ok ((answer, tickets), db) => (⟨db, s.tickets ++ tickets⟩, answer)
    | .error e => (s, .raised e)

/-- A step ran its transaction, or it raised and left everything as it was. -/
theorem step_cases (env : Env) (s : System) (a : Action) :
    (∃ answer tickets db, Tx.Ran (body env s.tickets a) s.db (answer, tickets) db ∧
      (machine env).next s a = (⟨db, s.tickets ++ tickets⟩, answer)) ∨
    (∃ e, body env s.tickets a s.db = .error e ∧ (machine env).next s a = (s, .raised e)) := by
  simp only [Tx.Ran, machine]
  cases h : body env s.tickets a s.db with
  | error e => exact .inr ⟨e, rfl, rfl⟩
  | ok r => exact .inl ⟨r.1.1, r.1.2, r.2, rfl, rfl⟩

end System
end CoffeeCloud
