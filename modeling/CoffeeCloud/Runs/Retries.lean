import CoffeeCloud.Effects.Births
import CoffeeCloud.Runs

/-!
Orders that are asked for again. An order is created once for its terminal and its
key; that it is found again hangs on the payment mode and on the identifier, which
are looked at before the key is.
-/
namespace CoffeeCloud
open Library Tx PublicOrderService ProductionService

namespace PublicOrderService

/-- The payment modes of a deployment, and the access tokens its secret gives. -/
structure OrderSettings where
  simulatorBootstrapEnabled : Bool := false
  simulatorPaymentMode : PaymentMode := .testFree
  publicPaymentMode : PaymentMode := .testFree
  deriveOrderAccessToken : String → String → String

def paymentModeOf (settings : OrderSettings) (terminal : Terminal) : PaymentMode :=
  if settings.simulatorBootstrapEnabled ∧
      terminal.deviceIdentityKind = some "SIMULATOR_SOFTWARE" then settings.simulatorPaymentMode
  else settings.publicPaymentMode

/-- What a customer sends; the digest is that of the body. -/
structure OrderCall where
  identifier : String
  idempotencyKey : String
  paymentMode : PaymentMode
  requestDigest : String

/-- What a call meets: the settings, what the menu and the inventory say, identifiers, the clock. -/
structure CallContext where
  settings : OrderSettings
  admitted : Except Failure Product
  fresh : FreshOrder
  now : Time

structure CallAnswer where
  orderId : Id
  accessToken : String
  duplicate : Bool
deriving DecidableEq

def CallContext.request (x : CallContext) (call : OrderCall) (terminal : Terminal) :
    CreateRequest where
  identifier := call.identifier
  paymentMode := call.paymentMode
  idempotencyKey := call.idempotencyKey
  requestDigest := call.requestDigest
  accessToken := x.settings.deriveOrderAccessToken terminal.deviceId call.idempotencyKey

/-- `create` with what it takes from the settings and the terminal. -/
def placeOrder (env : Env) (call : OrderCall) (x : CallContext) : Sql CallAnswer := do
  Tx.ensure (call.idempotencyKey ≠ "" ∧ call.idempotencyKey.length ≤ 160)
    (.serviceError 400 "Idempotency-Key is required and must be <= 160 characters")
  let terminal ← Tx.require (← Tx.read (findTerminal call.identifier))
    (.serviceError 404 "device not found")
  let r := x.request call terminal
  let (orderId, duplicate) ←
    create env r (paymentModeOf x.settings terminal) x.admitted x.fresh x.now
  pure ⟨orderId, r.accessToken, duplicate⟩

/-- At the time of the call the identifier still names the terminal of the order, its token is what
it was, and the payment mode of the terminal is the one the body asks for. -/
def OrderCall.Holds (call : OrderCall) (y : CallContext) (terminalId : Id) (token : String)
    (db : Db) : Prop :=
  ∃ terminal, findTerminal call.identifier db = some terminal ∧ terminal.id = terminalId ∧
    y.settings.deriveOrderAccessToken terminal.deviceId call.idempotencyKey = token ∧
    call.paymentMode = paymentModeOf y.settings terminal

end PublicOrderService

/-- No two orders of a terminal have the same key. -/
def Db.Apart (db : Db) : Prop :=
  ∀ k k' b b', db.orders.view Order.birth k = some b → db.orders.view Order.birth k' = some b' →
    b.terminalId = b'.terminalId → b.idempotencyKey = b'.idempotencyKey → k = k'

/-- Orders stay as they were born, and new ones keep apart. -/
structure Bears (db db' : Db) : Prop where
  kept : ∀ k b, db.orders.view Order.birth k = some b → db'.orders.view Order.birth k = some b
  apart : db.Apart → db'.Apart

theorem KeepsBirths.bears {db db' : Db} (h : KeepsBirths db db') : Bears db db' := by
  refine ⟨fun k b born => ?_, fun apart => ?_⟩
  · rw [h]
    exact born
  · rw [Db.Apart, h]
    exact apart

theorem Bears.refl (db : Db) : Bears db db := ⟨fun _ _ born => born, id⟩

theorem Bears.trans {db db' db'' : Db} (h : Bears db db') (k : Bears db' db'') : Bears db db'' :=
  ⟨fun i b born => k.kept i b (h.kept i b born), fun apart => k.apart (h.apart apart)⟩

section Creation
variable {db db' : Db} {env : Env} {r : CreateRequest} {mode : PaymentMode}
  {admitted : Except Failure Product} {fresh : FreshOrder} {now : Time} {answer : Id × Bool}

theorem findIdempotent_view {terminalId : Id} {key : String} {o : Order}
    (found : (db.orders.first? fun o => o.terminalId = terminalId ∧ o.idempotencyKey = key) =
      some o) :
    db.orders.find? o.id = some o ∧ o.terminalId = terminalId ∧ o.idempotencyKey = key := by
  obtain ⟨mem, here⟩ := Table.first?_some found
  exact ⟨Table.find?_of_mem mem, by simpa using here⟩

/-- An order that is new takes a key its terminal has no order for. -/
theorem bears_insert {o : Order} (new : db.orders.find? o.id = none)
    (added : db'.orders = db.orders.insert o)
    (free : (db.orders.first? fun p => p.terminalId = o.terminalId ∧
      p.idempotencyKey = o.idempotencyKey) = none) :
    Bears db db' := by
  have view : db'.orders.view Order.birth = put (db.orders.view Order.birth) o.id o.birth := by
    rw [added]
    exact Table.view_insert Order.birth new
  have other : ∀ k b, db.orders.view Order.birth k = some b →
      ¬ (b.terminalId = o.terminalId ∧ b.idempotencyKey = o.idempotencyKey) := by
    intro k b born taken
    obtain ⟨p, found, rfl⟩ := (Table.view_eq_some _).mp born
    have refuses := Table.first?_none.mp free p (Table.mem_of_find? found)
    have taken : p.terminalId = o.terminalId ∧ p.idempotencyKey = o.idempotencyKey := taken
    simp [taken] at refuses
  refine ⟨fun k b born => ?_, fun apart k k' b b' born born' terminal key => ?_⟩
  · rw [view, put, if_neg]
    · exact born
    · rintro rfl
      rw [Table.view, new] at born
      cases born
  · rw [view, put] at born born'
    split at born
    · cases born
      split at born'
      · rename_i here here'
        rw [here, here']
      · exact absurd ⟨terminal.symm, key.symm⟩ (other k' b' born')
    · split at born'
      · cases born'
        exact absurd ⟨terminal, key⟩ (other k b born)
      · exact apart k k' b b' born born' terminal key

/-- What a call that succeeds has found or added. -/
theorem create_cases (h : Ran (create env r mode admitted fresh now) db answer db') :
    ∃ terminal, findTerminal r.identifier db = some terminal ∧ r.paymentMode = mode ∧
      ((∃ o, db.orders.find? o.id = some o ∧ o.terminalId = terminal.id ∧
          o.idempotencyKey = r.idempotencyKey ∧ o.requestDigest = r.requestDigest ∧
          answer = (o.id, true) ∧ db' = db) ∨
        answer = (fresh.orderId, false) ∧ Bears db db' ∧
          db'.orders.view Order.birth fresh.orderId =
            some ⟨fresh.orderId, terminal.id, r.idempotencyKey, r.requestDigest⟩) := by
  simp only [create, ran_ensure_bind, ran_read_bind, ran_require_bind,
    OrderRepository.findIdempotent] at h
  obtain ⟨-, terminal, located, same, h⟩ := h
  refine ⟨terminal, located, same, ?_⟩
  split at h
  · rename_i existing found
    simp only [ran_ensure_bind, ran_pure] at h
    obtain ⟨digest, rfl, rfl⟩ := h
    obtain ⟨stored, mine, key⟩ := findIdempotent_view found
    exact .inl ⟨existing, stored, mine, key, digest, rfl, rfl⟩
  · split at h
    · simp at h
    · rename_i product
      simp only [OrderRepository.activeCount, OrderRepository.insert,
        OrderRepository.insertInitialTransition, bind_assoc, ran_read_bind, ran_ensure_bind,
        ran_write_bind, id_eq, Option.isNone_iff_eq_none] at h
      obtain ⟨-, new, free, h⟩ := h
      rw [ran_bind] at h
      obtain ⟨u, t, produce, h⟩ := h
      simp only [ran_pure] at h
      obtain ⟨rfl, rfl⟩ := h
      have queued : KeepsBirths _ t := (follows_onlyIf (fun _ =>
        follows_bind (follows_births (insertProductionJob_keepsStatus _)) fun _ =>
          KeepsBirths.narrow.requestDispatch _) _ _ _ produce)
      refine .inr ⟨rfl, (bears_insert new rfl free).trans queued.bears, ?_⟩
      rw [queued]
      change (db.orders.insert _).view Order.birth fresh.orderId = _
      rw [Table.view_insert Order.birth new]
      exact if_pos rfl

theorem create_bears (h : Ran (create env r mode admitted fresh now) db answer db') :
    Bears db db' := by
  obtain ⟨terminal, -, -, ⟨o, -, -, -, -, -, rfl⟩ | ⟨-, bears, -⟩⟩ := create_cases h
  · exact .refl _
  · exact bears

end Creation

namespace System
variable {env : Env} {s : System} {db db' : Db} {answer : Answer} {tickets : List Ticket}

/-- The table: every action leaves the orders as they were born, and at most adds one. -/
theorem action_bears {a : Action} (h : Ran (body env s.tickets a) s.db (answer, tickets) db') :
    Bears s.db db' := by
  have quietly {α : Type} {m : Sql α} (births : Follows KeepsBirths m)
      (h : Ran (quiet m) s.db (answer, tickets) db') : Bears s.db db' := by
    obtain ⟨⟨_, ran⟩, -⟩ := ran_quiet h
    exact (births _ _ _ ran).bears
  have leaves {α : Type} {m : Sql α} {f : α → List Ticket} (births : Follows KeepsBirths m)
      (h : Ran (leaving m f) s.db (answer, tickets) db') : Bears s.db db' := by
    obtain ⟨_, ran, -⟩ := ran_leaving h
    exact (births _ _ _ ran).bears
  have idles (h : Ran nothing s.db (answer, tickets) db') : Bears s.db db' :=
    (ran_nothing h).2.2 ▸ .refl _
  have answers {α : Type} {m : Sql α} {f : α → Answer} (births : Follows KeepsBirths m)
      (h : Ran (m >>= fun a => (pure (f a, []) : Body)) s.db (answer, tickets) db') :
      Bears s.db db' :=
    (follows_bind births (fun a => follows_pure (f a, ([] : List Ticket))) _ _ _ h).bears
  cases a with
  | setTerminal terminal =>
      exact quietly (m := setTerminal terminal) (follows_write fun _ => rfl) h
  | setMerchantAccount account =>
      exact quietly (m := setMerchantAccount account) (follows_write fun _ => rfl) h
  | createOrder r mode admitted fresh now =>
      obtain ⟨⟨_, ran⟩, -⟩ := ran_quiet h
      exact create_bears ran
  | createPayment r paymentId merchantNo now => exact leaves (createPayment_births _ _ _) h
  | callback provider eventId values fresh outboxId now =>
      obtain ⟨_, ran, -⟩ := ran_paid h
      exact (applyPaidCallback_births _ _ _ _ _ _ _ ran).bears
  | paymentCreated ticket said fresh outboxId now =>
      simp only [body] at h
      split at h
      · exact quietly (created_births _ _ _) h
      · exact idles h
  | cancel orderId token fresh now => exact leaves (cancel_births _ _) h
  | closeIntents ticket said now =>
      simp only [body] at h
      split at h
      · split at h
        · exact idles h
        · exact quietly (closeIntents_births _ _) h
      · exact idles h
  | refund paymentId key reason amount fresh now =>
      exact quietly (follows_births (refund_keepsStatus _ _ _ _)) h
  | merchantRefund orderId key reason amount fresh now =>
      exact quietly (follows_births (merchantRefund_keepsStatus _ _ _ _)) h
  | adjudicate r fresh now => exact quietly (adjudicate_births _) h
  | createRaw r fresh now => exact quietly (insertCommand_births _ _ _ _) h
  | createAdmin r key fresh clock now => exact quietly (createAdmin_births _ _ _ _) h
  | claimCommands gatewayId picks now =>
      exact answers (follows_births (claim_keepsStatus _ _ _)) h
  | published outboxId gatewayId now => exact quietly (published_births _ _) h
  | retryPublish outboxId gatewayId now => exact quietly (follows_births (retry_keepsStatus _ _)) h
  | pollCandidates terminalId cursor limit => exact leaves (follows_read _) h
  | poll ticket clock clock' fresh now =>
      simp only [body] at h
      split at h
      · exact answers (pollCandidate_births _ _ _) h
      · exact idles h
  | event terminalId e fresh now => exact quietly (event_births _ _) h
  | taskAck terminalId taskId ack fresh now => exact quietly (reconcileOrderAck_births _ _ _) h
  | commandResult terminalId messageId status now => exact quietly (commandResult_births _ _ _) h
  | markOffline clock =>
      exact quietly (m := BackgroundWorkerService.markOffline env clock) (follows_write fun _ => rfl) h
  | expireUnpaid picks now => exact quietly (expireUnpaid_births _) h
  | expiredCommands now => exact leaves (follows_read _) h
  | expireCommand ticket clock fresh now =>
      simp only [body] at h
      split at h
      · exact answers (expireOrderForCommand_births _ _) h
      · exact idles h
  | outboxBatch picks disturbed fresh now => exact quietly (outboxBatch_births _ _ _) h
  | claimDispatch pick now => exact leaves (follows_births (claimDispatch_keepsStatus _)) h
  | processDispatch ticket fresh now =>
      simp only [body] at h
      split at h
      · exact quietly (processDispatch_births _ _) h
      · exact idles h
  | retryDispatch ticket now =>
      simp only [body] at h
      split at h
      · exact quietly (follows_births (modifyRequests_keepsStatus _)) h
      · exact idles h
  | repairDispatch limit now => exact quietly (follows_births (repairMissing_keepsStatus _)) h
  | claimPayment pick now => exact leaves (follows_births (claimPayment_keepsStatus _)) h
  | reconcilePayment ticket said fresh outboxId now =>
      simp only [body] at h
      split at h
      · exact quietly (reconcilePayment_births _ _ _) h
      · exact idles h
  | claimRefund pick now => exact leaves (follows_births (claimRefund_keepsStatus _)) h
  | recordRefund ticket said now =>
      simp only [body] at h
      split at h
      · exact quietly (recordRefund_births _ _) h
      · exact idles h
  | watchdogScan now => exact leaves (follows_read _) h
  | holdOverdue ticket clock now =>
      simp only [body] at h
      split at h
      · exact quietly (holdOverdueJob_births _ _ _) h
      · exact idles h
  | cleanupHistory events business outbox now =>
      exact quietly (m := WorkerRepository.cleanupHistory env events business outbox now)
        (follows_write fun _ => rfl) h
  | replayCommandEvents fresh now => exact quietly (reconcileStored_births _ _) h
  | replayOrderEvents fresh now => exact quietly (reconcileStored_births _ _) h

theorem step_bears (s : System) (a : Action) : Bears s.db ((machine env).step s a).db := by
  rcases step_cases env s a with ⟨answer, tickets, db', ran, next⟩ | ⟨e, -, next⟩
  · simp only [Machine.step, next]
    exact action_bears ran
  · simp only [Machine.step, next]
    exact .refl _

theorem run_bears (as : List Action) : ∀ s : System, Bears s.db ((machine env).run s as).db := by
  induction as with
  | nil => exact fun s => .refl _
  | cons a as ih => exact fun s => (step_bears s a).trans (ih _)

section Calls
variable {call : OrderCall} {x : CallContext} {first : CallAnswer}

/-- A call that succeeds is an order created, with the token of its terminal. -/
theorem placeOrder_create (h : Ran (placeOrder env call x) db first db') :
    call.idempotencyKey ≠ "" ∧ call.idempotencyKey.length ≤ 160 ∧
      ∃ terminal, findTerminal call.identifier db = some terminal ∧
        first.accessToken = x.settings.deriveOrderAccessToken terminal.deviceId call.idempotencyKey ∧
        Ran (create env (x.request call terminal) (paymentModeOf x.settings terminal) x.admitted
          x.fresh x.now) db (first.orderId, first.duplicate) db' := by
  simp only [placeOrder, ran_ensure_bind, ran_read_bind, ran_require_bind] at h
  obtain ⟨⟨keyed, short⟩, terminal, located, h⟩ := h
  rw [ran_bind] at h
  obtain ⟨answer, t, created, h⟩ := h
  simp only [ran_pure] at h
  obtain ⟨rfl, rfl⟩ := h
  exact ⟨keyed, short, terminal, located, rfl, created⟩

theorem placeOrder_cases (h : Ran (placeOrder env call x) db first db') :
    ∃ terminal, findTerminal call.identifier db = some terminal ∧
      call.paymentMode = paymentModeOf x.settings terminal ∧
      first.accessToken = x.settings.deriveOrderAccessToken terminal.deviceId call.idempotencyKey ∧
      Bears db db' ∧
      db'.orders.view Order.birth first.orderId =
        some ⟨first.orderId, terminal.id, call.idempotencyKey, call.requestDigest⟩ ∧
      (first.duplicate = true → db' = db) := by
  obtain ⟨-, -, terminal, located, token, created⟩ := placeOrder_create h
  obtain ⟨terminal', located', mode, found | ⟨answered, bears, born⟩⟩ := create_cases created
  · obtain rfl : terminal = terminal' := Option.some.inj (located.symm.trans located')
    obtain ⟨o, stored, mine, key, digest, answered, rfl⟩ := found
    refine ⟨terminal, located, mode, token, .refl _, ?_, fun _ => rfl⟩
    have this : first.orderId = o.id := congrArg Prod.fst answered
    rw [this, Table.view_of_find? _ stored, Order.birth, mine, key, digest]
    rfl
  · obtain rfl : terminal = terminal' := Option.some.inj (located.symm.trans located')
    have this : first.orderId = x.fresh.orderId := congrArg Prod.fst answered
    have new : first.duplicate = false := congrArg Prod.snd answered
    refine ⟨terminal, located, mode, token, bears, ?_, fun duplicate => ?_⟩
    · rw [this]
      exact born
    · cases new.symm.trans duplicate

/-- A call is a step of the machine. -/
theorem placeOrder_step (h : Ran (placeOrder env call x) s.db first db') :
    ∃ a, (machine env).step s a = ⟨db', s.tickets⟩ := by
  obtain ⟨-, -, terminal, -, -, created⟩ := placeOrder_create h
  refine ⟨.createOrder (x.request call terminal) (paymentModeOf x.settings terminal) x.admitted
    x.fresh x.now, ?_⟩
  have ran : body env s.tickets (.createOrder (x.request call terminal)
      (paymentModeOf x.settings terminal) x.admitted x.fresh x.now) s.db =
        .ok ((.done, []), db') := by
    change Ran (quiet (create env (x.request call terminal) (paymentModeOf x.settings terminal)
      x.admitted x.fresh x.now)) s.db (.done, []) db'
    rw [quiet, ran_bind]
    exact ⟨_, db', created, (ran_pure _ _ _ _).mpr ⟨rfl, rfl⟩⟩
  simp only [Machine.step, machine, ran, List.append_nil]

end Calls

section Again
variable {call other : OrderCall} {y : CallContext} {k terminalId : Id} {token : String}

/-- The order that has the key is what a call is answered with. -/
theorem placeOrder_found {terminal : Terminal} (apart : db.Apart)
    (born : db.orders.view Order.birth k =
      some ⟨k, terminal.id, call.idempotencyKey, call.requestDigest⟩)
    (keyed : call.idempotencyKey ≠ "" ∧ call.idempotencyKey.length ≤ 160)
    (located : findTerminal call.identifier db = some terminal)
    (mode : call.paymentMode = paymentModeOf y.settings terminal) :
    placeOrder env call y db =
      .ok (⟨k, y.settings.deriveOrderAccessToken terminal.deviceId call.idempotencyKey, true⟩,
        db) := by
  obtain ⟨o, stored, birth⟩ := (Table.view_eq_some _).mp born
  simp only [Order.birth, Birth.mk.injEq] at birth
  obtain ⟨id, mine, key, digest⟩ := birth
  have found : ∃ o', (db.orders.first? fun o => o.terminalId = terminal.id ∧
      o.idempotencyKey = call.idempotencyKey) = some o' := by
    refine Option.ne_none_iff_exists'.mp fun none => ?_
    have refuses := Table.first?_none.mp none o (Table.mem_of_find? stored)
    simp [mine, key] at refuses
  obtain ⟨o', found⟩ := found
  obtain ⟨stored', mine', key'⟩ := findIdempotent_view found
  have same : o'.id = k := by
    refine apart o'.id k o'.birth _ (Table.view_of_find? _ stored') born ?_ ?_
    · exact mine'
    · exact key'
  rw [same] at stored'
  cases stored.symm.trans stored'
  simp only [placeOrder, apply_ensure_bind keyed, apply_read_bind, apply_require_bind located]
  have created : Ran (create env (y.request call terminal) (paymentModeOf y.settings terminal)
      y.admitted y.fresh y.now) db (o.id, true) db := by
    simp only [create, ran_ensure_bind, ran_read_bind, ran_require_bind,
      OrderRepository.findIdempotent]
    refine ⟨keyed, terminal, located, mode, ?_⟩
    have found : (db.orders.first? fun o => o.terminalId = terminal.id ∧
        o.idempotencyKey = (y.request call terminal).idempotencyKey) = some o := found
    rw [found]
    exact (ran_ensure_bind _ _ _ _ _ _).mpr ⟨digest, (ran_pure _ _ _ _).mpr ⟨rfl, rfl⟩⟩
  rw [apply_bind_of_ok created, same]
  rfl

/-- A call is answered with the order exactly where the condition holds. -/
theorem placeOrder_iff (apart : db.Apart)
    (born : db.orders.view Order.birth k =
      some ⟨k, terminalId, call.idempotencyKey, call.requestDigest⟩)
    (keyed : call.idempotencyKey ≠ "" ∧ call.idempotencyKey.length ≤ 160) :
    placeOrder env call y db = .ok (⟨k, token, true⟩, db) ↔ call.Holds y terminalId token db := by
  constructor
  · intro answered
    have h : Ran (placeOrder env call y) db ⟨k, token, true⟩ db := answered
    obtain ⟨terminal, located, mode, given, -, found, -⟩ := placeOrder_cases h
    have here := Option.some.inj (born.symm.trans found)
    exact ⟨terminal, located, (congrArg Birth.terminalId here).symm, given.symm, mode⟩
  · rintro ⟨terminal, located, rfl, rfl, mode⟩
    exact placeOrder_found apart born keyed located mode

/-- The key of an order is refused for any other body. -/
theorem placeOrder_conflict (apart : db.Apart)
    (born : db.orders.view Order.birth k =
      some ⟨k, terminalId, call.idempotencyKey, call.requestDigest⟩)
    (same : other.idempotencyKey = call.idempotencyKey)
    (differs : other.requestDigest ≠ call.requestDigest)
    (here : ∀ terminal, findTerminal other.identifier db = some terminal → terminal.id = terminalId) :
    ∃ e, placeOrder env other y db = .error e := by
  cases answered : placeOrder env other y db with
  | error e => exact ⟨e, rfl⟩
  | ok r =>
      have h : Ran (placeOrder env other y) db r.1 r.2 := answered
      obtain ⟨terminal, located, -, -, bears, found, -⟩ := placeOrder_cases h
      have mine := here terminal located
      have kept := bears.kept k _ born
      have id : r.1.orderId = k := bears.apart apart _ _ _ _ found kept mine same
      rw [id] at found
      exact absurd (congrArg Birth.requestDigest (Option.some.inj (found.symm.trans kept))) differs

end Again

theorem apart_empty : ({} : Db).Apart := fun _ _ _ _ born => by cases born

/-- The terminal of the runs below, and a deployment with a simulator mode of its own. -/
def simulator : Terminal := { id := 0, deviceId := "robot" }

def orderCall : OrderCall := ⟨"robot", "order", .online, "digest"⟩

def callContext : CallContext where
  settings :=
    { simulatorBootstrapEnabled := true, publicPaymentMode := .online
      deriveOrderAccessToken := fun deviceId key => deviceId ++ key }
  admitted := .ok espresso
  fresh := ⟨0, 0, "task"⟩
  now := 0

/-- The system before the order, right after it, and once a pairing session has begun. -/
def unsold : System := (machine shop).run {} [.setTerminal simulator]

def sold : System := ⟨(placeOrder shop orderCall callContext).leave unsold.db, unsold.tickets⟩

def paired : System :=
  (machine shop).run sold
    [.setTerminal { simulator with
      lifecycleStatus := "PENDING_ACTIVATION", deviceIdentityKind := some "SIMULATOR_SOFTWARE" }]

theorem placed_sold :
    Ran (placeOrder shop orderCall callContext) unsold.db ⟨0, "robotorder", false⟩ sold.db :=
  ran_leave (by decide +kernel)

end System
end CoffeeCloud
