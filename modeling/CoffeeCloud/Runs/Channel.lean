import CoffeeCloud.Runs

/-!
What a call that creates a payment asks of the channel between its two
transactions, and for which orders the channel is told to open one.
-/
namespace CoffeeCloud
open Library Tx

namespace PaymentApplicationService

/-- A call of the channel, by the intent it is about. -/
inductive ChannelCall where
  | query (payment : Payment)
  | create (payment : Payment)

/-- How the channel behaves during one call: whether there is a provider for the intent, and what
the query and the first creation answer, where they do not raise. -/
structure Channel where
  found : Bool
  queried : Option ChannelAnswer
  created : Option ChannelAnswer

/-- The channel knows nothing of the intent. -/
def unopened (payment : Payment) (answer : ChannelAnswer) : Bool :=
  answer.status = "NOT_FOUND" || (answer.status = "FAILED" && payment.provider = "mock")

/-- The calls made about an intent: an unopened one is created, and once more where anything
raised. -/
def channelCalls (payment : Payment) (channel : Channel) : List ChannelCall :=
  if channel.found = false then []
  else if payment.status = .created then
    match channel.queried with
    | none => [.query payment, .create payment]
    | some answer =>
        if unopened payment answer then
          match channel.created with
          | none => [.query payment, .create payment, .create payment]
          | some _ => [.query payment, .create payment]
        else [.query payment]
  else [.query payment]

/-- What one `create` asks of the channel after its first transaction. -/
def createCalls (env : Env) (r : CreateRequest) (paymentId : Id) (merchantNo : String) (now : Time)
    (db : Db) (channel : Channel) : List ChannelCall :=
  match create env r paymentId merchantNo now db with
  | .ok (.proceed payment _, _) => channelCalls payment channel
  | _ => []

def ChannelCall.opened : ChannelCall → Option Payment
  | .query _ => none
  | .create payment => some payment

/-- The order can only be refunded by now. -/
def Dead (order : Order) : Prop :=
  order.status ∈ [.cancelled, .expired, .failed, .ready, .refunded]

instance (order : Order) : Decidable (Dead order) := inferInstanceAs (Decidable (_ ∈ _))

/-- However the channel behaves, nothing is opened at it for an order that is dead when the call
locks it. -/
def OpensNothingDead (env : Env) (r : CreateRequest) (paymentId : Id) (merchantNo : String)
    (now : Time) (db : Db) : Prop :=
  ∀ order, db.orders.find? r.orderId = some order → Dead order → ∀ channel payment,
    payment.orderId = order.id → .create payment ∉ createCalls env r paymentId merchantNo now db channel

/-- A retry: the caller may pay the order, and asks with the key of an intent still CREATED. -/
structure Retries (env : Env) (r : CreateRequest) (db : Db) (order : Order) (payment : Payment) :
    Prop where
  keyed : r.idempotencyKey ≠ "" ∧ r.idempotencyKey.length ≤ 160
  allowed : ((r.provider.filter (· ≠ "")).getD env.paymentDefaultProvider).toLower = "mock" →
    env.allowMockPayment = true
  authentic : authenticateOrder env r.orderId r.accessToken db = .ok (order, db)
  channelled : ∃ provider, channelFor r
    ((r.provider.filter (· ≠ "")).getD env.paymentDefaultProvider).toLower order db = .ok (provider, db)
  charged : order.paymentMode ≠ .testFree
  existing : db.payments.first? (fun p => p.orderId = order.id ∧
    p.idempotencyKey = r.idempotencyKey) = some payment
  same : payment.requestDigest = r.digest env
  waiting : payment.status = .created

section Calls
variable {env : Env} {r : CreateRequest} {db db' : Db} {now : Time} {order : Order}
  {payment : Payment} {paymentId : Id} {merchantNo : String} {again : Bool}

theorem create_mem_channelCalls {channel : Channel} {other : Payment}
    (h : .create other ∈ channelCalls payment channel) : other = payment ∧ payment.status = .created := by
  simp only [channelCalls] at h
  split at h
  · cases h
  · split at h
    · rename_i waiting
      refine ⟨?_, waiting⟩
      split at h
      · simpa using h
      · split at h
        · split at h
          · simpa using h
          · simpa using h
        · simp at h
    · simp at h

/-- Where the query raises, the intent is created at the channel. -/
theorem create_mem_of_raised (waiting : payment.status = .created) :
    .create payment ∈ channelCalls payment ⟨true, none, none⟩ := by
  simp [channelCalls, waiting]

theorem authenticateOrder_found (h : Ran (authenticateOrder env r.orderId r.accessToken) db order db') :
    db' = db ∧ db.orders.find? r.orderId = some order := by
  obtain ⟨same, found, mine⟩ := authenticateOrder_effect h
  exact ⟨same, mine ▸ found⟩

/-- A call that goes on with a dead order is a retry. -/
theorem retries_of_proceed (found : db.orders.find? r.orderId = some order) (dead : Dead order)
    (h : Ran (create env r paymentId merchantNo now) db (.proceed payment again) db')
    (waiting : payment.status = .created) : Retries env r db order payment := by
  simp only [create, ran_ensure_bind] at h
  obtain ⟨keyed, allowed, h⟩ := h
  rw [ran_bind] at h
  obtain ⟨order', t, authentic, h⟩ := h
  obtain ⟨rfl, found'⟩ := authenticateOrder_found authentic
  cases found.symm.trans found'
  rw [ran_bind] at h
  obtain ⟨provider, t', channelled, h⟩ := h
  have quiet : t' = t := channelFor_effect channelled
  subst quiet
  simp only [ran_ensure_bind, PaymentRepository.findIdempotent, ran_read_bind] at h
  obtain ⟨charged, h⟩ := h
  split at h
  · rename_i existing there
    simp only [ran_ensure_bind, ran_ite, ran_pure, Opened.proceed.injEq] at h
    obtain ⟨same, ⟨-, other, -⟩ | ⟨-, ⟨rfl, -⟩, -⟩⟩ := h
    · cases other
    · exact ⟨keyed, allowed, authentic, ⟨provider, channelled⟩, charged, there, same, waiting⟩
  · simp only [ran_ensure_bind] at h
    obtain ⟨-, live, -⟩ := h
    exfalso
    revert dead live
    simp only [Dead]
    cases order.status <;> decide

/-- A retry goes on with its intent. -/
theorem proceed_of_retries (retries : Retries env r db order payment) :
    create env r paymentId merchantNo now db = .ok (.proceed payment true, db) := by
  obtain ⟨provider, channelled⟩ := retries.channelled
  simp only [create, apply_ensure_bind retries.keyed, apply_ensure_bind retries.allowed,
    apply_bind_of_ok retries.authentic, apply_bind_of_ok channelled,
    apply_ensure_bind retries.charged, PaymentRepository.findIdempotent, apply_read_bind,
    retries.existing, apply_ensure_bind retries.same]
  simp only [retries.waiting, ne_eq, not_true_eq_false, if_false]
  rfl

/-- A dead order is opened at the channel exactly where an intent of it that was never opened is
retried under its key. -/
theorem opensNothingDead_iff (env : Env) (r : CreateRequest) (paymentId : Id) (merchantNo : String)
    (now : Time) (db : Db) :
    OpensNothingDead env r paymentId merchantNo now db ↔
      ∀ order, db.orders.find? r.orderId = some order → Dead order →
        ∀ payment, ¬ Retries env r db order payment := by
  constructor
  · intro opens order found dead payment retries
    have mine : payment.orderId = order.id := by
      have := (Table.first?_some retries.existing).2
      simp only [decide_eq_true_eq] at this
      exact this.1
    refine opens order found dead ⟨true, none, none⟩ payment mine ?_
    rw [createCalls, proceed_of_retries retries]
    exact create_mem_of_raised retries.waiting
  · intro none order found dead channel payment mine called
    cases outcome : create env r paymentId merchantNo now db with
    | error e =>
        rw [createCalls, outcome] at called
        cases called
    | ok result =>
        obtain ⟨opened, db'⟩ := result
        rw [createCalls, outcome] at called
        cases opened with
        | duplicate other => cases called
        | proceed other again =>
            obtain ⟨rfl, waiting⟩ := create_mem_channelCalls called
            exact none order found dead payment (retries_of_proceed found dead outcome waiting)

/-- The first attempt at the channel fails, the customer cancels, and so does the attempt to
close. -/
def givenUp : List Action :=
  [ .setTerminal { id := 0, deviceId := "robot" },
    .createOrder
      { identifier := "robot", paymentMode := .online, idempotencyKey := "order"
        requestDigest := "digest", accessToken := "token" }
      .online (.ok System.espresso) ⟨0, 0, "task"⟩ 0,
    .createPayment
      { orderId := 0, provider := none, accessToken := some "token", idempotencyKey := "pay" }
      0 "M0" 0,
    .cancel 0 (some "token") (System.freshRefund 0) 1 ]

/-- The same request once more. -/
def secondTry : CreateRequest :=
  { orderId := 0, provider := none, accessToken := some "token", idempotencyKey := "pay" }

theorem secondTry_opens :
    ¬ OpensNothingDead System.shop secondTry 1 "M1" 2 ((System.machine System.shop).run {} givenUp).db := by
  intro opens
  generalize reached : ((System.machine System.shop).run {} givenUp).db = db at opens
  have dead : (db.orders.find? secondTry.orderId).any (fun order => Dead order) = true := by
    subst reached
    decide +kernel
  have called : ((createCalls System.shop secondTry 1 "M1" 2 db ⟨true, none, none⟩).any fun call =>
      call.opened.any (·.orderId = 0)) = true := by
    subst reached
    decide +kernel
  obtain ⟨order, found, dead⟩ := (Option.any_eq_true _ _).mp dead
  obtain ⟨call, mem, opened⟩ := List.any_eq_true.mp called
  obtain ⟨payment, same, mine⟩ := (Option.any_eq_true _ _).mp opened
  cases call with
  | query _ => cases same
  | create other =>
      cases same
      have key : order.id = 0 := Table.key_of_find? found
      exact opens order found (of_decide_eq_true dead) _ payment
        ((of_decide_eq_true mine).trans key.symm) mem

end Calls

end PaymentApplicationService
end CoffeeCloud
