import CoffeeCloud.Library.Json
import CoffeeCloud.Library.Table
import CoffeeCloud.Library.Tx
import CoffeeCloud.PaymentState
import CoffeeCloud.ProductionState
import CoffeeCloud.CommandState

/-!
The rows the order, payment and production services share. Primary keys are the
tables' own; a `check` constraint of the schema is a field of its row.
Identifiers stand for uuids and serial numbers, timestamps are microseconds.
-/
namespace CoffeeCloud
open Library

abbrev Id := Nat
abbrev Time := Int

/-- Whole seconds as a span of time. -/
def seconds (n : Int) : Time := n * 1000000

inductive PaymentMode where
  | online | testFree
deriving DecidableEq, Repr

/-- States of a business event. -/
inductive EventStatus where
  | pending | processing | processed | retry
deriving DecidableEq, Repr

inductive SlotState where
  | empty | occupied | needsCheck
deriving DecidableEq, Repr

structure Terminal where
  id : Id
  deviceId : String
  serialNumber : String := ""
  deviceIdentityKind : Option String := none
  lifecycleStatus : String := "ACTIVE"
  connectionStatus : String := "offline"
  lastHeartbeatAt : Option Time := none
  reportedStatus : Json := .null

/-- The product snapshot frozen into an order. -/
structure Product where
  recipeId : String
  recipeVersion : String
  name : String
  currency : String
  priceMinor : Int
  estimatedDurationSeconds : Option Rat := none

/-- A tenant's account with a payment channel. -/
structure MerchantAccount where
  id : Id
  tenantId : Id
  provider : String
  validated : Bool
deriving DecidableEq

structure Order where
  id : Id
  terminalId : Id
  tenantId : Option Id := none
  paymentAccountId : Option Id := none
  accessTokenHash : String
  idempotencyKey : String
  requestDigest : String
  status : OrderStatus
  paymentMode : PaymentMode
  paymentStatus : PaymentStatus
  totalAmountMinor : Int
  product : Product
  paidPaymentId : Option Id := none
  createdAt : Time
  startedAt : Option Time := none
  completedAt : Option Time := none
  cancelledAt : Option Time := none
  pickupRequired : Bool := false
  collectedAt : Option Time := none

structure OrderTransition where
  orderId : Id
  revision : Nat
  fromStatus : Option OrderStatus
  toStatus : OrderStatus
  actor : String
deriving DecidableEq

structure Job where
  id : Id
  taskId : String
  orderId : Id
  terminalId : Id
  commandId : Option Id := none
  status : JobStatus
  revision : Int := 0
  progress : Rat := 0
  stepProgress : Rat := 0
  plannedDurationSeconds : Option Rat := none
  elapsedSeconds : Rat := 0
  remainingSeconds : Option Rat := none
  lastDeviceRevision : Int := 0
  executionAttempt : Int := 1
  holdReason : Option String := none
  manualReviewRequired : Bool := false
  createdAt : Time
  updatedAt : Time
  acceptedAt : Option Time := none
  startedAt : Option Time := none
  completedAt : Option Time := none

structure Command where
  id : Id
  terminalId : Id
  messageId : String
  commandType : String
  taskId : Option String
  payloadDigest : String
  status : CommandStatus := .created
  revision : Nat := 0
  idempotencyKey : Option String := none
  expiresAt : Option Time
  deliveredAt : Option Time := none
  publishedAt : Option Time := none
  ackedAt : Option Time := none
  executingAt : Option Time := none
  completedAt : Option Time := none

structure CommandTransition where
  commandId : Id
  revision : Nat
  fromStatus : Option CommandStatus
  toStatus : CommandStatus
  actor : String
deriving DecidableEq

structure CommandOutbox where
  id : Id
  commandId : Id
  terminalId : Id
  status : OutboxStatus := .pending
  attemptCount : Nat := 0
  nextAttemptAt : Time
  lockedBy : Option String := none
  lockedUntil : Option Time := none
  publishedAt : Option Time := none

structure Payment where
  id : Id
  orderId : Id
  provider : String
  merchantPaymentNo : String
  providerTradeNo : Option String := none
  idempotencyKey : String
  requestDigest : String
  status : PaymentStatus
  revision : Nat := 0
  amountMinor : Int
  amountPositive : 0 < amountMinor
  nextReconcileAt : Option Time := none
  createdAt : Time
  paidAt : Option Time := none
  closedAt : Option Time := none

structure CallbackInbox where
  provider : String
  providerEventId : String
  paymentId : Id
  payloadDigest : String
deriving DecidableEq

structure Refund where
  id : Id
  paymentId : Id
  provider : String
  merchantRefundNo : String
  idempotencyKey : String
  requestDigest : String
  status : RefundStatus
  revision : Nat := 0
  amountMinor : Int
  amountPositive : 0 < amountMinor
  reason : String
  attemptCount : Nat := 0
  nextAttemptAt : Option Time
  completedAt : Option Time := none

/-- A `payment.paid` event; the service enqueues no other type. -/
structure BusinessEvent where
  id : Id
  paymentId : Id
  orderId : Id
  terminalId : Id
  idempotencyKey : String
  status : EventStatus := .pending
  attemptCount : Nat := 0
  nextAttemptAt : Time
  processedAt : Option Time := none

structure TerminalEvent where
  terminalId : Id
  eventId : String
  bootId : Option String := none
  sequence : Option Int := none
  eventType : String
  payloadDigest : String
  payload : Json
  receivedAt : Time

structure PickupSlot where
  terminalId : Id
  revision : Int
  state : SlotState
  taskId : String
deriving DecidableEq

structure MaterialWatermark where
  terminalId : Id
  inventoryVersion : Int
deriving DecidableEq

structure DispatchRequest where
  terminalId : Id
  revision : Nat := 1
  status : EventStatus := .pending
  requestedAt : Time
  attemptCount : Nat := 0
  nextAttemptAt : Time
  lockedUntil : Option Time := none

structure Adjudication where
  orderId : Id
  idempotencyKey : String
  requestDigest : String
  taskId : String
  status : OrderStatus
  productionStatus : JobStatus
  productionRevision : Int
  deviceReleasePending : Bool

instance : Keyed Terminal Id := ⟨Terminal.id⟩
instance : Keyed MerchantAccount Id := ⟨MerchantAccount.id⟩
instance : Keyed Order Id := ⟨Order.id⟩
instance : Keyed Job Id := ⟨Job.id⟩
instance : Keyed Command Id := ⟨Command.id⟩
instance : Keyed CommandOutbox Id := ⟨CommandOutbox.id⟩
instance : Keyed Payment Id := ⟨Payment.id⟩
instance : Keyed CallbackInbox (String × String) := ⟨fun r => (r.provider, r.providerEventId)⟩
instance : Keyed Refund Id := ⟨Refund.id⟩
instance : Keyed BusinessEvent Id := ⟨BusinessEvent.id⟩
instance : Keyed TerminalEvent (Id × String) := ⟨fun r => (r.terminalId, r.eventId)⟩
instance : Keyed PickupSlot Id := ⟨PickupSlot.terminalId⟩
instance : Keyed MaterialWatermark Id := ⟨MaterialWatermark.terminalId⟩
instance : Keyed DispatchRequest Id := ⟨DispatchRequest.terminalId⟩
instance : Keyed Adjudication (Id × String) := ⟨fun r => (r.orderId, r.idempotencyKey)⟩

structure Db where
  terminals : Table Terminal := .empty
  merchantAccounts : Table MerchantAccount := .empty
  orders : Table Order := .empty
  orderTransitions : List OrderTransition := []
  jobs : Table Job := .empty
  commands : Table Command := .empty
  commandTransitions : List CommandTransition := []
  commandOutbox : Table CommandOutbox := .empty
  payments : Table Payment := .empty
  callbackInbox : Table CallbackInbox := .empty
  refunds : Table Refund := .empty
  businessOutbox : Table BusinessEvent := .empty
  terminalEvents : Table TerminalEvent := .empty
  pickupSlots : Table PickupSlot := .empty
  watermarks : Table MaterialWatermark := .empty
  dispatchRequests : Table DispatchRequest := .empty
  adjudications : Table Adjudication := .empty

/-- What a service call may raise. -/
inductive Failure where
  | serviceError (status : Nat) (detail : String)
  | httpException (status : Nat) (detail : String)
  | uniqueViolation (index : String)
  | checkViolation (column : String)
  | exception (name : String)
deriving DecidableEq, Repr

abbrev Sql (α : Type) := Tx Db Failure α

/-- The texts and the documents that the driver and the database take. -/
structure Driver where
  text : Json → Bool := fun _ => true
  document : Json → Bool := fun _ => true

/-- A parameter bound to a statement. -/
inductive Parameter where
  | text (value : Json)
  | document (value : Json)
  | bigint (n : Int)

def Parameter.taken (driver : Driver) : Parameter → Bool
  | .text value => driver.text value
  | .document value => driver.document value
  | .bigint n => -2 ^ 63 ≤ n && n < 2 ^ 63

/-- The parameters of the row's insert. -/
def TerminalEvent.parameters (e : TerminalEvent) : List Parameter :=
  [.text (.str e.eventId), .text (.str e.eventType), .document e.payload] ++
    e.bootId.toList.map (fun b => .text (.str b)) ++ e.sequence.toList.map .bigint

/-- Deployment settings, the driver and the two digest functions of the services. -/
structure Env where
  canonicalDigest : Json → String
  hashToken : String → String
  allowMockPayment : Bool := false
  paymentDefaultProvider : String := "mock"
  paymentReconcileSeconds : Int := 30
  paymentPendingTtlSeconds : Int := 900
  publicOrderQueueLimit : Nat := 20
  commandPublishLeaseSeconds : Int := 30
  commandAckTimeoutSeconds : Int := 30
  commandStartTimeoutSeconds : Int := 60
  productionWaitTimeoutSeconds : Int := 900
  productionTimeoutGraceSeconds : Int := 120
  offlineThresholdSeconds : Int := 90
  processedOutboxRetentionDays : Int := 14
  deviceEventRetentionDays : Int := 90
  driver : Driver := {}

end CoffeeCloud
