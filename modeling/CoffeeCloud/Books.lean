import CoffeeCloud.Library.Balance
import CoffeeCloud.Library.Machine
import CoffeeCloud.Library.PartialMap
import CoffeeCloud.PaymentState
import CoffeeCloud.ProductionState

/-!
The books of the shop: what its orders, payments, refunds and paid events mean
for the money, and the postings that may change them. A payment carries a
balance of its refunds; a posting names what happens and says when it may.
-/
namespace CoffeeCloud
open Library

structure OrderEntry where
  status : OrderStatus
  payment : PaymentStatus
  primary : Option Nat
deriving DecidableEq

structure PaymentEntry where
  order : Nat
  amount : Int
  status : PaymentStatus
deriving DecidableEq

structure RefundEntry where
  payment : Nat
  amount : Int
  status : RefundStatus
  key : String
deriving DecidableEq

structure EventEntry where
  payment : Nat
  order : Nat
  key : String
  processed : Bool
deriving DecidableEq

structure Books where
  orders : Nat → Option OrderEntry
  payments : Nat → Option PaymentEntry
  refunds : Nat → Option RefundEntry
  balance : Nat → Balance
  events : Nat → Option EventEntry

/-- The business key of the paid event of a payment. -/
def eventKey (p : Nat) : String := s!"payment:{p}:paid"

/-- The status of a payment that has received money is the phase of its balance. -/
def settled : Phase → PaymentStatus
  | .untouched => .paid
  | .inFlight => .refunding
  | .partly => .partiallyRefunded
  | .full => .refunded

def PaymentStatus.Received (s : PaymentStatus) : Prop := s ∈ paidCallbackStatuses

instance (s : PaymentStatus) : Decidable s.Received := inferInstanceAs (Decidable (s ∈ _))

def PaymentStatus.Open (s : PaymentStatus) : Prop := s ∈ openPaymentStatuses

instance (s : PaymentStatus) : Decidable s.Open := inferInstanceAs (Decidable (s ∈ _))

def OrderStatus.Dead (s : OrderStatus) : Prop := s ∈ deadOrderStatuses

instance (s : OrderStatus) : Decidable s.Dead := inferInstanceAs (Decidable (s ∈ _))

def OrderStatus.Unpaid (s : OrderStatus) : Prop := s = .created ∨ s = .awaitingPayment

instance (s : OrderStatus) : Decidable s.Unpaid := inferInstanceAs (Decidable (_ ∨ _))

theorem settled_received (p : Phase) : (settled p).Received := by
  cases p <;> decide

/-- A refund as it enters the books. -/
structure Entered where
  refund : Nat
  payment : Nat
  amount : Int
  key : String
deriving DecidableEq

inductive Posting where
  | openOrder (o : Nat) (status : OrderStatus) (payment : PaymentStatus)
  | openPayment (p o : Nat) (amount : Int)
  | pend (p : Nat)
  | close (p o : Nat)
  | closeProjection (o : Nat)
  | reconcile (p o : Nat) (target : PaymentStatus)
  | receive (p o e : Nat)
  | payBack (o : Nat) (r : Entered)
  | request (o : Nat) (r : Entered)
  | advance (r : Nat) (status : RefundStatus)
  | settle (r p o : Nat) (amount : Int) (status : RefundStatus)
  | move (o : Nat) (status : OrderStatus)
  | die (o : Nat) (status : OrderStatus) (r : Option Entered)
  | process (e o : Nat) (queued : Bool)
  | purge (e : Nat)

namespace Books

/-- What a refund outcome does to the balance of its payment. -/
def outcome (status : RefundStatus) (amount : Int) (b : Balance) : Balance :=
  if status = .succeeded then b.spend amount else b.release amount

/-- Only its primary payment shows on an order. -/
def project (p : Nat) (status : PaymentStatus) (e : OrderEntry) : OrderEntry :=
  if e.primary = some p then { e with payment := status } else e

/-- The settlement of the primary payment shows, and a full refund ends a failed order. -/
def projectSettled (p : Nat) (target : PaymentStatus) (e : OrderEntry) : OrderEntry :=
  if e.primary = some p then
    { e with
      payment := target
      status := if target = .refunded ∧ e.status = .failed then .refunded else e.status }
  else e

/-- A refund enters: it is reserved, its payment is refunding, and so is the order it is primary of. -/
def enter (o : Nat) (r : Entered) (b : Books) : Books :=
  { b with
    payments := adjust b.payments r.payment fun e => { e with status := .refunding }
    refunds := put b.refunds r.refund ⟨r.payment, r.amount, .requested, r.key⟩
    balance := fun p => if p = r.payment then (b.balance p).reserve r.amount else b.balance p
    orders := adjust b.orders o (project r.payment .refunding) }

def setStatus (o : Nat) (status : OrderStatus) (b : Books) : Books :=
  { b with orders := adjust b.orders o fun e => { e with status } }

/-- An order without a primary payment takes the first one that receives money. -/
def claim (p : Nat) (e : OrderEntry) : OrderEntry := { e with primary := e.primary.or (some p) }

def settledStatus (p : Nat) (b : Books) : PaymentStatus :=
  match b.payments p with
  | some e => settled ((b.balance p).phase e.amount)
  | none => .paid

/-- A refund ends, its payment settles, and so does the order it is primary of. -/
def settleRefund (r p o : Nat) (amount : Int) (status : RefundStatus) (b : Books) : Books :=
  let balance q := if q = p then outcome status amount (b.balance q) else b.balance q
  let target := settledStatus p { b with balance }
  { b with
    refunds := adjust b.refunds r fun e => { e with status }
    balance
    payments := adjust b.payments p fun e => { e with status := target }
    orders := adjust b.orders o (projectSettled p target) }

def post : Posting → Books → Books
  | .openOrder o status payment, b => { b with orders := put b.orders o ⟨status, payment, none⟩ }
  | .openPayment p o amount, b => { b with
      payments := put b.payments p ⟨o, amount, .created⟩
      orders := adjust b.orders o fun e =>
        { e with status := .awaitingPayment, payment := .pending } }
  | .pend p, b => { b with
      payments := adjust b.payments p fun e => { e with status := .pending } }
  | .close p _, b => { b with
      payments := adjust b.payments p fun e => { e with status := .closed } }
  | .closeProjection o, b => { b with
      orders := adjust b.orders o fun e => { e with payment := .closed } }
  | .reconcile p o target, b => { b with
      payments := adjust b.payments p fun e => { e with status := target }
      orders := adjust b.orders o fun e =>
        { e with payment := target, status := if e.status.Unpaid then .cancelled else e.status } }
  | .receive p o e, b => { b with
      payments := adjust b.payments p fun e => { e with status := .paid }
      events := put b.events e ⟨p, o, eventKey p, false⟩
      orders := adjust b.orders o fun e =>
        { claim p e with payment := .paid, status := if e.status.Unpaid then .paid else e.status } }
  | .payBack o r, b =>
      enter o r { b with orders := adjust b.orders o (claim r.payment) }
  | .request o r, b => enter o r b
  | .advance r status, b => { b with
      refunds := adjust b.refunds r fun e => { e with status } }
  | .settle r p o amount status, b => settleRefund r p o amount status b
  | .move o status, b => setStatus o status b
  | .die o status none, b => setStatus o status b
  | .die o status (some r), b => setStatus o status (enter o r b)
  | .process e o queued, b => { b with
      events := adjust b.events e fun e => { e with processed := true }
      orders := if queued then adjust b.orders o fun e => { e with status := .queued } else b.orders }
  | .purge e, b => { b with events := drop b.events e }

/-- A refund fits what is left of a payment that may be refunded. -/
structure Fits (b : Books) (o : Nat) (r : Entered) (e : PaymentEntry) : Prop where
  payment : b.payments r.payment = some e
  order : e.order = o
  refundable : e.status ∈ refundablePaymentStatuses
  positive : 0 < r.amount
  budget : r.amount ≤ e.amount - (b.balance r.payment).reserved
  fresh : b.refunds r.refund = none

/-- Why an order may die without a refund: nothing was paid, or what was is on its way back. -/
def Excused (automatic : String → Prop) (b : Books) (e : OrderEntry) : Prop :=
  e.status.Unpaid ∨ e.payment ∉ refundablePaymentStatuses ∨ e.primary = none ∨
    ∃ p pe, e.primary = some p ∧ b.payments p = some pe ∧
      (pe.status ∉ refundablePaymentStatuses ∨ pe.amount ≤ (b.balance p).reserved ∨
        ∃ r re, b.refunds r = some re ∧ re.payment = p ∧ automatic re.key)

def ok (automatic : String → Prop) (b : Books) : Posting → Prop
  | .openOrder o status payment =>
      b.orders o = none ∧ (status, payment) ∈ [(.created, .notStarted), (.queued, .notRequired)]
  | .openPayment p o amount =>
      b.payments p = none ∧ 0 < amount ∧
      (∃ e, b.orders o = some e ∧ e.status.Unpaid ∧ ¬ e.payment.Received) ∧
      ∀ q e, b.payments q = some e → e.order = o → ¬ e.status.Open
  | .pend p => ∃ e, b.payments p = some e ∧ e.status = .created
  | .close p o =>
      ∃ e oe, b.payments p = some e ∧ e.order = o ∧ e.status.Open ∧ b.orders o = some oe ∧
        oe.status = .cancelled
  | .closeProjection o =>
      ∃ e, b.orders o = some e ∧ e.status = .cancelled ∧ e.payment ∈ [.notStarted, .pending] ∧
        ∀ q pe, b.payments q = some pe → pe.order = o → ¬ pe.status.Open
  | .reconcile p o target =>
      ∃ e, b.payments p = some e ∧ e.order = o ∧ e.status.Open ∧ target ∈ [.closed, .failed]
  | .receive p o e =>
      ∃ pe oe, b.payments p = some pe ∧ pe.order = o ∧ ¬ pe.status.Received ∧
        b.orders o = some oe ∧ ¬ oe.status.Dead ∧ oe.primary.all (· = p) ∧
        oe.payment ≠ .paid ∧ b.events e = none
  | .payBack o r =>
      ∃ pe oe, b.payments r.payment = some pe ∧ pe.order = o ∧ ¬ pe.status.Received ∧
        pe.amount = r.amount ∧ b.refunds r.refund = none ∧ b.orders o = some oe ∧
        (oe.status.Dead ∨ oe.primary.any (· ≠ r.payment))
  | .request o r => ∃ e, b.Fits o r e
  | .advance r status =>
      ∃ e, b.refunds r = some e ∧ e.status ∈ inFlightRefundStatuses ∧
        status ∈ inFlightRefundStatuses
  | .settle r p o amount status =>
      ∃ e pe, b.refunds r = some e ∧ e.payment = p ∧ e.amount = amount ∧
        e.status ∈ inFlightRefundStatuses ∧ status ∈ refundTerminal ∧
        b.payments p = some pe ∧ pe.order = o ∧ 0 < amount ∧ amount ≤ (b.balance p).held
  | .move o status =>
      ∃ e, b.orders o = some e ∧ status ∈ orderTransitions e.status ∧
        status ∈ [.queued, .dispatched, .accepted, .making, .ready, .hold]
  | .die o status none =>
      ∃ e, b.orders o = some e ∧ status ∈ orderTransitions e.status ∧ status.Dead ∧
        b.Excused automatic e
  | .die o status (some r) =>
      ∃ e pe, b.orders o = some e ∧ status ∈ orderTransitions e.status ∧ status.Dead ∧
        b.Fits o r pe ∧ r.amount = pe.amount - (b.balance r.payment).reserved
  | .process e o queued =>
      ∃ ee, b.events e = some ee ∧ ee.order = o ∧ ee.processed = false ∧
        (∀ oe, b.orders o = some oe → if queued then oe.status = .paid ∧ oe.payment = .paid
          else oe.status = .paid → oe.payment ≠ .paid ∨ oe.primary.any (· ≠ ee.payment))
  | .purge e => ∃ ee, b.events e = some ee ∧ ee.processed = true

/-- The books as a machine: a posting is a step. -/
def machine : Machine Books Posting Unit where
  next b x := (post x b, ())

/-- What holds of the books in every state. -/
structure Sound (b : Books) : Prop where
  order : ∀ p e, b.payments p = some e → (b.orders e.order).isSome
  positive : ∀ p e, b.payments p = some e → 0 < e.amount
  refundReceived : ∀ r e, b.refunds r = some e →
    ∃ pe, b.payments e.payment = some pe ∧ pe.status.Received
  event : ∀ x e, b.events x = some e → ∃ pe oe, b.payments e.payment = some pe ∧
    pe.status.Received ∧ pe.order = e.order ∧ b.orders e.order = some oe ∧
    oe.primary = some e.payment
  eventKey : ∀ x e, b.events x = some e → e.key = eventKey e.payment
  primary : ∀ o e p, b.orders o = some e → e.primary = some p →
    ∃ pe, b.payments p = some pe ∧ pe.order = o ∧ pe.status.Received
  received : ∀ p e, b.payments p = some e → e.status.Received →
    ∃ oe, b.orders e.order = some oe ∧ oe.primary.isSome
  untouched : ∀ p, (∀ e, b.payments p = some e → ¬ e.status.Received) → b.balance p = {}
  within : ∀ p e, b.payments p = some e → (b.balance p).Within e.amount
  status : ∀ p e, b.payments p = some e → e.status.Received →
    e.status = settled ((b.balance p).phase e.amount)
  paid : ∀ o e, b.orders o = some e → e.payment = .paid → e.primary.isSome
  started : ∀ o e, b.orders o = some e → e.primary.isSome → ¬ e.status.Unpaid

@[simp] theorem project_primary (p : Nat) (status : PaymentStatus) (e : OrderEntry) :
    (project p status e).primary = e.primary := by
  rw [project]
  split <;> rfl

@[simp] theorem project_status (p : Nat) (status : PaymentStatus) (e : OrderEntry) :
    (project p status e).status = e.status := by
  rw [project]
  split <;> rfl

@[simp] theorem projectSettled_primary (p : Nat) (target : PaymentStatus) (e : OrderEntry) :
    (projectSettled p target e).primary = e.primary := by
  rw [projectSettled]
  split <;> rfl

end Books
end CoffeeCloud
