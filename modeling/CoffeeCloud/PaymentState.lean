/-!
Payment and refund states and the decisions on their transitions.
`PaymentStatus` also holds the two states of the order projection that no
payment row has, because the projection copies the payment's own states.
-/
namespace CoffeeCloud

inductive PaymentStatus where
  | notRequired | notStarted
  | created | pending | paid | refunding | partiallyRefunded | refunded | closed | failed
deriving DecidableEq, Repr

inductive RefundStatus where
  | requested | processing | succeeded | failed | unknown
deriving DecidableEq, Repr

def PaymentStatus.text : PaymentStatus → String
  | .notRequired => "NOT_REQUIRED"
  | .notStarted => "NOT_STARTED"
  | .created => "CREATED"
  | .pending => "PENDING"
  | .paid => "PAID"
  | .refunding => "REFUNDING"
  | .partiallyRefunded => "PARTIALLY_REFUNDED"
  | .refunded => "REFUNDED"
  | .closed => "CLOSED"
  | .failed => "FAILED"

def RefundStatus.text : RefundStatus → String
  | .requested => "REQUESTED"
  | .processing => "PROCESSING"
  | .succeeded => "SUCCEEDED"
  | .failed => "FAILED"
  | .unknown => "UNKNOWN"

def paymentTransitions : PaymentStatus → List PaymentStatus
  | .created => [.pending, .paid, .closed, .failed]
  | .pending => [.paid, .closed, .failed]
  | .paid => [.refunding, .partiallyRefunded, .refunded]
  -- Back to PAID only through the settlement of refunds that all failed.
  | .refunding => [.paid, .partiallyRefunded, .refunded, .failed]
  | .partiallyRefunded => [.refunding, .refunded]
  | _ => []

def refundTransitions : RefundStatus → List RefundStatus
  | .requested => [.processing, .succeeded, .failed, .unknown]
  | .processing => [.succeeded, .failed, .unknown]
  | .unknown => [.processing, .succeeded, .failed]
  | _ => []

structure StateDecision where
  allowed : Bool
  duplicate : Bool := false
  reason : Option String := none
deriving DecidableEq, Repr

def decidePaymentTransition (current target : PaymentStatus) : StateDecision :=
  if current = target then { allowed := true, duplicate := true }
  else if target ∈ paymentTransitions current then { allowed := true }
  else
    { allowed := false
      reason := some s!"illegal payment transition {current.text} -> {target.text}" }

def decideRefundTransition (current target : RefundStatus) : StateDecision :=
  if current = target then { allowed := true, duplicate := true }
  else if target ∈ refundTransitions current then { allowed := true }
  else
    { allowed := false
      reason := some s!"illegal refund transition {current.text} -> {target.text}" }

def refundTerminal : List RefundStatus := [.succeeded, .failed]
def inFlightRefundStatuses : List RefundStatus := [.requested, .processing, .unknown]
def budgetRefundStatuses : List RefundStatus := inFlightRefundStatuses ++ [.succeeded]
def refundablePaymentStatuses : List PaymentStatus := [.paid, .refunding, .partiallyRefunded]

/-- The states of a payment that has received money. -/
def paidCallbackStatuses : List PaymentStatus := [.paid, .refunding, .partiallyRefunded, .refunded]

/-- The states of an intent the channel may still settle. -/
def openPaymentStatuses : List PaymentStatus := [.created, .pending]

end CoffeeCloud
