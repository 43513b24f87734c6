import CoffeeCloud.Repositories.Orders
import CoffeeCloud.Repositories.Payments
import CoffeeCloud.Repositories.Commands

/-!
The choke points that combine a pure decision with its write. Payments, refunds
and commands raise on an illegal move; an order silently stays where it is.
-/
namespace CoffeeCloud
open Library

/-- The row as it is after the call, and whether it already was there. -/
def transitionPayment (payment : Payment) (target : PaymentStatus) (now : Time) :
    Sql (Payment × Bool) :=
  let decision := decidePaymentTransition payment.status target
  if decision.duplicate then pure (payment, true)
  else if decision.allowed then do
    let updated ← PaymentRepository.transitionPayment payment target now
    pure (updated, false)
  else Tx.raise (.httpException 409 (decision.reason.getD ""))

def transitionRefund (refund : Refund) (target : RefundStatus) (now : Time) :
    Sql (Refund × Bool) :=
  let decision := decideRefundTransition refund.status target
  if decision.duplicate then pure (refund, true)
  else if decision.allowed then do
    let updated ← PaymentRepository.transitionRefund refund target now
    pure (updated, false)
  else Tx.raise (.httpException 409 (decision.reason.getD ""))

/-- Nothing is written where the order stands already or the move is illegal. -/
def transitionOrder (order : Order) (target : OrderStatus) (actor : String) (now : Time) :
    Sql Order :=
  if order.status = target then pure order
  else if orderTransitionAllowed order.status target then do
    let revision ← OrderRepository.nextTransitionRevision order.id
    let startedAt := if target = .making then order.startedAt.or (some now) else order.startedAt
    let completedAt :=
      if target ∈ [.ready, .failed, .expired] then some now else order.completedAt
    let cancelledAt := if target = .cancelled then some now else order.cancelledAt
    let updated ←
      OrderRepository.updateTransitionState order.id target startedAt completedAt cancelledAt
    OrderRepository.insertTransition ⟨order.id, revision, some order.status, target, actor⟩
    pure updated
  else pure order

def transitionCommand (command : Command) (target : CommandStatus) (actor : String)
    (strict : Bool) (now : Time) : Sql (Command × Bool) :=
  let decision := decideTransition command.status target
  if decision.duplicate then pure (command, true)
  else if decision.allowed then do
    let updated ← CommandRepository.transition command target actor now
    pure (updated, false)
  else if strict then Tx.raise (.serviceError 409 (decision.reason.getD ""))
  else pure (command, false)

end CoffeeCloud
