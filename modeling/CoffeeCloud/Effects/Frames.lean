import CoffeeCloud.Services.Production

/-!
What a relation between states must not look at to hold along the coordinated
procedures. A relation that is blind to the tables they write follows each of
them, and needs no walk of its own through their statements.
-/
namespace CoffeeCloud
open Library Tx

/-- The relation does not look at the tables of orders, commands, payments, refunds, histories
and dispatch requests. -/
structure Blind (R : Db → Db → Prop) : Prop where
  orders : ∀ (db : Db) x, R db { db with orders := x }
  orderTransitions : ∀ (db : Db) x, R db { db with orderTransitions := x }
  commands : ∀ (db : Db) x, R db { db with commands := x }
  commandTransitions : ∀ (db : Db) x, R db { db with commandTransitions := x }
  payments : ∀ (db : Db) x, R db { db with payments := x }
  refunds : ∀ (db : Db) x, R db { db with refunds := x }
  dispatchRequests : ∀ (db : Db) x, R db { db with dispatchRequests := x }

/-- An order but for what the coordinated procedures write of it. -/
def Order.lasting (o : Order) : Order :=
  { o with status := .created, paymentStatus := .notStarted
           startedAt := none, completedAt := none, cancelledAt := none }

/-- The relation may look at the tables of `Blind`, but at the lasting part of orders only. -/
structure Narrow (R : Db → Db → Prop) : Prop where
  orders : ∀ (db : Db) k (f : Order → Order) hf, (∀ o, (f o).lasting = o.lasting) →
    R db { db with orders := db.orders.modify k f hf }
  orderTransitions : ∀ (db : Db) x, R db { db with orderTransitions := x }
  commands : ∀ (db : Db) x, R db { db with commands := x }
  commandTransitions : ∀ (db : Db) x, R db { db with commandTransitions := x }
  payments : ∀ (db : Db) x, R db { db with payments := x }
  refunds : ∀ (db : Db) x, R db { db with refunds := x }
  dispatchRequests : ∀ (db : Db) x, R db { db with dispatchRequests := x }

theorem Blind.narrow {R : Db → Db → Prop} (blind : Blind R) : Narrow R where
  orders db _ _ _ _ := blind.orders db _
  orderTransitions := blind.orderTransitions
  commands := blind.commands
  commandTransitions := blind.commandTransitions
  payments := blind.payments
  refunds := blind.refunds
  dispatchRequests := blind.dispatchRequests

theorem follows_lift {R : Db → Db → Prop} [IsPreorder Db R] {α : Type} (e : Except Failure α) :
    Follows R (ProductionService.lift e) := by
  cases e with
  | ok a => exact follows_pure a
  | error e => exact follows_raise e

section Choke
variable {R : Db → Db → Prop} [IsPreorder Db R] {now : Time}

theorem follows_transitionOrder
    (orders : ∀ (db : Db) k (f : Order → Order) hf, (∀ o, (f o).lasting = o.lasting) →
      R db { db with orders := db.orders.modify k f hf })
    (log : ∀ (db : Db) x, R db { db with orderTransitions := x }) (order : Order)
    (target : OrderStatus) (actor : String) : Follows R (transitionOrder order target actor now) := by
  unfold transitionOrder
  split
  · exact follows_pure order
  · split
    · refine follows_bind (follows_read _) fun revision => ?_
      refine follows_bind ?_ fun updated => ?_
      · exact follows_bind (follows_write fun db => orders db _ _ _ fun _ => rfl) fun _ =>
          follows_bind (follows_read _) fun _ => follows_require _ _
      · exact follows_bind (follows_write fun db => log db _) fun _ => follows_pure updated
    · exact follows_pure order

theorem follows_transitionCommand (commands : ∀ (db : Db) x, R db { db with commands := x })
    (log : ∀ (db : Db) x, R db { db with commandTransitions := x }) (command : Command)
    (target : CommandStatus) (actor : String) (strict : Bool) :
    Follows R (transitionCommand command target actor strict now) := by
  unfold transitionCommand
  dsimp only
  split
  · exact follows_pure _
  · split
    · refine follows_bind ?_ fun _ => follows_pure _
      refine follows_bind (follows_write fun db => commands db _) fun _ => ?_
      refine follows_bind (follows_read _) fun _ => follows_bind (follows_require _ _) fun _ => ?_
      exact follows_bind (follows_write fun db => log db _) fun _ => follows_pure _
    · split
      · exact follows_raise _
      · exact follows_pure _

end Choke

namespace Narrow
variable {R : Db → Db → Prop} [IsPreorder Db R] {env : Env} {fresh : FreshRefund} {now : Time}

theorem transitionOrder (narrow : Narrow R) (order : Order) (target : OrderStatus) (actor : String) :
    Follows R (CoffeeCloud.transitionOrder order target actor now) :=
  follows_transitionOrder narrow.orders narrow.orderTransitions order target actor

theorem transitionCommand (narrow : Narrow R) (command : Command) (target : CommandStatus)
    (actor : String) (strict : Bool) :
    Follows R (CoffeeCloud.transitionCommand command target actor strict now) :=
  follows_transitionCommand narrow.commands narrow.commandTransitions command target actor strict

theorem transitionPayment (narrow : Narrow R) (payment : Payment) (target : PaymentStatus) :
    Follows R (CoffeeCloud.transitionPayment payment target now) := by
  unfold CoffeeCloud.transitionPayment
  dsimp only
  split
  · exact follows_pure _
  · split
    · refine follows_bind ?_ fun _ => follows_pure _
      exact follows_bind (follows_write fun db => narrow.payments db _) fun _ =>
        follows_bind (follows_read _) fun _ => follows_require _ _
    · exact follows_raise _

theorem projectPayment (narrow : Narrow R) (payment : Payment) (status : PaymentStatus) :
    Follows R (CoffeeCloud.projectPayment payment status) := by
  refine follows_bind (follows_read _) fun order => ?_
  cases order with
  | none => exact follows_pure ()
  | some order => exact follows_onlyIf fun _ => follows_write fun db =>
        narrow.orders db _ _ _ fun _ => rfl

theorem insertRefund (narrow : Narrow R) (refund : Refund) :
    Follows R (PaymentRepository.insertRefund refund) :=
  follows_bind (follows_read _) fun _ => follows_bind (follows_ensure _ _) fun _ =>
    follows_bind (follows_ensure _ _) fun _ => follows_bind (follows_ensure _ _) fun _ =>
      follows_write fun db => narrow.refunds db _

theorem createRefundIntent (narrow : Narrow R) (r : RefundRequest) :
    Follows R (CoffeeCloud.createRefundIntent env r fresh now) := by
  refine follows_bind (follows_read _) fun _ => follows_bind (follows_require _ _) fun payment => ?_
  refine follows_bind (follows_read _) fun existing => ?_
  cases existing with
  | some existing => exact follows_bind (follows_ensure _ _) fun _ => follows_pure _
  | none =>
      refine follows_bind (follows_ensure _ _) fun _ => ?_
      refine follows_bind (follows_bind (follows_read _) fun _ => follows_pure _) fun remaining => ?_
      dsimp only
      split
      · refine follows_bind (narrow.insertRefund _) fun _ => ?_
        exact follows_bind (narrow.transitionPayment _ _) fun _ =>
          follows_bind (narrow.projectPayment _ _) fun _ => follows_pure _
      · exact follows_raise _

theorem ensureAutomaticRefundIntent (narrow : Narrow R) (paymentId : Id) (key reason : String) :
    Follows R (CoffeeCloud.ensureAutomaticRefundIntent env paymentId key reason fresh now) := by
  refine follows_bind (follows_read _) fun payment => ?_
  split
  · exact follows_pure _
  · refine follows_bind (follows_read _) fun existing => ?_
    cases existing with
    | some existing => exact follows_pure _
    | none =>
        refine follows_bind (follows_bind (follows_read _) fun _ => follows_pure _) fun _ => ?_
        split
        · exact follows_bind (narrow.createRefundIntent _) fun _ => follows_pure _
        · exact follows_pure _

theorem createAutomaticRefundRecord (narrow : Narrow R) (order : Order) (job : Job) (reason : String) :
    Follows R (ProductionService.createAutomaticRefundRecord env order job reason fresh now) := by
  refine follows_bind ?_ fun paymentId => ?_
  · unfold PublicOrderService.paymentToReturn
    split
    · exact follows_pure _
    · exact follows_bind (follows_read _) fun _ => follows_pure _
  · split
    · exact follows_pure ()
    · refine follows_bind (follows_read _) fun payment => ?_
      split
      · exact follows_pure ()
      · exact follows_bind (narrow.ensureAutomaticRefundIntent _ _ _) fun _ => follows_pure ()

omit [IsPreorder Db R] in
theorem requestDispatch (narrow : Narrow R) (terminalId : Id) :
    Follows R (ProductionService.requestDispatch terminalId now) :=
  follows_write fun db => narrow.dispatchRequests db _

end Narrow
namespace Blind
variable {R : Db → Db → Prop} [IsPreorder Db R] {env : Env} {fresh : FreshRefund} {now : Time}

theorem transitionOrder (blind : Blind R) (order : Order) (target : OrderStatus) (actor : String) :
    Follows R (CoffeeCloud.transitionOrder order target actor now) :=
  blind.narrow.transitionOrder order target actor

theorem transitionCommand (blind : Blind R) (command : Command) (target : CommandStatus)
    (actor : String) (strict : Bool) :
    Follows R (CoffeeCloud.transitionCommand command target actor strict now) :=
  blind.narrow.transitionCommand command target actor strict

theorem createAutomaticRefundRecord (blind : Blind R) (order : Order) (job : Job) (reason : String) :
    Follows R (ProductionService.createAutomaticRefundRecord env order job reason fresh now) :=
  blind.narrow.createAutomaticRefundRecord order job reason

omit [IsPreorder Db R] in
theorem requestDispatch (blind : Blind R) (terminalId : Id) :
    Follows R (ProductionService.requestDispatch terminalId now) :=
  blind.narrow.requestDispatch terminalId

end Blind
end CoffeeCloud
