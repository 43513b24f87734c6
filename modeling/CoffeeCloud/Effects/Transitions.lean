import CoffeeCloud.Refinement

/-!
What the choke points leave behind, in closed form, given that the row they are
handed is the row of the table.
-/
namespace CoffeeCloud
open Library Tx

section Payment
variable {db db' : Db} {payment : Payment} {target : PaymentStatus} {now : Time}

theorem ran_modifyPayment {k : Id} {f : Payment → Payment} {hf : ∀ p, (f p).id = p.id}
    {p' : Payment} : Ran (PaymentRepository.modifyPayment k f hf) db p' db' ↔
      ∃ p, db.payments.find? k = some p ∧ f p = p' ∧
        { db with payments := db.payments.modify k f hf } = db' := by
  simp only [PaymentRepository.modifyPayment, PaymentRepository.find, ran_write_bind,
    ran_read_bind, ran_require, Table.find?_modify, if_true, Option.map_eq_some_iff]
  constructor
  · rintro ⟨⟨p, row, moved⟩, left⟩
    exact ⟨p, row, moved, left⟩
  · rintro ⟨p, row, moved, left⟩
    exact ⟨⟨p, row, moved⟩, left⟩

theorem Payment.moves_id (payment : Payment) (target : PaymentStatus) (now : Time) (p : Payment) :
    (PaymentRepository.transitioned (payment.revision + 1) target now p).id = p.id := rfl

def Db.movePayment (db : Db) (payment : Payment) (target : PaymentStatus) (now : Time) : Db :=
  { db with
    payments := db.payments.modify payment.id
      (PaymentRepository.transitioned (payment.revision + 1) target now)
      (payment.moves_id target now) }

def Payment.moved (payment : Payment) (target : PaymentStatus) (now : Time) : Payment :=
  PaymentRepository.transitioned (payment.revision + 1) target now payment

theorem ran_transitionPayment {r : Payment × Bool}
    (h : Ran (transitionPayment payment target now) db r db')
    (found : db.payments.find? payment.id = some payment) :
    (payment.status = target ∧ r = (payment, true) ∧ db' = db) ∨
      (payment.status ≠ target ∧ target ∈ paymentTransitions payment.status ∧
        r = (payment.moved target now, false) ∧ db' = db.movePayment payment target now) := by
  simp only [transitionPayment, decidePaymentTransition] at h
  by_cases same : payment.status = target
  · simp only [same, if_true, ran_pure] at h
    exact .inl ⟨same, h.1.symm, h.2.symm⟩
  · by_cases legal : target ∈ paymentTransitions payment.status
    · simp only [same, legal, if_true, if_false, Bool.false_eq_true, ran_bind, ran_pure,
        PaymentRepository.transitionPayment] at h
      obtain ⟨p, _, written, rfl, rfl⟩ := h
      obtain ⟨q, row, rfl, rfl⟩ := ran_modifyPayment.mp written
      cases found.symm.trans row
      exact .inr ⟨same, legal, rfl, rfl⟩
    · simp [same, legal] at h

@[simp] theorem Db.movePayment_find? (db : Db) (found : db.payments.find? payment.id = some payment) :
    (db.movePayment payment target now).payments.find? payment.id =
      some (payment.moved target now) := by
  simp [movePayment, Table.find?_modify, found, Payment.moved]

theorem Db.movePayment_books (db : Db) : (db.movePayment payment target now).books =
    { db.books with
      payments := adjust db.books.payments payment.id fun e => { e with status := target } } := by
  simp only [Db.books, movePayment]
  congr 1
  exact Table.view_modify PaymentEntry.of _ _ fun _ => rfl

end Payment

section Refund
variable {db db' : Db} {refund : Refund} {target : RefundStatus} {now : Time}

def Db.moveRefund (db : Db) (refund : Refund) (target : RefundStatus) (now : Time) : Db :=
  { db with
    refunds := db.refunds.modify refund.id (PaymentRepository.refundTransitioned target now)
      (PaymentRepository.refundTransitioned_id _ _) }

theorem ran_transitionRefund {r : Refund × Bool}
    (h : Ran (transitionRefund refund target now) db r db')
    (found : db.refunds.find? refund.id = some refund) :
    (refund.status = target ∧ r = (refund, true) ∧ db' = db) ∨
      (refund.status ≠ target ∧ target ∈ refundTransitions refund.status ∧
        r = (PaymentRepository.refundTransitioned target now refund, false) ∧
        db' = db.moveRefund refund target now) := by
  simp only [transitionRefund, decideRefundTransition] at h
  by_cases same : refund.status = target
  · simp only [same, if_true, ran_pure] at h
    exact .inl ⟨same, h.1.symm, h.2.symm⟩
  · by_cases legal : target ∈ refundTransitions refund.status
    · simp only [same, legal, if_true, if_false, Bool.false_eq_true, bind_assoc,
        PaymentRepository.transitionRefund, PaymentRepository.modifyRefund,
        PaymentRepository.findRefund, ran_write_bind, ran_read_bind, ran_require_bind, ran_pure,
        Table.find?_modify, found, Option.map_some, Option.some.injEq] at h
      obtain ⟨p, rfl, rfl, rfl⟩ := h
      exact .inr ⟨same, legal, rfl, rfl⟩
    · simp [same, legal] at h

end Refund

section Order
variable {db db' : Db} {order row r : Order} {target : OrderStatus} {actor : String} {now : Time}

/-- The times a transition stamps on an order. -/
structure OrderStamps where
  startedAt : Option Time
  completedAt : Option Time
  cancelledAt : Option Time

def Order.moved (target : OrderStatus) (t : OrderStamps) (o : Order) : Order :=
  { o with
    status := target, startedAt := t.startedAt, completedAt := t.completedAt
    cancelledAt := t.cancelledAt }

theorem Order.moved_id (target : OrderStatus) (t : OrderStamps) (o : Order) :
    (o.moved target t).id = o.id := rfl

def Db.moveOrder (db : Db) (o : Id) (target : OrderStatus) (t : OrderStamps)
    (log : List OrderTransition) : Db :=
  { db with
    orders := db.orders.modify o (Order.moved target t) (Order.moved_id _ _)
    orderTransitions := log }

/-- An order stays as it is, or its row moves along the transition table. The decision is made on
the row as it was read, which other columns may have left behind. -/
theorem ran_transitionOrder (h : Ran (transitionOrder order target actor now) db r db')
    (found : db.orders.find? order.id = some row) :
    ((order.status = target ∨ target ∉ orderTransitions order.status) ∧ r = order ∧ db' = db) ∨
      (order.status ≠ target ∧ target ∈ orderTransitions order.status ∧
        ∃ t log, r = row.moved target t ∧ db' = db.moveOrder order.id target t log) := by
  simp only [transitionOrder, orderTransitionAllowed] at h
  by_cases same : order.status = target
  · simp only [same, if_true, ran_pure] at h
    exact .inl ⟨.inl same, h.1.symm, h.2.symm⟩
  · by_cases legal : target ∈ orderTransitions order.status
    · simp only [same, legal, if_true, if_false, decide_true, decide_false, Bool.or_true,
        bind_assoc, ran_pure, ran_write_bind, ran_read_bind, ran_require_bind,
        OrderRepository.nextTransitionRevision, OrderRepository.updateTransitionState,
        OrderRepository.insertTransition, OrderRepository.find, Table.find?_modify, found,
        Option.map_some, Option.some.injEq] at h
      obtain ⟨_, rfl, rfl, rfl⟩ := h
      exact .inr ⟨same, legal, ⟨_, _, _⟩, _, rfl, rfl⟩
    · simp only [same, legal, if_false, decide_false, Bool.or_false, Bool.false_eq_true, ran_pure] at h
      exact .inl ⟨.inr legal, h.1.symm, h.2.symm⟩

theorem Db.moveOrder_books (db : Db) {o : Id} {t : OrderStamps} {log : List OrderTransition} :
    (db.moveOrder o target t log).books = Books.setStatus o target db.books := by
  simp only [Db.books, moveOrder, Books.setStatus]
  congr 1
  exact Table.view_modify OrderEntry.of _ _ fun _ => rfl

theorem Db.moveOrder_floor (db : Db) {o : Id} {t : OrderStamps} {log : List OrderTransition} :
    (db.moveOrder o target t log).floor = Floor.setOrder o target db.floor := by
  simp only [Db.floor, moveOrder, Floor.setOrder]
  congr 1
  exact Table.view_modify OrderPlace.of _ _ fun _ => rfl

/-- A change of an order below what the floor sees. -/
theorem floor_modifyOrder (db : Db) {o : Id} {f : Order → Order} (hf : ∀ r, (f r).id = r.id)
    (same : ∀ r, db.orders.find? o = some r → OrderPlace.of (f r) = OrderPlace.of r) :
    ({ db with orders := db.orders.modify o f hf } : Db).floor = db.floor := by
  simp only [Db.floor]
  congr 1
  exact Table.view_modify_same OrderPlace.of hf same

theorem floor_adjustOrder (db : Db) {o : Id} {f : Order → Order} (g : OrderPlace → OrderPlace)
    (hf : ∀ r, (f r).id = r.id) (h : ∀ r, OrderPlace.of (f r) = g (OrderPlace.of r)) :
    ({ db with orders := db.orders.modify o f hf } : Db).floor =
      { db.floor with orders := adjust db.floor.orders o g } := by
  simp only [Db.floor]
  congr 1
  exact Table.view_modify OrderPlace.of g hf h

theorem books_modifyOrder (db : Db) {o : Id} {f : Order → Order} (g : OrderEntry → OrderEntry)
    (hf : ∀ r, (f r).id = r.id) (h : ∀ r, OrderEntry.of (f r) = g (OrderEntry.of r)) :
    ({ db with orders := db.orders.modify o f hf } : Db).books =
      { db.books with orders := adjust db.books.orders o g } := by
  simp only [Db.books]
  congr 1
  exact Table.view_modify OrderEntry.of g hf h

theorem Books.setStatus_eq_self {b : Books} {o : Nat} {e : OrderEntry} (ho : b.orders o = some e) :
    Books.setStatus o e.status b = b := by
  simp only [Books.setStatus]
  rw [adjust_eq_self]
  intro e' he'
  cases ho.symm.trans he'
  rfl

theorem Floor.setOrder_eq_self {f : Floor} {o : Nat} {e : OrderPlace} (ho : f.orders o = some e) :
    Floor.setOrder o e.status f = f := by
  simp only [Floor.setOrder]
  rw [adjust_eq_self]
  intro e' he'
  cases ho.symm.trans he'
  rfl

/-- What a transition of an order leaves as it is. -/
theorem transitionOrder_rest (h : Ran (transitionOrder order target actor now) db r db')
    (found : db.orders.find? order.id = some order) :
    r.id = order.id ∧ r.paidPaymentId = order.paidPaymentId ∧ db'.jobs = db.jobs ∧
      db'.commands = db.commands ∧ db'.payments = db.payments := by
  rcases ran_transitionOrder h found with ⟨-, rfl, rfl⟩ | ⟨-, -, _, _, rfl, rfl⟩
  · exact ⟨rfl, rfl, rfl, rfl, rfl⟩
  · exact ⟨rfl, rfl, rfl, rfl, rfl⟩

/-- A move the transition table permits, as the books and the floor see it. -/
theorem transitionOrder_effect (h : Ran (transitionOrder order target actor now) db r db')
    (found : db.orders.find? order.id = some order)
    (legal : order.status = target ∨ target ∈ orderTransitions order.status) :
    db'.books = Books.setStatus order.id target db.books ∧
      db'.floor = Floor.setOrder order.id target db.floor := by
  rcases ran_transitionOrder h found with ⟨stuck, -, rfl⟩ | ⟨-, -, _, _, -, rfl⟩
  · have same : order.status = target := stuck.elim id fun no => legal.resolve_right no
    subst same
    exact ⟨(Books.setStatus_eq_self (Db.books_order found)).symm,
      (Floor.setOrder_eq_self (Db.floor_order found)).symm⟩
  · exact ⟨db.moveOrder_books, db.moveOrder_floor⟩

theorem Order.projects_id (status : PaymentStatus) (r : Order) :
    { r with paymentStatus := status }.id = r.id := rfl

def Db.projectOrder (db : Db) (o : Id) (status : PaymentStatus) : Db :=
  { db with
    orders := db.orders.modify o (fun r => { r with paymentStatus := status })
      (Order.projects_id status) }

theorem updatePaymentStatus_eq (o : Id) (status : PaymentStatus) :
    OrderRepository.updatePaymentStatus o status = Tx.write (·.projectOrder o status) := rfl

theorem Db.projectOrder_find? (db : Db) {o : Id} (status : PaymentStatus)
    (found : db.orders.find? o = some row) : (db.projectOrder o status).orders.find? o =
      some { row with paymentStatus := status } := by
  simp [projectOrder, Table.find?_modify, found]

theorem Db.projectOrder_books (db : Db) {o : Id} {status : PaymentStatus} :
    (db.projectOrder o status).books =
      { db.books with orders := adjust db.books.orders o fun e => { e with payment := status } } :=
  books_modifyOrder db _ _ fun _ => rfl

theorem Db.projectOrder_floor (db : Db) {o : Id} {status : PaymentStatus} :
    (db.projectOrder o status).floor = db.floor :=
  floor_modifyOrder db _ fun _ _ => rfl

end Order

section Command
variable {db db' : Db} {command : Command} {target : CommandStatus} {actor : String} {strict : Bool}
  {now : Time}

def Db.moveCommand (db : Db) (command : Command) (target : CommandStatus) (now : Time)
    (log : List CommandTransition) : Db :=
  { db with
    commands := db.commands.modify command.id (CommandRepository.transitioned command target now)
      (CommandRepository.transitioned_id _ _ _)
    commandTransitions := log }

/-- A command stays as it is, or its row moves along the transition table. The decision is made on
the row as it was read. -/
theorem ran_transitionCommand {r : Command × Bool}
    (h : Ran (transitionCommand command target actor strict now) db r db') :
    (r = (command, decide (command.status = target)) ∧ db' = db ∧
        (command.status = target ∨ strict = false ∧
          (decideTransition command.status target).allowed = false)) ∨
      (command.status ≠ target ∧ command.status ∉ terminalStates ∧
        target ∈ legalTransitions command.status ∧
        (∃ row, db.commands.find? command.id = some row ∧
          r = (CommandRepository.transitioned command target now row, false)) ∧
        ∃ log, db' = db.moveCommand command target now log) := by
  simp only [transitionCommand, decideTransition] at h ⊢
  by_cases same : command.status = target
  · simp only [same, if_true, ran_pure] at h
    exact .inl ⟨by simp [same, h.1], h.2.symm, .inl same⟩
  · by_cases final : command.status ∈ terminalStates
    · cases strict <;> simp [same, final] at h
      exact .inl ⟨by simp [same, h.1], h.2.symm, .inr ⟨rfl, by simp [same, final]⟩⟩
    · by_cases legal : target ∈ legalTransitions command.status
      · simp only [same, final, legal, if_true, if_false, Bool.false_eq_true, bind_assoc, pure_bind,
          ran_pure, ran_write_bind, ran_read_bind, ran_require_bind, CommandRepository.transition,
          CommandRepository.modifyCommand, CommandRepository.byDbId, Table.find?_modify,
          Option.map_eq_some_iff] at h
        obtain ⟨_, ⟨row, found, rfl⟩, rfl, rfl⟩ := h
        exact .inr ⟨same, final, legal, ⟨row, found, rfl⟩, _, rfl⟩
      · cases strict <;> simp [same, final, legal] at h
        exact .inl ⟨by simp [same, h.1], h.2.symm, .inr ⟨rfl, by simp [same, final, legal]⟩⟩

theorem Db.moveCommand_books (db : Db) {log : List CommandTransition} :
    (db.moveCommand command target now log).books = db.books := rfl

theorem Db.moveCommand_floor (db : Db) {log : List CommandTransition} :
    (db.moveCommand command target now log).floor =
      { db.floor with
        commands := adjust db.floor.commands command.id fun e => { e with status := target } } := by
  simp only [Db.floor, moveCommand]
  congr 1
  exact Table.view_modify CommandEntry.of _ _ fun _ => rfl

/-- What a strict transition of a command leaves as it is. -/
theorem transitionCommand_rest {r : Command × Bool}
    (h : Ran (transitionCommand command target actor true now) db r db') :
    db'.books = db.books ∧ db'.orders = db.orders ∧ db'.jobs = db.jobs := by
  rcases ran_transitionCommand h with ⟨-, rfl, -⟩ | ⟨-, -, -, -, _, rfl⟩
  · exact ⟨rfl, rfl, rfl⟩
  · exact ⟨rfl, rfl, rfl⟩

/-- A strict transition of a command, as the floor sees it. -/
theorem transitionCommand_effect {r : Command × Bool}
    (h : Ran (transitionCommand command target actor true now) db r db')
    (entry : db.floor.commands command.id = some (.of command)) :
    db'.floor = { db.floor with
      commands := adjust db.floor.commands command.id fun e => { e with status := target } } := by
  rcases ran_transitionCommand h with ⟨-, rfl, same | ⟨⟨⟩, -⟩⟩ | ⟨-, -, -, -, _, rfl⟩
  · rw [adjust_eq_self]
    intro e he
    cases entry.symm.trans he
    simp [CommandEntry.of, same]
  · exact db.moveCommand_floor

end Command

section Job
variable {db db' : Db} {k : Id} {f : Job → Job} {hf : ∀ j, (f j).id = j.id} {u : Unit}

/-- A change of a job, as the floor sees it; the books do not. -/
theorem modifyJob_effect (g : JobEntry → JobEntry)
    (h : Ran (OrderRepository.modifyJob k f hf) db u db')
    (same : ∀ j, JobEntry.of (f j) = g (JobEntry.of j)) :
    db'.books = db.books ∧
      db'.floor = { db.floor with jobs := adjust db.floor.jobs k g } ∧
      db'.orders = db.orders ∧ db'.commands = db.commands := by
  simp only [OrderRepository.modifyJob, ran_write] at h
  subst h
  refine ⟨rfl, ?_, rfl, rfl⟩
  simp only [Db.floor]
  congr 1
  exact Table.view_modify JobEntry.of g hf same

end Job
end CoffeeCloud
