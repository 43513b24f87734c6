import CoffeeCloud.Books.Sound
import CoffeeCloud.Floor.Sound
import CoffeeCloud.System

/-!
The database as the books and the floor see it. Each write of the services is
read back here once, through both.
-/
namespace CoffeeCloud
open Library

def OrderEntry.of (o : Order) : OrderEntry := ⟨o.status, o.paymentStatus, o.paidPaymentId⟩

def PaymentEntry.of (p : Payment) : PaymentEntry := ⟨p.orderId, p.amountMinor, p.status⟩

def RefundEntry.of (r : Refund) : RefundEntry :=
  ⟨r.paymentId, r.amountMinor, r.status, r.idempotencyKey⟩

def EventEntry.of (e : BusinessEvent) : EventEntry :=
  ⟨e.paymentId, e.orderId, e.idempotencyKey, e.status = .processed⟩

def OrderPlace.of (o : Order) : OrderPlace := ⟨o.status, o.terminalId⟩

def JobEntry.of (j : Job) : JobEntry :=
  { order := j.orderId, terminal := j.terminalId, task := j.taskId, command := j.commandId
    status := j.status, review := j.manualReviewRequired, revision := j.lastDeviceRevision
    attempt := j.executionAttempt, started := j.startedAt.isSome
    version := j.revision }

def CommandEntry.of (c : Command) : CommandEntry :=
  ⟨c.terminalId, c.taskId, c.commandType = "MAKE_DRINK", c.status⟩

def Ruling.of (a : Adjudication) : Ruling :=
  ⟨a.orderId, a.idempotencyKey, a.requestDigest, a.taskId, a.status, a.productionStatus,
    a.productionRevision, a.deviceReleasePending⟩

def Slip.of (o : CommandOutbox) : Slip := ⟨o.commandId, o.status, o.attemptCount⟩

/-- The refunds of a payment, added up by where they stand. -/
def balanceOf (refunds : Table Refund) (p : Id) : Balance where
  held := refunds.sumWhere
    (fun r => r.paymentId = p ∧ r.status ∈ inFlightRefundStatuses) (·.amountMinor)
  spent := refunds.sumWhere (fun r => r.paymentId = p ∧ r.status ∈ [.succeeded]) (·.amountMinor)
  lost := refunds.sumWhere (fun r => r.paymentId = p ∧ r.status ∈ [.failed]) (·.amountMinor)

def Db.books (db : Db) : Books where
  orders := db.orders.view OrderEntry.of
  payments := db.payments.view PaymentEntry.of
  refunds := db.refunds.view RefundEntry.of
  balance := balanceOf db.refunds
  events := db.businessOutbox.view EventEntry.of

def Db.floor (db : Db) : Floor where
  terminals := fun t => (db.terminals.find? t).isSome
  orders := db.orders.view OrderPlace.of
  jobs := db.jobs.view JobEntry.of
  commands := db.commands.view CommandEntry.of
  slips := db.commandOutbox.view Slip.of
  rulings := db.adjudications.view Ruling.of

section Entries
variable {db : Db} {k : Id}

theorem Db.books_order {o : Order} (h : db.orders.find? k = some o) :
    db.books.orders k = some (.of o) := Table.view_of_find? _ h

theorem Db.books_payment {p : Payment} (h : db.payments.find? k = some p) :
    db.books.payments k = some (.of p) := Table.view_of_find? _ h

theorem Db.books_refund {r : Refund} (h : db.refunds.find? k = some r) :
    db.books.refunds k = some (.of r) := Table.view_of_find? _ h

theorem Db.books_event {e : BusinessEvent} (h : db.businessOutbox.find? k = some e) :
    db.books.events k = some (.of e) := Table.view_of_find? _ h

theorem Db.floor_order {o : Order} (h : db.orders.find? k = some o) :
    db.floor.orders k = some (.of o) := Table.view_of_find? _ h

theorem Db.floor_job {j : Job} (h : db.jobs.find? k = some j) :
    db.floor.jobs k = some (.of j) := Table.view_of_find? _ h

theorem Db.floor_command {c : Command} (h : db.commands.find? k = some c) :
    db.floor.commands k = some (.of c) := Table.view_of_find? _ h

theorem Db.floor_slip {o : CommandOutbox} (h : db.commandOutbox.find? k = some o) :
    db.floor.slips k = some (.of o) := Table.view_of_find? _ h

end Entries

section Balance
variable {t : Table Refund} {p k : Id} {r : Refund}

theorem Refund.amount_nonneg (r : Refund) : 0 ≤ r.amountMinor := r.amountPositive.le

theorem reserved_balanceOf (t : Table Refund) (p : Id) :
    (balanceOf t p).reserved = t.sumWhere
      (fun r => r.paymentId = p ∧ r.status ∈ budgetRefundStatuses) (·.amountMinor) := by
  rw [t.sumWhere_split _ fun r => r.status ∈ inFlightRefundStatuses]
  simp only [balanceOf, Balance.reserved]
  congr 1
  · apply Table.sumWhere_congr
    intro r _
    cases r.status <;> simp [inFlightRefundStatuses, budgetRefundStatuses]
  · apply Table.sumWhere_congr
    intro r _
    cases r.status <;> simp [inFlightRefundStatuses, budgetRefundStatuses]

/-- All refunds of a payment, whatever became of them. -/
theorem total_balanceOf (t : Table Refund) (p : Id) :
    (balanceOf t p).total = t.sumWhere (fun r => r.paymentId = p) (·.amountMinor) := by
  rw [t.sumWhere_split _ fun r => r.status ∈ budgetRefundStatuses]
  have := reserved_balanceOf t p
  simp only [Balance.reserved, Balance.total] at this ⊢
  rw [this]
  congr 1
  · apply Table.sumWhere_congr
    intro r _
    simp
  · apply Table.sumWhere_congr
    intro r _
    cases r.status <;> simp [inFlightRefundStatuses, budgetRefundStatuses]

theorem le_held (hr : t.find? k = some r) (live : r.status ∈ inFlightRefundStatuses) :
    r.amountMinor ≤ (balanceOf t r.paymentId).held :=
  Table.le_sumWhere (Table.mem_of_find? hr) (by simp [live])
    fun x _ _ => x.amount_nonneg

theorem inflight_iff (db : Db) (p : Id) :
    db.inflightRefundExists p = true ↔ 0 < (balanceOf db.refunds p).held := by
  simp only [Db.inflightRefundExists, List.any_eq_true, decide_eq_true_eq]
  constructor
  · rintro ⟨r, hr, rfl, live⟩
    exact r.amountPositive.trans_le (le_held (Table.find?_of_mem hr) live)
  · intro positive
    by_contra none
    have : (balanceOf db.refunds p).held = 0 := by
      apply Table.sumWhere_eq_zero
      intro r hr
      simp only [decide_eq_false_iff_not]
      exact fun found => none ⟨r, hr, found⟩
    omega

theorem balanceOf_insert (fresh : t.find? r.id = none) (requested : r.status = .requested) :
    balanceOf (t.insert r) = fun q =>
      if q = r.paymentId then (balanceOf t q).reserve r.amountMinor else balanceOf t q := by
  funext q
  simp only [balanceOf, t.sumWhere_insert r _ _ fresh, requested, Balance.reserve]
  by_cases hq : r.paymentId = q
  · simp [hq, inFlightRefundStatuses]
  · simp [hq, Ne.symm hq]

theorem balanceOf_modify {f : Refund → Refund} (hf : ∀ r, (f r).id = r.id)
    (hr : t.find? k = some r) (payment : (f r).paymentId = r.paymentId)
    (amount : (f r).amountMinor = r.amountMinor) (live : r.status ∈ inFlightRefundStatuses) :
    balanceOf (t.modify k f hf) = fun q =>
      if q = r.paymentId ∧ (f r).status ∉ inFlightRefundStatuses then
        Books.outcome (f r).status r.amountMinor (balanceOf t q)
      else balanceOf t q := by
  funext q
  have held := t.sumWhere_modify (fun r => r.paymentId = q ∧ r.status ∈ inFlightRefundStatuses)
    (·.amountMinor) hf hr
  have spent := t.sumWhere_modify (fun r => r.paymentId = q ∧ r.status ∈ [.succeeded])
    (·.amountMinor) hf hr
  have lost := t.sumWhere_modify (fun r => r.paymentId = q ∧ r.status ∈ [.failed])
    (·.amountMinor) hf hr
  simp only [payment, amount] at held spent lost
  simp only [balanceOf]
  by_cases hq : r.paymentId = q
  · revert live held spent lost
    cases r.status <;> cases (f r).status <;>
      simp [hq, inFlightRefundStatuses, Books.outcome, Balance.spend, Balance.release] <;> omega
  · simp only [hq, false_and, decide_false, Bool.false_eq_true, if_false, add_zero] at held spent lost
    rw [held, spent, lost, if_neg fun same => hq same.1.symm]

/-- An update that leaves payment, amount and status of a refund moves no money. -/
theorem balanceOf_touch {f : Refund → Refund} (hf : ∀ r, (f r).id = r.id)
    (same : ∀ r, RefundEntry.of (f r) = RefundEntry.of r) :
    balanceOf (t.modify k f hf) = balanceOf t := by
  funext q
  cases hr : t.find? k with
  | none =>
      rw [Table.modify_eq_self hf fun r h => by simp [hr] at h]
  | some r =>
      have := same r
      simp only [RefundEntry.of, RefundEntry.mk.injEq] at this
      have held := t.sumWhere_modify (fun r => r.paymentId = q ∧ r.status ∈ inFlightRefundStatuses)
        (·.amountMinor) hf hr
      have spent := t.sumWhere_modify (fun r => r.paymentId = q ∧ r.status ∈ [.succeeded])
        (·.amountMinor) hf hr
      have lost := t.sumWhere_modify (fun r => r.paymentId = q ∧ r.status ∈ [.failed])
        (·.amountMinor) hf hr
      simp only [this] at held spent lost
      simp only [balanceOf, Balance.mk.injEq]
      exact ⟨by omega, by omega, by omega⟩

end Balance
end CoffeeCloud
