import CoffeeCloud.Books.Covered
import CoffeeCloud.Runs.Projection

/-!
The money of dead orders over whole runs: whichever comes first, the callback or
the end of the order, the transaction that brings both together also sends the
money back.
-/
namespace CoffeeCloud
open Library Tx

namespace Books
variable {b : Books} {x : Posting} {p : Nat}

/-- Books whose dead orders have all their money asked back. -/
structure Squared (b : Books) : Prop where
  sound : b.Sound
  lone : b.Lone
  projected : b.Projected
  answered : b.Answered AutomaticKey
  asked : ∀ p pe, b.Owed p → b.payments p = some pe → pe.amount ≤ (b.balance p).total

theorem Squared.post (h : b.Squared) (hok : ok AutomaticKey b x) (manual : Manual AutomaticKey x) :
    (post x b).Squared := by
  obtain ⟨sound, lone, projected, answered, asked⟩ := h
  have sound' := sound.post hok
  refine ⟨sound', lone.post sound hok, projected.post sound hok (lone.guarded sound hok),
    answered.post sound lone hok manual, fun p pe owed hp => ?_⟩
  have kept : (b.balance p).total ≤ ((Books.post x b).balance p).total := total_post sound hok
  rcases owed.of_post sound lone projected answered hok with before | ⟨-, pe', hp', all⟩
  · obtain ⟨old, -, hp₀, -⟩ := id before
    obtain ⟨pe', hp', -, amount⟩ := post_payment hok hp₀
    cases hp.symm.trans hp'
    have := asked p old before hp₀
    omega
  · cases hp.symm.trans hp'
    have := (sound'.within p pe hp).lost
    simp only [Balance.reserved, Balance.total] at all ⊢
    omega

/-- All of the payment is on its way back. -/
def AllBack (b : Books) (p : Nat) : Prop :=
  ∃ pe, b.payments p = some pe ∧ (b.balance p).reserved = pe.amount

/-- Postings other than refund outcomes leave all of the money on its way back where it is newly
owed. -/
theorem allBack_post {b₀ : Books} (h : b.Squared) (hok : ok AutomaticKey b x)
    (other : ∀ r q o amount status, x ≠ .settle r q o amount status)
    (before : b.Owed p → b₀.Owed p ∨ b.AllBack p) (owed : (post x b).Owed p) :
    b₀.Owed p ∨ (post x b).AllBack p := by
  rcases owed.of_post h.sound h.lone h.projected h.answered hok with old | ⟨-, all⟩
  · refine (before old).imp_right ?_
    rintro ⟨pe, hp, all⟩
    obtain ⟨pe', hp', -, amount⟩ := post_payment hok hp
    refine ⟨pe', hp', ?_⟩
    have kept : (b.balance p).reserved ≤ _ := reserved_post h.sound hok other
    have within := ((h.sound.post hok).within p pe' hp').reserved
    omega
  · exact .inr all

/-- The outcome of a refund makes nothing owed. -/
theorem owed_outcome (h : b.Squared) (hok : ok AutomaticKey b x) (outcome : Outcome x)
    (owed : (post x b).Owed p) : b.Owed p := by
  rcases outcome with ⟨r, status, rfl⟩ | ⟨r, q, o, amount, status, rfl⟩
  · exact owed
  · rcases owed.of_post h.sound h.lone h.projected h.answered hok with before | ⟨other, -⟩
    · exact before
    · exact absurd rfl (other r q o amount status)

end Books

/-- Payment `p` has received money, and its order is cancelled, expired or failed. -/
def Db.Owed (db : Db) (p : Id) : Prop :=
  ∃ payment order, db.payments.find? p = some payment ∧ payment.status ∈ paidCallbackStatuses ∧
    db.orders.find? payment.orderId = some order ∧
    order.status ∈ [OrderStatus.cancelled, .expired, .failed]

theorem Db.owed_iff {db : Db} {p : Id} : db.Owed p ↔ db.books.Owed p := by
  constructor
  · rintro ⟨payment, order, row, received, found, dead⟩
    exact ⟨_, _, Db.books_payment row, received, Db.books_order found, dead⟩
  · rintro ⟨pe, oe, hp, received, ho, dead⟩
    obtain ⟨payment, row, rfl⟩ := (Table.view_eq_some _).mp hp
    obtain ⟨order, found, rfl⟩ := (Table.view_eq_some _).mp ho
    exact ⟨payment, order, row, received, found, dead⟩

/-- All that was ever asked back of a payment, whatever became of it. -/
def Db.askedBack (db : Db) (p : Id) : Int :=
  db.refunds.sumWhere (fun r => r.paymentId = p) (·.amountMinor)

/-- Where an operator asks for a refund, its key is none of the services' own. -/
def Action.ManualKey : Action → Prop
  | .refund _ key .. => ¬ AutomaticKey key
  | _ => True

/-- The keys of merchants are never the services' own. -/
theorem merchant_manual (key : String) : ¬ AutomaticKey ("merchant:" ++ key) := by
  rintro ⟨n, own⟩
  simp only [List.mem_cons, List.not_mem_nil, or_false] at own
  rcases own with own | own | own | own | own
  all_goals
    have heads := congrArg (fun k : String => k.toList.head?) own
    simp [toString] at heads

namespace System
variable {env : Env} {s : System} {a : Action}

theorem posts_manual (manual : a.ManualKey) {x : Posting} (h : a.Posts x) :
    Books.Manual AutomaticKey x := by
  rintro o r rfl
  cases a with
  | refund p key reason amount fresh now =>
      obtain ⟨o', r', same, rfl⟩ := h
      cases same
      exact manual
  | merchantRefund p key reason amount fresh now =>
      obtain ⟨o', r', same, key⟩ := h
      cases same
      rw [key]
      exact merchant_manual _
  | _ =>
      simp [Action.Posts, PaymentApplicationService.Opens, PaymentApplicationService.Created,
        PublicOrderService.Dies, PublicOrderService.Closes, ProductionService.Reports,
        BackgroundWorkerService.Reconciles, BackgroundWorkerService.Processes, Outcome, Collect] at h

/-- An action that records refund outcomes does nothing else. -/
theorem posts_settle {r p o : Nat} {amount : Int} {status : RefundStatus}
    (h : a.Posts (.settle r p o amount status)) : ∀ x, a.Posts x → Outcome x := by
  cases a with
  | claimRefund pick now => exact fun _ => id
  | recordRefund ticket answer now => exact fun _ => id
  | _ =>
      simp [Action.Posts, PaymentApplicationService.Opens, PaymentApplicationService.Created,
        PublicOrderService.Dies, PublicOrderService.Closes, PaymentApplicationService.Requests,
        ProductionService.Reports, BackgroundWorkerService.Reconciles,
        BackgroundWorkerService.Processes, Collect] at h

theorem squared_step (sound : s.Sound) (squared : s.db.books.Squared) (manual : a.ManualKey) :
    ((machine env).step s a).db.books.Squared := by
  have refines : Refines _ _ s.db ((machine env).step s a).db := step_refines sound a
  exact refines.booksKeep sound.books squared fun b x _ hb hx =>
    hb.post hx.1 (posts_manual manual hx.2)

/-- What a transaction makes owed is all on its way back when it is over. -/
theorem step_allBack (sound : s.Sound) (squared : s.db.books.Squared) (manual : a.ManualKey)
    {p : Id} (owed : ((machine env).step s a).db.books.Owed p) :
    s.db.books.Owed p ∨ ((machine env).step s a).db.books.AllBack p := by
  have refines : Refines _ _ s.db ((machine env).step s a).db := step_refines sound a
  by_cases outcome : ∀ x, a.Posts x → Outcome x
  · have kept := refines.booksKeep sound.books
      (I := fun b => b.Squared ∧ (b.Owed p → s.db.books.Owed p)) ⟨squared, id⟩ <| by
        rintro b x - ⟨hb, before⟩ hx
        exact ⟨hb.post hx.1 (posts_manual manual hx.2), fun owed =>
          before (Books.owed_outcome hb hx.1 (outcome x hx.2) owed)⟩
    exact .inl (kept.2 owed)
  · have kept := refines.booksKeep sound.books
      (I := fun b => b.Squared ∧ (b.Owed p → s.db.books.Owed p ∨ b.AllBack p)) ⟨squared, .inl⟩ <| by
        rintro b x - ⟨hb, before⟩ hx
        refine ⟨hb.post hx.1 (posts_manual manual hx.2), Books.allBack_post hb hx.1 ?_ before⟩
        rintro r q o amount status rfl
        exact outcome (posts_settle hx.2)
    exact kept.2 owed

theorem squared_of_run {as : List Action} (manual : ∀ a ∈ as, a.ManualKey) :
    ((machine env).run {} as).Sound ∧ ((machine env).run {} as).db.books.Squared := by
  have start : ({} : System).db.books.Squared := by
    refine ⟨sound_empty.books, ⟨?_, ?_⟩, ?_, ?_, ?_⟩ <;>
      simp [Books.Projected, Books.Answered, Books.Owed, Db.books, Table.view]
  have along : (machine env).Along (fun _ a => a.ManualKey) {} as := by
    rw [Machine.along_iff]
    rintro p a q rfl
    exact manual a (by simp)
  exact Machine.invariant_run (I := fun s => s.Sound ∧ s.db.books.Squared)
    (fun s a h manual => ⟨h.1.step a, squared_step h.1 h.2 manual⟩) ⟨sound_empty, start⟩ along

/-- The money of dead orders is covered: the transaction after which a payment that has received
money first has a dead order leaves exactly its amount reserved for refunds, and as long as the
order is dead refunds of at least its amount have been asked for. -/
theorem owed_covered {as : List Action} (manual : ∀ a ∈ as, a.ManualKey) :
    (∀ p payment, ((machine env).run {} as).db.Owed p →
      ((machine env).run {} as).db.payments.find? p = some payment →
      payment.amountMinor ≤ ((machine env).run {} as).db.askedBack p) ∧
    ∀ a p payment, a.ManualKey → ¬ ((machine env).run {} as).db.Owed p →
      ((machine env).run {} (as ++ [a])).db.Owed p →
      ((machine env).run {} (as ++ [a])).db.payments.find? p = some payment →
      ((machine env).run {} (as ++ [a])).db.refundedTotal p
        [.requested, .processing, .unknown, .succeeded] = payment.amountMinor := by
  have before : ((machine env).run {} as).Sound ∧ ((machine env).run {} as).db.books.Squared :=
    squared_of_run manual
  constructor
  · intro p payment owed found
    have asked := before.2.asked p _ (Db.owed_iff.mp owed) (Db.books_payment found)
    rw [Db.askedBack, ← total_balanceOf]
    exact asked
  · intro a p payment own new owed found
    rw [Machine.run_append] at owed found ⊢
    obtain ⟨pe, hp, all⟩ := (step_allBack before.1 before.2 own (Db.owed_iff.mp owed)).resolve_left
      fun old => new (Db.owed_iff.mpr old)
    cases (Db.books_payment found).symm.trans hp
    have reserved : (balanceOf ((machine env).run ((machine env).run {} as) [a]).db.refunds p).reserved
        = payment.amountMinor := all
    rw [reserved_balanceOf] at reserved
    exact reserved

/-- An order is cancelled while its customer pays. -/
def cancelledSale : List Action := sale.take 4 ++ [.cancel 0 (some "token") (freshRefund 0) 0]

def lateCallback : Action :=
  .callback "mock" "paid" [("out_trade_no", "M0"), ("amount_minor", "500")] (freshRefund 0) 0 0

theorem owed_covered_lateCallback :
    ∃ payment,
      ((machine shop).run {} (cancelledSale ++ [lateCallback])).db.payments.find? 0 = some payment ∧
      ((machine shop).run {} (cancelledSale ++ [lateCallback])).db.refundedTotal 0
        [.requested, .processing, .unknown, .succeeded] = payment.amountMinor := by
  obtain ⟨payment, row, prop⟩ := (Option.any_eq_true
    (fun p : Payment => p.orderId = 0 ∧ p.status = .refunding)
    (((machine shop).run {} (cancelledSale ++ [lateCallback])).db.payments.find? 0)).mp
    (by decide +kernel)
  obtain ⟨order, found, cancelled⟩ := (Option.any_eq_true (fun o : Order => o.status = .cancelled)
    (((machine shop).run {} (cancelledSale ++ [lateCallback])).db.orders.find? 0)).mp
    (by decide +kernel)
  have prop : payment.orderId = 0 ∧ payment.status = .refunding := by simpa using prop
  have unpaid : ¬ ((machine shop).run {} cancelledSale).db.Owed 0 := by
    rintro ⟨before, -, row, received, -⟩
    have pending : ((machine shop).run {} cancelledSale).db.payments.rows.all
        (fun p => p.status ∉ paidCallbackStatuses) = true := by decide +kernel
    exact absurd received (by simpa using List.all_eq_true.mp pending _ (Table.mem_of_find? row))
  refine ⟨payment, row, ?_⟩
  refine (owed_covered fun a ha => ?_).2 lateCallback 0 payment trivial unpaid
    ⟨payment, order, row, by rw [prop.2]; decide, prop.1 ▸ found, ?_⟩ row
  · simp only [cancelledSale, sale, List.take, List.cons_append, List.nil_append, List.mem_cons,
      List.not_mem_nil, or_false] at ha
    rcases ha with rfl | rfl | rfl | rfl | rfl <;> trivial
  · rw [of_decide_eq_true cancelled]
    decide

end System
end CoffeeCloud
