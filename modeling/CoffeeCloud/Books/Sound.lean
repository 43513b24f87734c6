import CoffeeCloud.Books

/-!
The books stay sound: a posting rewrites one payment with its order, an order on
its own, or labels the books do not compute with.
-/
namespace CoffeeCloud
open Library

namespace Books
variable {b b' : Books} {automatic : String → Prop} {p o : Nat} {pe pe' : PaymentEntry}
  {oe oe' : OrderEntry}

/-- An order without a received payment has no primary one yet. -/
theorem Sound.unclaimed (h : b.Sound) (hp : b.payments p = some pe) (ho : b.orders o = some oe)
    (new : ¬ pe.status.Received) (mine : oe.primary.all (· = p)) : oe.primary = none := by
  cases hprimary : oe.primary with
  | none => rfl
  | some q =>
      obtain ⟨qe, hq, -, received⟩ := h.primary o oe q ho hprimary
      simp only [hprimary, Option.all_some, decide_eq_true_eq] at mine
      subst mine
      cases hp.symm.trans hq
      exact absurd received new

/-- What may change when payment `p` and its order `o` are rewritten. -/
structure Rewrite (b b' : Books) (p o : Nat) (pe' : PaymentEntry) (oe' : OrderEntry) : Prop where
  payments : b'.payments = put b.payments p pe'
  orders : b'.orders = put b.orders o oe'
  balance : ∀ q, q ≠ p → b'.balance q = b.balance q
  refunds : ∀ r e, b'.refunds r = some e →
    e.payment = p ∨ ∃ e₀, b.refunds r = some e₀ ∧ e₀.payment = e.payment
  events : ∀ x e, b'.events x = some e →
    (e.payment = p ∧ e.order = o ∧ e.key = eventKey p ∧ oe'.primary = some p ∧
      pe'.status.Received) ∨ b.events x = some e

/-- A payment and its order fit together over the balance of the payment. -/
structure Square (bal : Balance) (pe : PaymentEntry) (oe : OrderEntry) : Prop where
  positive : 0 < pe.amount
  within : bal.Within pe.amount
  status : pe.status.Received → pe.status = settled (bal.phase pe.amount)
  untouched : ¬ pe.status.Received → bal = {}
  received : pe.status.Received → oe.primary.isSome
  paid : oe.payment = .paid → oe.primary.isSome
  started : oe.primary.isSome → ¬ oe.status.Unpaid

attribute [local grind =] put_apply

/-- A rewritten payment and order are sound where they are square and nothing was taken back. -/
theorem Sound.rewrite (h : b.Sound) (hp : b.payments p = some pe) (ho : b.orders o = some oe)
    (order : pe.order = o) (pe' : PaymentEntry) (oe' : OrderEntry)
    (w : Rewrite b b' p o pe' oe') (order' : pe'.order = o) (square : Square (b'.balance p) pe' oe')
    (kept : pe.status.Received → pe'.status.Received)
    (touched : ∀ r e, b'.refunds r = some e → e.payment = p → pe'.status.Received)
    (primary : oe'.primary = oe.primary ∨
      oe.primary = none ∧ oe'.primary = some p ∧ pe'.status.Received) : b'.Sound := by
  obtain ⟨payments, orders, balance, refunds, events⟩ := w
  obtain ⟨s₁, s₂, s₃, s₄, s₅, s₆, s₇⟩ := square
  constructor
  case order =>
    have := h.order
    simp only [payments, orders]
    grind
  case positive =>
    have := h.positive
    simp only [payments]
    grind
  case refundReceived =>
    have := h.refundReceived
    simp only [payments]
    grind
  case event =>
    have := h.event
    simp only [payments, orders]
    grind
  case eventKey =>
    have := h.eventKey
    grind
  case primary =>
    have := h.primary
    simp only [payments, orders]
    grind
  case received =>
    have := h.received
    simp only [payments, orders]
    grind
  case untouched =>
    have := h.untouched
    simp only [payments]
    grind
  case within =>
    have := h.within
    simp only [payments]
    grind
  case status =>
    have := h.status
    simp only [payments]
    grind
  case paid =>
    have := h.paid
    simp only [orders]
    grind
  case started =>
    have := h.started
    simp only [orders]
    grind

/-- An order rewritten on its own keeps its primary payment. -/
theorem Sound.reorder (h : b.Sound) (ho : b.orders o = some oe) (oe' : OrderEntry)
    (primary : oe'.primary = oe.primary) (paid : oe'.payment = .paid → oe.primary.isSome)
    (started : oe.primary.isSome → ¬ oe'.status.Unpaid) :
    Sound { b with orders := put b.orders o oe' } := by
  obtain ⟨h₁, h₂, h₃, h₄, h₅, h₆, h₇, h₈, h₉, h₁₀, h₁₁, h₁₂⟩ := h
  constructor <;> grind

theorem square_of_sound (h : b.Sound) (hp : b.payments p = some pe) (order : pe.order = o)
    (ho : b.orders o = some oe) : Square (b.balance p) pe oe := by
  refine ⟨h.positive p pe hp, h.within p pe hp, h.status p pe hp, ?_, ?_, h.paid o oe ho,
    h.started o oe ho⟩
  · intro new
    refine h.untouched p fun e he => ?_
    cases hp.symm.trans he
    exact new
  · intro received
    obtain ⟨e, he, primary⟩ := h.received p pe hp received
    rw [order, ho] at he
    cases he
    exact primary

/-- A payment moved among the states that have not received money. -/
theorem Sound.unreceived (h : b.Sound) (hp : b.payments p = some pe) (order : pe.order = o)
    (ho : b.orders o = some oe) (status : PaymentStatus) (oe' : OrderEntry)
    (new : ¬ pe.status.Received) (new' : ¬ status.Received) (primary : oe'.primary = oe.primary)
    (paid : oe'.payment = .paid → oe.primary.isSome)
    (started : oe.primary.isSome → ¬ oe'.status.Unpaid) :
    Sound { b with
      payments := put b.payments p { pe with status }
      orders := put b.orders o oe' } := by
  have square := square_of_sound h hp order ho
  refine h.rewrite hp ho order { pe with status } oe'
    ⟨rfl, rfl, fun _ _ => rfl, fun r e he => .inr ⟨e, he, rfl⟩, fun _ _ => .inr⟩ order ?_
    (fun received => absurd received new) ?_ (.inl primary)
  · exact ⟨square.positive, square.within, fun r => absurd r new', fun _ => square.untouched new,
      fun r => absurd r new', by rwa [primary], by rwa [primary]⟩
  · intro r e he hr
    obtain ⟨qe, hq, received⟩ := h.refundReceived r e he
    rw [hr, hp] at hq
    cases hq
    exact absurd received new

theorem Sound.pend (h : b.Sound) (hok : ok automatic b (.pend p)) : (post (.pend p) b).Sound := by
  obtain ⟨e, hp, created⟩ := hok
  obtain ⟨oe, ho⟩ := Option.isSome_iff_exists.mp (h.order p e hp)
  have := h.unreceived hp rfl ho .pending oe (by rw [created]; decide)
    (by decide) rfl (h.paid _ oe ho) (h.started _ oe ho)
  rw [← adjust_of_some (g := fun e => e) ho, adjust_id] at this
  simpa only [post, adjust_of_some hp] using this

theorem not_received_of_open {s : PaymentStatus} (h : s.Open) : ¬ s.Received := by
  revert h
  cases s <;> decide

theorem Sound.close (h : b.Sound) (hok : ok automatic b (.close p o)) :
    (post (.close p o) b).Sound := by
  obtain ⟨e, oe, hp, order, isOpen, ho, -⟩ := hok
  have := h.unreceived hp order ho .closed oe (not_received_of_open isOpen)
    (by decide) rfl (h.paid _ oe ho) (h.started _ oe ho)
  rw [← adjust_of_some (g := fun e => e) ho, adjust_id] at this
  simpa only [post, adjust_of_some hp] using this

theorem Sound.reconcile (h : b.Sound) {target : PaymentStatus}
    (hok : ok automatic b (.reconcile p o target)) : (post (.reconcile p o target) b).Sound := by
  obtain ⟨e, hp, order, isOpen, closing⟩ := hok
  obtain ⟨oe, ho⟩ := Option.isSome_iff_exists.mp (h.order p e hp)
  rw [order] at ho
  have ends : target = .closed ∨ target = .failed := by simpa using closing
  have := h.unreceived hp order ho target
    { oe with payment := target, status := if oe.status.Unpaid then .cancelled else oe.status }
    (not_received_of_open isOpen) (by rcases ends with rfl | rfl <;> decide) rfl
    (by rcases ends with rfl | rfl <;> simp)
    (fun primary => by simp [h.started o oe ho primary])
  simpa only [post, adjust_of_some hp, adjust_of_some ho] using this

theorem Sound.openPayment (h : b.Sound) {amount : Int}
    (hok : ok automatic b (.openPayment p o amount)) : (post (.openPayment p o amount) b).Sound := by
  obtain ⟨new, positive, ⟨oe, ho, unpaid, -⟩, -⟩ := hok
  have zero := h.untouched p fun e he => by simp [new] at he
  have within : Balance.Within {} amount := Balance.within_zero (by omega)
  have unreceived : ¬ PaymentStatus.created.Received := by decide
  simp only [post, adjust_of_some ho]
  obtain ⟨h₁, h₂, h₃, h₄, h₅, h₆, h₇, h₈, h₉, h₁₀, h₁₁, h₁₂⟩ := h
  constructor <;> grind

theorem Sound.receive (h : b.Sound) {x : Nat} (hok : ok automatic b (.receive p o x)) :
    (post (.receive p o x) b).Sound := by
  obtain ⟨pe, oe, hp, order, new, ho, -, mine, -, -⟩ := hok
  have unclaimed := h.unclaimed hp ho new mine
  have zero := h.untouched p fun e he => by cases hp.symm.trans he; exact new
  have positive := h.positive p pe hp
  have received : PaymentStatus.paid.Received := by decide
  refine h.rewrite hp ho order { pe with status := .paid }
    { oe with
      primary := some p, payment := .paid
      status := if oe.status.Unpaid then .paid else oe.status }
    ⟨?_, ?_, fun _ _ => rfl, fun r e he => .inr ⟨e, he, rfl⟩, ?_⟩ order ?_ (fun _ => received)
    (fun _ _ _ _ => received) (.inr ⟨unclaimed, rfl, received⟩)
  · simp only [post, adjust_of_some hp]
  · simp only [post, adjust_of_some ho, claim, unclaimed, Option.none_or]
  · intro y e he
    simp only [post, put_apply] at he
    split at he
    · cases he
      exact .inl ⟨rfl, rfl, rfl, rfl, received⟩
    · exact .inr he
  · refine ⟨positive, ?_, fun _ => ?_, fun h => absurd received h, fun _ => rfl, fun _ => rfl,
      fun _ => ?_⟩
    · exact h.within p pe hp
    · simp only [post, zero, Balance.phase_zero positive, settled]
    · split
      · exact (by decide : ¬ OrderStatus.paid.Unpaid)
      · assumption

/-- A refund entered on a received payment. -/
theorem Sound.enter (h : b.Sound) {r : Entered} (fits : b.Fits o r pe) : (enter o r b).Sound := by
  obtain ⟨hp, order, refundable, positive, budget, fresh⟩ := fits
  obtain ⟨oe, ho⟩ := Option.isSome_iff_exists.mp (h.order _ pe hp)
  rw [order] at ho
  have square := square_of_sound h hp order ho
  have received : pe.status.Received := by
    revert refundable
    cases pe.status <;> decide
  have received' : PaymentStatus.refunding.Received := by decide
  refine h.rewrite hp ho order { pe with status := .refunding } (project r.payment .refunding oe)
    ⟨?_, ?_, ?_, ?_, fun _ _ => .inr⟩ order ?_ (fun _ => received') (fun _ _ _ _ => received')
    (.inl (project_primary _ _ _))
  · simp only [Books.enter, adjust_of_some hp]
  · simp only [Books.enter, adjust_of_some ho]
  · intro q hq
    simp [Books.enter, hq]
  · intro x e he
    simp only [Books.enter, put_apply] at he
    split at he
    · cases he
      exact .inl rfl
    · exact .inr ⟨e, he, rfl⟩
  · have within := square.within.reserve positive budget
    have phase := Balance.phase_reserve square.within positive budget
    refine ⟨square.positive, ?_, fun _ => ?_, fun h => absurd received' h, fun _ => ?_,
      fun _ => ?_, ?_⟩
    · simpa [Books.enter] using within
    · simp [Books.enter, phase, settled]
    · simpa using square.received received
    · simpa using square.received received
    · simpa using square.started

theorem Sound.request (h : b.Sound) {r : Entered} (hok : ok automatic b (.request o r)) :
    (post (.request o r) b).Sound := by
  obtain ⟨pe, fits⟩ := hok
  exact h.enter fits

theorem not_unpaid_of_dead {s : OrderStatus} (h : s.Dead) : ¬ s.Unpaid := by
  revert h
  cases s <;> decide

theorem Sound.payBack (h : b.Sound) {r : Entered} (hok : ok automatic b (.payBack o r)) :
    (post (.payBack o r) b).Sound := by
  obtain ⟨pe, oe, hp, order, new, amount, fresh, ho, back⟩ := hok
  have positive := h.positive _ pe hp
  have zero := h.untouched r.payment fun e he => by cases hp.symm.trans he; exact new
  have within : Balance.Within {} pe.amount := Balance.within_zero (by omega)
  have fits : r.amount ≤ pe.amount - Balance.reserved {} := by simp [Balance.reserved, amount]
  have received : PaymentStatus.refunding.Received := by decide
  have claimed : (claim r.payment oe).primary.isSome := by
    cases hprimary : oe.primary <;> simp [claim, hprimary]
  refine h.rewrite hp ho order { pe with status := .refunding }
    (project r.payment .refunding (claim r.payment oe))
    ⟨?_, ?_, ?_, ?_, fun _ _ => .inr⟩ order ?_ (fun _ => received) (fun _ _ _ _ => received) ?_
  · simp only [post, Books.enter, adjust_of_some hp]
  · simp only [post, Books.enter, adjust_adjust]
    rw [adjust_of_some ho]
  · intro q hq
    simp [post, Books.enter, hq]
  · intro x e he
    simp only [post, Books.enter, put_apply] at he
    split at he
    · cases he
      exact .inl rfl
    · exact .inr ⟨e, he, rfl⟩
  · refine ⟨positive, ?_, fun _ => ?_, fun h => absurd received h, fun _ => ?_, fun _ => ?_, ?_⟩
    · simpa [post, Books.enter, zero] using within.reserve (by omega) fits
    · simp [post, Books.enter, zero, Balance.phase_reserve within (by omega) fits, settled]
    · simpa using claimed
    · simpa using claimed
    · intro _
      rw [project_status]
      rcases back with dead | other
      · exact not_unpaid_of_dead dead
      · exact h.started o oe ho (Option.isSome_of_any other)
  · cases hprimary : oe.primary with
    | none => exact .inr ⟨rfl, by simp [claim, hprimary], received⟩
    | some q => exact .inl (by simp [claim, hprimary])

theorem outcome_within {bal : Balance} {limit amount : Int} (status : RefundStatus)
    (w : bal.Within limit) (positive : 0 < amount) (held : amount ≤ bal.held) :
    (outcome status amount bal).Within limit := by
  rw [outcome]
  split
  · exact w.spend (by omega) held
  · exact w.release (by omega) held

theorem Sound.settle (h : b.Sound) {r : Nat} {amount : Int} {status : RefundStatus}
    (hok : ok automatic b (.settle r p o amount status)) :
    (post (.settle r p o amount status) b).Sound := by
  obtain ⟨e, pe, hr, mine, -, -, -, hp, order, positive, held⟩ := hok
  obtain ⟨oe, ho⟩ := Option.isSome_iff_exists.mp (h.order _ pe hp)
  rw [order] at ho
  obtain ⟨pe', hp', received⟩ := h.refundReceived r e hr
  rw [mine, hp] at hp'
  cases hp'
  have square := square_of_sound h hp order ho
  have within := outcome_within status square.within positive held
  have target := settled_received ((outcome status amount (b.balance p)).phase pe.amount)
  refine h.rewrite hp ho order
    { pe with status := settled ((outcome status amount (b.balance p)).phase pe.amount) }
    (projectSettled p (settled ((outcome status amount (b.balance p)).phase pe.amount)) oe)
    ⟨?_, ?_, ?_, ?_, fun _ _ => .inr⟩ order ?_ (fun _ => target) (fun _ _ _ _ => target)
    (.inl (projectSettled_primary _ _ _))
  · simp only [post, settleRefund, settledStatus, adjust_of_some hp, hp, if_true]
  · simp only [post, settleRefund, settledStatus, adjust_of_some ho, hp, if_true]
  · intro q hq
    simp [post, settleRefund, hq]
  · intro x e he
    obtain ⟨e₀, he₀, rfl⟩ := adjust_some_iff.mp he
    refine .inr ⟨e₀, he₀, ?_⟩
    split <;> rfl
  · refine ⟨square.positive, ?_, fun _ => ?_, fun h => absurd target h, fun _ => ?_, fun _ => ?_,
      fun primary => ?_⟩
    · simpa only [post, settleRefund, if_true] using within
    · simp [post, settleRefund]
    · simpa using square.received received
    · simpa using square.received received
    · have := square.started (by simpa using primary)
      rw [projectSettled]
      split
      · simp only
        split
        · exact (by decide : ¬ OrderStatus.refunded.Unpaid)
        · exact this
      · exact this

theorem Sound.setStatus (h : b.Sound) (ho : b.orders o = some oe) {status : OrderStatus}
    (started : ¬ status.Unpaid) : (setStatus o status b).Sound := by
  have := h.reorder ho { oe with status } rfl (h.paid o oe ho) fun _ => started
  simpa only [Books.setStatus, adjust_of_some ho] using this

theorem Sound.die (h : b.Sound) {status : OrderStatus} {r : Option Entered}
    (hok : ok automatic b (.die o status r)) : (post (.die o status r) b).Sound := by
  cases r with
  | none =>
      obtain ⟨oe, ho, -, dead, -⟩ := hok
      exact h.setStatus ho (not_unpaid_of_dead dead)
  | some r =>
      obtain ⟨oe, pe, ho, -, dead, fits, -⟩ := hok
      have entered : (Books.enter o r b).orders o = some (project r.payment .refunding oe) := by
        simp only [Books.enter, adjust_of_some ho, put_same]
      exact (h.enter fits).setStatus entered (not_unpaid_of_dead dead)

theorem Sound.move (h : b.Sound) {status : OrderStatus} (hok : ok automatic b (.move o status)) :
    (post (.move o status) b).Sound := by
  obtain ⟨oe, ho, -, live⟩ := hok
  refine h.setStatus ho ?_
  revert live
  cases status <;> decide

theorem Sound.closeProjection (h : b.Sound) (hok : ok automatic b (.closeProjection o)) :
    (post (.closeProjection o) b).Sound := by
  obtain ⟨oe, ho, cancelled, -⟩ := hok
  have := h.reorder ho { oe with payment := .closed } rfl (by simp)
    (h.started o oe ho)
  simpa only [post, adjust_of_some ho] using this

theorem Sound.openOrder (h : b.Sound) {status : OrderStatus} {payment : PaymentStatus}
    (hok : ok automatic b (.openOrder o status payment)) :
    (post (.openOrder o status payment) b).Sound := by
  obtain ⟨new, initial⟩ := hok
  have unpaid : payment ≠ .paid := by
    rintro rfl
    simp at initial
  obtain ⟨h₁, h₂, h₃, h₄, h₅, h₆, h₇, h₈, h₉, h₁₀, h₁₁, h₁₂⟩ := h
  simp only [post]
  constructor <;> grind

/-- The books read their events and refunds by payment and order only. -/
theorem Sound.relabel (h : b.Sound) {refunds : Nat → Option RefundEntry}
    {events : Nat → Option EventEntry}
    (r : ∀ x e, refunds x = some e → ∃ e₀, b.refunds x = some e₀ ∧ e₀.payment = e.payment)
    (v : ∀ x e, events x = some e →
      ∃ e₀, b.events x = some e₀ ∧ e₀.payment = e.payment ∧ e₀.order = e.order ∧
        e₀.key = e.key) :
    Sound { b with refunds, events } := by
  obtain ⟨h₁, h₂, h₃, h₄, h₅, h₆, h₇, h₈, h₉, h₁₀, h₁₁, h₁₂⟩ := h
  refine ⟨h₁, h₂, fun x e he => ?_, fun x e he => ?_, fun x e he => ?_, h₆, h₇, h₈, h₉, h₁₀, h₁₁,
    h₁₂⟩
  · obtain ⟨e₀, he₀, same⟩ := r x e he
    exact same ▸ h₃ x e₀ he₀
  · obtain ⟨e₀, he₀, payment, order, -⟩ := v x e he
    exact payment ▸ order ▸ h₄ x e₀ he₀
  · obtain ⟨e₀, he₀, payment, -, key⟩ := v x e he
    exact payment ▸ key ▸ h₅ x e₀ he₀

theorem Sound.advance (h : b.Sound) {r : Nat} {status : RefundStatus} :
    (post (.advance r status) b).Sound := by
  refine h.relabel (fun x e he => ?_) fun x e he => ⟨e, he, rfl, rfl, rfl⟩
  obtain ⟨e₀, he₀, rfl⟩ := adjust_some_iff.mp he
  refine ⟨e₀, he₀, ?_⟩
  split <;> rfl

theorem Sound.purge (h : b.Sound) {e : Nat} : (post (.purge e) b).Sound :=
  h.relabel (fun _ e he => ⟨e, he, rfl⟩) fun _ e he => ⟨e, drop_some he, rfl, rfl, rfl⟩

theorem Sound.process (h : b.Sound) {e : Nat} {queued : Bool} :
    (post (.process e o queued) b).Sound := by
  have marked : Sound { b with events := adjust b.events e fun e => { e with processed := true } } := by
    refine h.relabel (fun _ e he => ⟨e, he, rfl⟩) fun x e he => ?_
    obtain ⟨e₀, he₀, rfl⟩ := adjust_some_iff.mp he
    refine ⟨e₀, he₀, ?_⟩
    split <;> exact ⟨rfl, rfl, rfl⟩
  cases queued with
  | false => exact marked
  | true =>
      cases ho : b.orders o with
      | none =>
          have same : adjust b.orders o (fun e => { e with status := .queued }) = b.orders :=
            adjust_eq_self fun e he => by simp [ho] at he
          simpa only [post, if_true, same] using marked
      | some oe => exact marked.setStatus ho (by decide)

/-- Every posting the books admit keeps them sound. -/
theorem Sound.post (h : b.Sound) {x : Posting} (hok : ok automatic b x) : (post x b).Sound := by
  cases x with
  | openOrder o status payment => exact h.openOrder hok
  | openPayment p o amount => exact h.openPayment hok
  | pend p => exact h.pend hok
  | close p o => exact h.close hok
  | closeProjection o => exact h.closeProjection hok
  | reconcile p o target => exact h.reconcile hok
  | receive p o e => exact h.receive hok
  | payBack o r => exact h.payBack hok
  | request o r => exact h.request hok
  | advance r status => exact h.advance
  | settle r p o amount status => exact h.settle hok
  | move o status => exact h.move hok
  | die o status r => exact h.die hok
  | process e o queued => exact h.process
  | purge e => exact h.purge

end Books
end CoffeeCloud
