import CoffeeCloud.Books.Sound

/-!
What one posting may do to a single entry: payments keep their order and amount,
and an order's status moves along the transition table or not at all.
-/
namespace CoffeeCloud
open Library

/-- An order's status after a step: the same, or next in the table. -/
def Edge (s s' : OrderStatus) : Prop := s' = s ∨ s' ∈ orderTransitions s

instance (s s' : OrderStatus) : Decidable (Edge s s') := inferInstanceAs (Decidable (_ ∨ _))

theorem Edge.refl (s : OrderStatus) : Edge s s := .inl rfl

theorem Edge.ite {c : Prop} [Decidable c] {s s' : OrderStatus} (h : c → Edge s s') :
    Edge s (if c then s' else s) := by
  split
  · exact h ‹c›
  · exact .refl s

theorem edge_unpaid : ∀ s : OrderStatus, s.Unpaid → Edge s .paid ∧ Edge s .cancelled := by
  rintro s (rfl | rfl) <;> decide

namespace Books
variable {b : Books} {automatic : String → Prop} {x : Posting} {o p : Nat}

theorem projectSettled_edge (p : Nat) (target : PaymentStatus) (e : OrderEntry) :
    Edge e.status (projectSettled p target e).status := by
  rw [projectSettled]
  split
  · refine Edge.ite fun ends => ?_
    rw [ends.2]
    decide
  · exact .refl _

theorem adjust_edge {orders : Nat → Option OrderEntry} {i : Nat} {g : OrderEntry → OrderEntry}
    {e : OrderEntry} (he : orders o = some e) (h : i = o → Edge e.status (g e).status) :
    ∃ e', adjust orders i g o = some e' ∧ Edge e.status e'.status := by
  by_cases hi : o = i
  · subst hi
    exact ⟨g e, by simp [adjust, he], h rfl⟩
  · exact ⟨e, by simp [adjust, hi, he], .refl _⟩

theorem enter_edge {i : Nat} {r : Entered} {e : OrderEntry} (he : b.orders o = some e) :
    ∃ e', (enter i r b).orders o = some e' ∧ e'.status = e.status := by
  by_cases hi : o = i
  · subst hi
    exact ⟨project r.payment .refunding e, by simp [enter, adjust, he], project_status _ _ _⟩
  · exact ⟨e, by simp [enter, adjust, hi, he], rfl⟩

/-- Every posting moves an order along the transition table, or leaves it where it is. -/
theorem post_order (hok : ok automatic b x) {e : OrderEntry} (he : b.orders o = some e) :
    ∃ e', (post x b).orders o = some e' ∧ Edge e.status e'.status := by
  have moved {i : Nat} {status : OrderStatus} {oe : OrderEntry} (ho : b.orders i = some oe)
      (legal : status ∈ orderTransitions oe.status) (same : i = o) : Edge e.status status := by
    subst same
    cases he.symm.trans ho
    exact .inr legal
  cases x with
  | openOrder i status payment =>
      have other : o ≠ i := by
        rintro rfl
        have new := hok.1
        simp [he] at new
      exact ⟨e, by simp [post, put, other, he], .refl _⟩
  | openPayment p i amount =>
      refine adjust_edge he fun same => ?_
      obtain ⟨-, -, ⟨oe, ho, unpaid, -⟩, -⟩ := hok
      subst same
      cases he.symm.trans ho
      revert unpaid
      change e.status.Unpaid → Edge e.status .awaitingPayment
      cases e.status <;> decide
  | pend p => exact ⟨e, he, .refl _⟩
  | close p i => exact ⟨e, he, .refl _⟩
  | advance r status => exact ⟨e, he, .refl _⟩
  | purge x => exact ⟨e, he, .refl _⟩
  | closeProjection i => exact adjust_edge he fun _ => .refl _
  | reconcile p i target => exact adjust_edge he fun _ => .ite fun h => (edge_unpaid _ h).2
  | receive p i x => exact adjust_edge he fun _ => .ite fun h => (edge_unpaid _ h).1
  | payBack i r =>
      obtain ⟨e', he', edge⟩ := adjust_edge (g := claim r.payment) he fun _ : i = o => .refl _
      obtain ⟨e'', he'', same⟩ := enter_edge (i := i) (r := r)
        (b := { b with orders := adjust b.orders i (claim r.payment) }) he'
      exact ⟨e'', he'', same ▸ edge⟩
  | request i r =>
      obtain ⟨e', he', same⟩ := enter_edge (i := i) (r := r) he
      exact ⟨e', he', .inl same⟩
  | settle r p i amount status => exact adjust_edge he fun _ => projectSettled_edge _ _ _
  | move i status =>
      obtain ⟨oe, ho, legal, -⟩ := hok
      exact adjust_edge he (moved ho legal)
  | die i status r =>
      cases r with
      | none =>
          obtain ⟨oe, ho, legal, -⟩ := hok
          exact adjust_edge he (moved ho legal)
      | some r =>
          obtain ⟨oe, pe, ho, legal, -⟩ := hok
          obtain ⟨e', he', same⟩ := enter_edge (i := i) (r := r) he
          obtain ⟨e'', he'', edge⟩ := adjust_edge (i := i) (g := fun e => { e with status }) he'
            fun h => same ▸ moved ho legal h
          exact ⟨e'', he'', same ▸ edge⟩
  | process x i queued =>
      cases queued with
      | false => exact ⟨e, he, .refl _⟩
      | true =>
          refine adjust_edge he fun same => ?_
          obtain ⟨ee, -, -, -, queues⟩ := hok
          subst same
          rw [(queues e he).1]
          exact (by decide : Edge .paid .queued)

theorem adjust_payment {payments : Nat → Option PaymentEntry} {i : Nat}
    {g : PaymentEntry → PaymentEntry} {e : PaymentEntry} (he : payments p = some e)
    (h : (g e).order = e.order ∧ (g e).amount = e.amount) :
    ∃ e', adjust payments i g p = some e' ∧ e'.order = e.order ∧ e'.amount = e.amount := by
  by_cases hi : p = i
  · subst hi
    exact ⟨g e, by simp [adjust, he], h⟩
  · exact ⟨e, by simp [adjust, hi, he], rfl, rfl⟩

/-- A payment stays with its order and its amount. -/
theorem post_payment (hok : ok automatic b x) {e : PaymentEntry} (he : b.payments p = some e) :
    ∃ e', (post x b).payments p = some e' ∧ e'.order = e.order ∧ e'.amount = e.amount := by
  cases x with
  | openPayment q i amount =>
      have other : p ≠ q := by
        rintro rfl
        have new := hok.1
        simp [he] at new
      exact ⟨e, by simp [post, put, other, he], rfl, rfl⟩
  | die i status r =>
      cases r with
      | none => exact ⟨e, he, rfl, rfl⟩
      | some r => exact adjust_payment he ⟨rfl, rfl⟩
  | openOrder | closeProjection | advance | move | process | purge => exact ⟨e, he, rfl, rfl⟩
  | pend | close | reconcile | receive | payBack | request | settle =>
      exact adjust_payment he ⟨rfl, rfl⟩

/-- A refund stays with its payment, its amount and its key, and once it has ended it stays so. -/
theorem post_refund (hok : ok automatic b x) {r : Nat} {e : RefundEntry}
    (he : b.refunds r = some e) :
    ∃ e', (post x b).refunds r = some e' ∧ e'.payment = e.payment ∧ e'.amount = e.amount ∧
      e'.key = e.key ∧ (e.status ∈ refundTerminal → e'.status = e.status) := by
  have same : ∃ e', b.refunds r = some e' ∧ e'.payment = e.payment ∧ e'.amount = e.amount ∧
      e'.key = e.key ∧ (e.status ∈ refundTerminal → e'.status = e.status) :=
    ⟨e, he, rfl, rfl, rfl, fun _ => rfl⟩
  have entered {n : Entered} (new : b.refunds n.refund = none) (status : RefundStatus) :
      ∃ e', put b.refunds n.refund ⟨n.payment, n.amount, status, n.key⟩ r = some e' ∧
        e'.payment = e.payment ∧ e'.amount = e.amount ∧ e'.key = e.key ∧
        (e.status ∈ refundTerminal → e'.status = e.status) := by
    have other : r ≠ n.refund := by
      rintro rfl
      simp [he] at new
    exact ⟨e, by rw [put_of_ne other, he], rfl, rfl, rfl, fun _ => rfl⟩
  have moved {k : Nat} {old : RefundEntry} (status : RefundStatus) (hk : b.refunds k = some old)
      (live : old.status ∈ inFlightRefundStatuses) :
      ∃ e', adjust b.refunds k (fun e => { e with status }) r = some e' ∧
        e'.payment = e.payment ∧ e'.amount = e.amount ∧ e'.key = e.key ∧
        (e.status ∈ refundTerminal → e'.status = e.status) := by
    by_cases here : r = k
    · subst here
      cases he.symm.trans hk
      refine ⟨{ e with status }, by simp [adjust_apply, he], rfl, rfl, rfl, fun ended => ?_⟩
      exfalso
      revert live ended
      cases e.status <;> decide
    · exact ⟨e, by rw [adjust_of_ne here, he], rfl, rfl, rfl, fun _ => rfl⟩
  cases x with
  | payBack i n =>
      obtain ⟨pe, oe, -, -, -, -, new, -⟩ := hok
      exact entered new .requested
  | request i n =>
      obtain ⟨pe, fits⟩ := hok
      exact entered fits.fresh .requested
  | advance k status =>
      obtain ⟨old, hk, live, -⟩ := hok
      exact moved status hk live
  | settle k p i amount status =>
      obtain ⟨old, pe, hk, -, -, live, -⟩ := hok
      exact moved status hk live
  | die i status n =>
      cases n with
      | none => exact same
      | some n =>
          obtain ⟨oe, pe, -, -, -, fits, -⟩ := hok
          exact entered fits.fresh .requested
  | _ => exact same

/-- An intent of a cancelled order. -/
def ClosingAt (b : Books) (o p : Nat) : Prop :=
  ∃ pe oe, b.payments p = some pe ∧ pe.order = o ∧ b.orders o = some oe ∧ oe.status = .cancelled

theorem ClosingAt.post (h : b.ClosingAt o p) (hok : ok automatic b x) :
    (post x b).ClosingAt o p := by
  obtain ⟨pe, oe, hp, mine, ho, cancelled⟩ := h
  obtain ⟨pe', hp', mine', -⟩ := post_payment hok hp
  obtain ⟨oe', ho', edge⟩ := post_order hok ho
  refine ⟨pe', oe', hp', mine'.trans mine, ho', ?_⟩
  rcases edge with same | moved
  · exact same.trans cancelled
  · simp [cancelled, orderTransitions] at moved

end Books
end CoffeeCloud
