import CoffeeCloud.Books.Primary
import CoffeeCloud.Runs

/-!
What an order shows of its payment over whole runs. The worker that reconciles
open intents writes the order without looking at its primary payment, so an
order with more than one intent may come to show the wrong one.
-/
namespace CoffeeCloud
open Library Tx

/-- An order that records its primary payment shows the status of it. -/
def Db.ShowsPrimary (db : Db) : Prop :=
  ∀ o order p, db.orders.find? o = some order → order.paidPaymentId = some p →
    ∃ payment, db.payments.find? p = some payment ∧ order.paymentStatus = payment.status

theorem Db.showsPrimary_iff {db : Db} (sound : db.books.Sound) :
    db.ShowsPrimary ↔ db.books.Projected := by
  constructor
  · intro shows o oe p pe ho primary hp
    obtain ⟨order, found, rfl⟩ := (Table.view_eq_some _).mp ho
    obtain ⟨payment, row, same⟩ := shows o order p found primary
    cases (Db.books_payment row).symm.trans hp
    exact same
  · intro projected o order p found primary
    obtain ⟨pe, hp, -⟩ := sound.primary o _ p (Db.books_order found) primary
    obtain ⟨payment, row, rfl⟩ := (Table.view_eq_some _).mp hp
    exact ⟨payment, row, projected o _ p _ (Db.books_order found) primary hp⟩

namespace Books
variable {b : Books} {p : Nat} {e : PaymentEntry}

attribute [local grind =] put_apply

/-- Loading an intent that has received nothing. -/
theorem Sound.load (h : b.Sound) (new : b.payments p = none) (positive : 0 < e.amount)
    (ordered : (b.orders e.order).isSome) (waiting : ¬ e.status.Received) :
    Sound { b with payments := put b.payments p e } := by
  have zero := h.untouched p fun e he => by simp [new] at he
  have within : Balance.Within {} e.amount := Balance.within_zero positive.le
  obtain ⟨h₁, h₂, h₃, h₄, h₅, h₆, h₇, h₈, h₉, h₁₀, h₁₁, h₁₂⟩ := h
  constructor <;> grind

theorem Projected.load (h : b.Projected) (sound : b.Sound) (new : b.payments p = none) :
    Projected { b with payments := put b.payments p e } := by
  intro o oe q pe ho primary hq
  obtain ⟨qe, hq', -⟩ := sound.primary o oe q ho primary
  have apart : q ≠ p := by
    rintro rfl
    simp [new] at hq'
  exact h o oe q pe ho primary ((put_of_ne apart).symm.trans hq)

theorem ClosingAt.load {o q : Nat} (h : b.ClosingAt o q) (new : b.payments p = none) :
    ClosingAt { b with payments := put b.payments p e } o q := by
  obtain ⟨pe, oe, hq, mine, ho, cancelled⟩ := h
  have apart : q ≠ p := by
    rintro rfl
    simp [new] at hq
  exact ⟨pe, oe, (put_of_ne apart).trans hq, mine, ho, cancelled⟩

end Books

namespace System
variable {env : Env} {s t : System}

/-- In every state reached from an empty database an order has one payment, and shows it. -/
theorem lone_of_reachable (reach : (machine env).Reachable {} s) :
    s.db.books.Lone ∧ s.db.books.Projected := by
  have start : ({} : System).db.books.Lone ∧ ({} : System).db.books.Projected := by
    refine ⟨⟨?_, ?_⟩, ?_⟩ <;> simp [Books.Projected, Db.books, Table.view]
  have kept := reach.invariant
    (I := fun s => s.Sound ∧ s.db.books.Lone ∧ s.db.books.Projected) ⟨sound_empty, start⟩ <| by
      rintro s a ⟨sound, lone, projected⟩
      refine ⟨sound.step a, (step_refines sound a).booksKeep sound.books
        (I := fun b => b.Lone ∧ b.Projected) ⟨lone, projected⟩ ?_⟩
      rintro b x soundBooks ⟨lone, projected⟩ hx
      exact ⟨lone.post soundBooks hx.1, projected.post soundBooks hx.1 (lone.guarded soundBooks hx.1)⟩
  exact kept.2

/-- A system in use, into which old intents that are still open have been loaded, several to an
order or beside its primary payment. -/
inductive Historical (env : Env) : System → Prop
  | reached (s : System) : (machine env).Reachable {} s → Historical env s
  | loaded (s : System) (payment : Payment) : Historical env s →
      s.db.payments.find? payment.id = none → payment.status ∈ openPaymentStatuses →
      (s.db.orders.find? payment.orderId).isSome →
      Historical env { s with db := { s.db with payments := s.db.payments.insert payment } }

theorem Historical.sound (h : Historical env s) : s.Sound ∧ s.db.books.Projected := by
  induction h with
  | reached s reach => exact ⟨sound_of_reachable reach, (lone_of_reachable reach).2⟩
  | loaded s payment _ fresh isOpen ordered ih =>
      obtain ⟨sound, projected⟩ := ih
      have new : s.db.books.payments payment.id = none := (Table.view_eq_none _).mpr fresh
      have books : ({ s.db with payments := s.db.payments.insert payment } : Db).books =
          { s.db.books with payments := put s.db.books.payments payment.id (.of payment) } := by
        have rows := Table.view_insert (r := payment) PaymentEntry.of fresh
        simp only [Db.books]
        rw [rows]
        rfl
      have placed : (s.db.books.orders payment.orderId).isSome := by
        obtain ⟨order, found⟩ := Option.isSome_iff_exists.mp ordered
        rw [Db.books_order found]
        rfl
      refine ⟨⟨?_, sound.floor, sound.filed, fun t ht => ?_⟩, ?_⟩
      · rw [books]
        exact sound.books.load new payment.amountPositive placed (Books.not_received_of_open isOpen)
      · have backed := sound.backed t ht
        cases t with
        | cancelled orderId intents =>
            intro i hi
            rw [books]
            exact (backed i hi).load new
        | overdue orderId jobId => exact backed
        | _ => trivial
      · rw [books]
        exact projected.load sound.books new

/-- The worker closes or fails an open intent of an order that records its primary payment. -/
def ClosesPaid (s : System) : Action → Prop
  | .reconcilePayment ticket answer _ _ _ =>
      ∃ claimed intent order, s.tickets[ticket]? = some (.reconcile claimed) ∧
        (BackgroundWorkerService.closingTarget? answer.status).isSome ∧
        s.db.payments.find? claimed.id = some intent ∧ intent.status ∈ openPaymentStatuses ∧
        s.db.orders.find? intent.orderId = some order ∧ order.paidPaymentId.isSome
  | _ => False

/-- Only the worker reconciles an intent. -/
theorem posts_reconcile {a : Action} {p o : Nat} {target : PaymentStatus}
    (h : a.Posts (.reconcile p o target)) : ∃ k answer fresh x now,
      a = .reconcilePayment k answer fresh x now := by
  cases a with
  | reconcilePayment k answer fresh x now => exact ⟨k, answer, fresh, x, now, rfl⟩
  | _ =>
      simp [Action.Posts, PaymentApplicationService.Opens, PaymentApplicationService.Created,
        PublicOrderService.Dies, PublicOrderService.Closes, PaymentApplicationService.Requests,
        ProductionService.Reports, BackgroundWorkerService.Processes, Outcome, Collect] at h

/-- A step that closes no intent beside a primary payment overwrites none. -/
theorem step_guarded (sound : s.Sound) {a : Action} (guarded : ¬ ClosesPaid s a) :
    Books.machine.ReachableBy (fun b x => b.ok AutomaticKey x ∧ ¬ b.Overwrites x)
      s.db.books ((machine env).step s a).db.books := by
  have other (no : ∀ p o target, ¬ a.Posts (.reconcile p o target)) :
      Books.machine.ReachableBy (fun b x => b.ok AutomaticKey x ∧ ¬ b.Overwrites x)
        s.db.books ((machine env).step s a).db.books := by
    refine (step_refines sound a).books.mono fun b x hx => ⟨hx.1, ?_⟩
    rintro ⟨p, o, target, rfl, -⟩
    exact no p o target hx.2
  cases a with
  | reconcilePayment k answer fresh x now =>
      rcases step_cases env s (.reconcilePayment k answer fresh x now) with
        ⟨answer', tickets, db', ran, next⟩ | ⟨e, -, next⟩
      · simp only [Machine.step, next]
        simp only [body] at ran
        split at ran
        · rename_i claimed located
          obtain ⟨⟨_, ran⟩, -⟩ := ran_quiet ran
          rcases BackgroundWorkerService.reconcilePayment_cases sound.books ran with
            ⟨_, _, r, callback⟩ | ⟨intent, target, key, closing, done⟩ | rfl
          · rcases applyPaidCallback_effect sound.books callback with
              ⟨-, -, replayed⟩ | ⟨-, -, refines⟩
            · rw [replayed.same.books]
              exact .refl _
            · refine refines.books.mono fun b x hx => ⟨hx.1, ?_⟩
              rintro ⟨p, o, target, rfl, -⟩
              exact absurd hx.2 (by simp [Collect])
          · rw [done.books]
            refine .single (a := Posting.reconcile intent.id intent.orderId target)
              ⟨⟨_, Db.books_payment done.found, rfl, done.isOpen, done.final⟩, ?_⟩
            rintro ⟨p, o, target', same, oe, ho, claimed'⟩
            cases same
            obtain ⟨order, found, rfl⟩ := (Table.view_eq_some _).mp ho
            exact guarded ⟨claimed, intent, order, located, by rw [closing]; rfl, key ▸ done.found,
              done.isOpen, found, claimed'⟩
          · exact .refl _
        · rw [(ran_nothing ran).2.2]
          exact .refl _
      · simp only [Machine.step, next]
        exact .refl _
  | _ =>
      refine other fun p o target h => ?_
      obtain ⟨k, answer, fresh, x, now, same⟩ := posts_reconcile h
      cases same

/-- An intent from before there was one to an order. -/
def oldIntent : Payment :=
  { id := 1, orderId := 0, provider := "mock", merchantPaymentNo := "M1", idempotencyKey := "old"
    requestDigest := "digest", status := .pending, amountMinor := 500
    amountPositive := by decide, createdAt := 0 }

/-- An order with two open intents. -/
def twoIntents : System :=
  let s := (machine shop).run {} (sale.take 4)
  { s with db := { s.db with payments := s.db.payments.insert oldIntent } }

theorem twoIntents_historical : Historical shop twoIntents :=
  .loaded _ oldIntent (.reached _ ⟨_, rfl⟩)
    (Option.isNone_iff_eq_none.mp (by decide +kernel)) (by decide) (by decide +kernel)

/-- One intent is paid, then the worker learns that the other was closed. -/
def paidThenClosed : List Action :=
  sale.drop 4 ++ [.claimPayment 1 0, .reconcilePayment 1 ⟨"CLOSED", none⟩ (freshRefund 0) 1 0]

/-- In a run that closes no intent beside a primary payment, every order shows its primary payment
in every state, keeps it, and shows something new only where that payment itself has changed. -/
theorem showsPrimary_of_guarded (start : Historical env s) {as : List Action}
    (guarded : (machine env).Along (fun s a => ¬ ClosesPaid s a) s as) :
    (machine env).Always (fun s => s.db.ShowsPrimary) s as ∧
      (machine env).Along (fun s a => ∀ o order p payment, s.db.orders.find? o = some order →
        order.paidPaymentId = some p → s.db.payments.find? p = some payment →
        ∃ order' payment', ((machine env).step s a).db.orders.find? o = some order' ∧
          ((machine env).step s a).db.payments.find? p = some payment' ∧
          order'.paidPaymentId = some p ∧
          (payment'.status = payment.status → order'.paymentStatus = order.paymentStatus)) s as := by
  have keep (s : System) (a : Action) (h : s.Sound ∧ s.db.books.Projected) (guarded : ¬ ClosesPaid s a) :
      ((machine env).step s a).Sound ∧ ((machine env).step s a).db.books.Projected := by
    obtain ⟨sound, projected⟩ := h
    have steps : Books.machine.ReachableBy _ s.db.books ((machine env).step s a).db.books :=
      step_guarded sound guarded
    have kept := steps.invariant (I := fun b => b.Sound ∧ b.Projected)
      ⟨sound.books, projected⟩ fun b x hb hx => ⟨hb.1.post hx.1, hb.2.post hb.1 hx.1 hx.2⟩
    exact ⟨sound.step a, kept.2⟩
  constructor
  · refine Machine.always_mono (fun t h => ?_) (Machine.invariant_always keep start.sound guarded)
    exact (Db.showsPrimary_iff h.1.books).mpr h.2
  · have steps := Machine.along_of_invariant keep start.sound guarded
    refine Machine.along_mono _ (fun t a h => ?_) steps
    obtain ⟨⟨sound, projected⟩, guarded⟩ := h
    intro o order p payment found primary row
    have sound' := (keep t a ⟨sound, projected⟩ guarded).1
    have shows' := (Db.showsPrimary_iff sound'.books).mpr (keep t a ⟨sound, projected⟩ guarded).2
    have steps : Books.machine.ReachableBy _ t.db.books ((machine env).step t a).db.books :=
      step_guarded sound guarded
    have kept := steps.invariant (I := fun b => ∃ oe, b.orders o = some oe ∧ oe.primary = some p)
      ⟨_, Db.books_order found, primary⟩ fun b x ⟨oe, ho, primary⟩ hx =>
        Books.post_primary hx.1 ho primary
    obtain ⟨oe, ho, primary'⟩ := kept
    obtain ⟨order', found', rfl⟩ := (Table.view_eq_some _).mp ho
    obtain ⟨payment', row', shown'⟩ := shows' o order' p found' primary'
    refine ⟨order', payment', found', row', primary', fun same => ?_⟩
    have shown := projected o _ p _ (Db.books_order found) primary (Db.books_payment row)
    rw [shown', same]
    exact shown.symm

/-- The worker learns that one of two intents was closed and then that the other was paid; the
callback of that payment comes too. -/
def closedThenPaid : List Action :=
  [.claimPayment 0 3600000000, .claimPayment 1 3600000000,
    .reconcilePayment 2 ⟨"CLOSED", none⟩ (freshRefund 0) 1 0,
    .reconcilePayment 1 ⟨"PAID", none⟩ (freshRefund 0) 2 0] ++ sale.drop 4

theorem showsPrimary_twoIntents :
    (machine shop).Always (fun s => s.db.ShowsPrimary) twoIntents closedThenPaid ∧
      ((machine shop).run twoIntents closedThenPaid).db.payments.view (·.status) 1 = some .closed ∧
      ((machine shop).run twoIntents closedThenPaid).db.orders.view
        (fun order => (order.paidPaymentId, order.paymentStatus)) 0 = some (some 0, .refunding) := by
  have unpaid : ((machine shop).run twoIntents (closedThenPaid.take 2)).db.orders.first?
      (·.paidPaymentId.isSome) = none := Option.isNone_iff_eq_none.mp (by decide +kernel)
  have guarded : (machine shop).Along (fun s a => ¬ ClosesPaid s a) twoIntents closedThenPaid := by
    refine ⟨id, id, ?_, ?_, id, trivial⟩
    · rintro ⟨claimed, intent, order, -, -, -, -, found, paid⟩
      exact Bool.eq_false_iff.mp (Table.first?_none.mp unpaid order (Table.mem_of_find? found)) paid
    · rintro ⟨claimed, intent, order, -, closing, -⟩
      exact absurd closing (by decide)
  exact ⟨(showsPrimary_of_guarded twoIntents_historical guarded).1, by decide +kernel,
    by decide +kernel⟩

/-- The order of two intents shows the closed one, though the other has paid it. -/
theorem closedIntent_shown :
    Historical shop twoIntents ∧
      ¬ ((machine shop).run twoIntents paidThenClosed).db.ShowsPrimary := by
  refine ⟨twoIntents_historical, fun shows => ?_⟩
  obtain ⟨order, found, prop⟩ := (Option.any_eq_true
    (fun o : Order => o.paidPaymentId = some 0 ∧ o.paymentStatus = .closed)
    (((machine shop).run twoIntents paidThenClosed).db.orders.find? 0)).mp (by decide +kernel)
  obtain ⟨payment, row, paid⟩ := (Option.any_eq_true (fun p : Payment => p.status = .paid)
    (((machine shop).run twoIntents paidThenClosed).db.payments.find? 0)).mp (by decide +kernel)
  have prop : order.paidPaymentId = some 0 ∧ order.paymentStatus = .closed := by simpa using prop
  have paid : payment.status = .paid := by simpa using paid
  obtain ⟨payment', row', shown⟩ := shows 0 order 0 found prop.1
  cases row.symm.trans row'
  rw [prop.2, paid] at shown
  cases shown

end System
end CoffeeCloud
