import CoffeeCloud.Runs.Projection

/-!
Paid orders wait for their event. The worker drops an event whose order does not
show PAID at that moment, and the order may show it again once a refund failed.
-/
namespace CoffeeCloud
open Library Tx BackgroundWorkerService

namespace Books
variable {b c : Books} {automatic : String → Prop} {x : Posting}

/-- A paid order whose money has not all gone back has an event that is still to be handled. -/
def Awaited (b : Books) : Prop :=
  ∀ o oe p, b.orders o = some oe → oe.status = .paid → oe.primary = some p → b.Keeps p →
    ∃ e ee, b.events e = some ee ∧ ee.order = o ∧ ee.processed = false

/-- A payment keeps its amount, and what is spent of it only grows. -/
theorem Keeps.of_adjust {p q : Nat} {f : PaymentEntry → PaymentEntry} (h : c.Keeps p)
    (payments : c.payments = adjust b.payments q f) (amount : ∀ pe, (f pe).amount = pe.amount)
    (spent : (b.balance p).spent ≤ (c.balance p).spent) : b.Keeps p := by
  obtain ⟨pe', hp, left⟩ := h
  rw [payments, adjust_some_iff] at hp
  obtain ⟨pe, hp, rfl⟩ := hp
  refine ⟨pe, hp, ?_⟩
  have same : (if p = q then f pe else pe).amount = pe.amount := by
    split
    · exact amount pe
    · rfl
  omega

/-- No order becomes paid, no money comes back and no event is handled. -/
theorem Awaited.keep (h : b.Awaited)
    (orders : ∀ o oe' p, c.orders o = some oe' → oe'.status = .paid → oe'.primary = some p →
      ∃ oe, b.orders o = some oe ∧ oe.status = .paid ∧ oe.primary = some p)
    (keeps : ∀ p, c.Keeps p → b.Keeps p)
    (events : ∀ e ee, b.events e = some ee → ee.processed = false → c.events e = some ee) :
    c.Awaited := by
  intro o oe' p ho waiting primary kept
  obtain ⟨oe, ho, waiting, primary⟩ := orders o oe' p ho waiting primary
  obtain ⟨e, ee, he, mine, waits⟩ := h o oe p ho waiting primary (keeps p kept)
  exact ⟨e, ee, events e ee he waits, mine, waits⟩

/-- One order is rewritten, none becomes paid by it. -/
theorem Awaited.reorder (h : b.Awaited) {i : Nat} {g : OrderEntry → OrderEntry}
    (orders : c.orders = adjust b.orders i g)
    (paid : ∀ oe p, b.orders i = some oe → (g oe).status = .paid → (g oe).primary = some p →
      oe.status = .paid ∧ oe.primary = some p)
    (keeps : ∀ p, c.Keeps p → b.Keeps p) (events : c.events = b.events) : c.Awaited := by
  refine h.keep (fun o oe' p ho waiting primary => ?_) keeps fun e ee he _ => events ▸ he
  rw [orders, adjust_some_iff] at ho
  obtain ⟨oe, ho, rfl⟩ := ho
  refine ⟨oe, ho, ?_⟩
  split at waiting
  · rename_i here
    rw [if_pos here] at primary
    exact paid oe p (here ▸ ho) waiting primary
  · rename_i apart
    rw [if_neg apart] at primary
    exact ⟨waiting, primary⟩

theorem spent_enter {o p : Nat} {r : Entered} :
    ((enter o r b).balance p).spent = (b.balance p).spent := by
  simp only [Books.enter]
  split <;> rfl

theorem Awaited.enter (h : b.Awaited) {o : Nat} {r : Entered} : (enter o r b).Awaited := by
  refine h.reorder rfl (fun oe p _ waiting primary => ?_) (fun p kept => ?_) rfl
  · rw [project_status] at waiting
    rw [project_primary] at primary
    exact ⟨waiting, primary⟩
  · exact kept.of_adjust rfl (fun _ => rfl) spent_enter.ge

/-- Refunds that succeed are positive, so what is spent stays spent. -/
theorem spent_settle {r p o q : Nat} {amount : Int} {status : RefundStatus}
    (hok : ok automatic b (.settle r p o amount status)) :
    (b.balance q).spent ≤ ((post (.settle r p o amount status) b).balance q).spent := by
  obtain ⟨e, pe, -, -, -, -, -, -, -, positive, -⟩ := hok
  change _ ≤ (if q = p then outcome status amount (b.balance q) else b.balance q).spent
  split
  · rw [outcome]
    split
    · simp only [Balance.spend]
      omega
    · exact le_rfl
  · exact le_rfl

theorem Awaited.post (h : b.Awaited) (sound : b.Sound) (hok : ok automatic b x)
    (drops : ¬ Strands b x) : (post x b).Awaited := by
  cases x with
  | openOrder i status payment =>
      refine h.keep (fun o oe' p ho waiting primary => ?_) (fun _ => id) fun _ _ he _ => he
      simp only [Books.post, put_apply] at ho
      split at ho
      · cases ho
        cases primary
      · exact ⟨oe', ho, waiting, primary⟩
  | openPayment q i amount =>
      obtain ⟨new, -⟩ := hok
      intro o oe' p ho waiting primary kept
      simp only [Books.post, adjust_some_iff] at ho
      obtain ⟨oe, ho, rfl⟩ := ho
      split at waiting
      · cases waiting
      · rename_i apart
        rw [if_neg apart] at primary
        obtain ⟨pe, hp, -⟩ := sound.primary o oe p ho primary
        have other : p ≠ q := by
          rintro rfl
          simp [new] at hp
        obtain ⟨pe', hp', left⟩ := kept
        exact h o oe p ho waiting primary ⟨pe', (put_of_ne other).symm.trans hp', left⟩
  | closeProjection i =>
      exact h.reorder rfl (fun oe p _ waiting primary => ⟨waiting, primary⟩) (fun _ => id) rfl
  | reconcile q i target =>
      refine h.reorder rfl (fun oe p _ waiting primary => ⟨?_, primary⟩)
        (fun p kept => kept.of_adjust rfl (fun _ => rfl) le_rfl) rfl
      change (if oe.status.Unpaid then OrderStatus.cancelled else oe.status) = .paid at waiting
      split at waiting
      · cases waiting
      · exact waiting
  | receive q i e =>
      obtain ⟨pe, oe, hq, mine, new, ho, -, alone, -, unused⟩ := hok
      intro o oe' p ho' waiting primary kept
      simp only [Books.post, adjust_some_iff] at ho'
      obtain ⟨old, ho', rfl⟩ := ho'
      by_cases here : o = i
      · subst here
        exact ⟨e, ⟨q, o, eventKey q, false⟩, put_same _ _ _, rfl, rfl⟩
      · rw [if_neg here] at waiting primary
        obtain ⟨e', ee, he, owner, waits⟩ := h o old p ho' waiting primary
          (kept.of_adjust rfl (fun _ => rfl) le_rfl)
        refine ⟨e', ee, ?_, owner, waits⟩
        have apart : e' ≠ e := by
          rintro rfl
          simp [unused] at he
        exact (put_of_ne apart).trans he
  | payBack i r =>
      obtain ⟨pe, oe, -, -, -, -, -, ho, why⟩ := hok
      have claimed : Awaited { b with orders := adjust b.orders i (claim r.payment) } := by
        refine h.reorder rfl (fun oe' p ho' waiting primary => ?_) (fun _ => id) rfl
        cases ho.symm.trans ho'
        have waiting : oe.status = .paid := waiting
        refine ⟨waiting, ?_⟩
        rcases why with dead | other
        · rw [waiting] at dead
          exact absurd dead (by decide)
        · obtain ⟨q, first⟩ := Option.isSome_iff_exists.mp (Option.isSome_of_any other)
          simpa [claim, first] using primary
      exact claimed.enter
  | request i r => exact h.enter
  | settle r q i amount status =>
      refine h.reorder rfl (fun oe p _ waiting primary => ?_)
        (fun p kept => kept.of_adjust rfl (fun _ => rfl) (spent_settle hok)) rfl
      rw [projectSettled_primary] at primary
      refine ⟨?_, primary⟩
      rw [projectSettled] at waiting
      split at waiting
      · change (if _ then _ else _ : OrderStatus) = _ at waiting
        split at waiting
        · cases waiting
        · exact waiting
      · exact waiting
  | move i status =>
      obtain ⟨e, -, -, onward⟩ := hok
      refine h.reorder rfl (fun oe p _ (waiting : status = .paid) _ => ?_) (fun _ => id) rfl
      rw [waiting] at onward
      exact absurd onward (by decide)
  | die i status r =>
      have gone (h : b.Awaited) (dead : status.Dead) : (setStatus i status b).Awaited := by
        refine h.reorder rfl (fun oe p _ (waiting : status = .paid) _ => ?_) (fun _ => id) rfl
        rw [waiting] at dead
        exact absurd dead (by decide)
      cases r with
      | none =>
          obtain ⟨e, -, -, dead, -⟩ := hok
          exact gone h dead
      | some r =>
          obtain ⟨oe, pe, -, -, dead, -⟩ := hok
          refine h.enter.reorder rfl (fun oe p _ (waiting : status = .paid) _ => ?_) (fun _ => id) rfl
          rw [waiting] at dead
          exact absurd dead (by decide)
  | process e i queued =>
      obtain ⟨ee, he, mine, -, queues⟩ := hok
      intro o oe' p ho waiting primary kept
      -- The order whose event is handled is queued with it, or it was not paid to begin with.
      have apart : o ≠ i ∧ ∃ oe, b.orders o = some oe ∧ oe.status = .paid ∧ oe.primary = some p := by
        cases queued with
        | true =>
            simp only [Books.post, if_true, adjust_some_iff] at ho
            obtain ⟨oe, ho, rfl⟩ := ho
            split at waiting
            · cases waiting
            · rename_i apart
              rw [if_neg apart] at primary
              exact ⟨apart, oe, ho, waiting, primary⟩
        | false =>
            refine ⟨?_, oe', ho, waiting, primary⟩
            rintro rfl
            exact drops ⟨e, o, rfl, oe', p, ho, waiting, primary, kept⟩
      obtain ⟨other, oe, ho, waiting, primary⟩ := apart
      obtain ⟨e', ee', he', owner, waits⟩ := h o oe p ho waiting primary kept
      refine ⟨e', ee', ?_, owner, waits⟩
      have apart : e' ≠ e := by
        rintro rfl
        cases he.symm.trans he'
        exact other (owner.symm.trans mine)
      exact (adjust_of_ne apart).trans he'
  | purge e =>
      obtain ⟨ee, he, processed⟩ := hok
      refine h.keep (fun o oe p ho waiting primary => ⟨oe, ho, waiting, primary⟩) (fun _ => id) ?_
      intro e' ee' he' waits
      have apart : e' ≠ e := by
        rintro rfl
        cases he.symm.trans he'
        simp [processed] at waits
      exact (drop_of_ne apart).trans he'
  | pend | close =>
      exact h.keep (fun o oe p ho waiting primary => ⟨oe, ho, waiting, primary⟩)
        (fun p kept => kept.of_adjust rfl (fun _ => rfl) le_rfl) fun _ _ he _ => he
  | advance =>
      exact h.keep (fun o oe p ho waiting primary => ⟨oe, ho, waiting, primary⟩) (fun _ => id)
        fun _ _ he _ => he

end Books

namespace System
variable {env : Env} {s : System}

/-- Every order that is paid and shows it, or of whose money something is kept, has an event that
is still to be handled. -/
def NoneStranded (s : System) : Prop :=
  ∀ o order, s.db.orders.find? o = some order → order.status = .paid →
    (order.paymentStatus = .paid ∨ ∃ p, order.paidPaymentId = some p ∧ s.db.Keeps p) →
    ∃ e event, s.db.businessOutbox.find? e = some event ∧ event.orderId = o ∧
      event.status ∈ [EventStatus.pending, .retry, .processing]

/-- A batch handles the event of a paid order that does not show PAID while money of it is kept. -/
def DropsEvent (s : System) : Action → Prop
  | .outboxBatch picks disturbed _ now => LosesOrder s.db picks disturbed now
  | _ => False

/-- Only a batch handles events. -/
theorem posts_process {a : Action} {e o : Nat} {queued : Bool} (h : a.Posts (.process e o queued)) :
    ∃ picks disturbed fresh now, a = .outboxBatch picks disturbed fresh now := by
  cases a with
  | outboxBatch picks disturbed fresh now => exact ⟨picks, disturbed, fresh, now, rfl⟩
  | _ =>
      simp [Action.Posts, PaymentApplicationService.Opens, PaymentApplicationService.Created,
        PublicOrderService.Dies, PublicOrderService.Closes, PaymentApplicationService.Requests,
        ProductionService.Reports, Reconciles, Outcome, Collect] at h

/-- A step that drops no event strands no order. -/
theorem step_keepsEvents (sound : s.Sound) {a : Action} (keeps : ¬ DropsEvent s a) :
    Books.machine.ReachableBy (fun b x => b.ok AutomaticKey x ∧ ¬ Strands b x)
      s.db.books ((machine env).step s a).db.books := by
  cases a with
  | outboxBatch picks disturbed fresh now =>
      rcases step_cases env s (.outboxBatch picks disturbed fresh now) with
        ⟨answer, tickets, db', ran, next⟩ | ⟨e, -, next⟩
      · simp only [Machine.step, next]
        obtain ⟨⟨_, ran⟩, -⟩ := ran_quiet ran
        have books := (processBusinessOutboxBatch_effect sound.books sound.floor ran).1
        exact books.mono fun b x hx => ⟨hx.1.1, fun strands => keeps (hx.2 strands)⟩
      · simp only [Machine.step, next]
        exact .refl _
  | _ =>
      refine (step_refines sound _).books.mono fun b x hx => ⟨hx.1, ?_⟩
      rintro ⟨e, o, rfl, -⟩
      obtain ⟨picks, disturbed, fresh, now, same⟩ := posts_process hx.2
      cases same

/-- An order that shows PAID keeps all of its money. -/
theorem keeps_of_shown {o : Id} {order : Order} (sound : s.db.books.Sound)
    (projected : s.db.books.Projected) (found : s.db.orders.find? o = some order)
    (shown : order.paymentStatus = .paid) : ∃ p, order.paidPaymentId = some p ∧ s.db.Keeps p := by
  have entry := Db.books_order found
  obtain ⟨p, primary⟩ := Option.isSome_iff_exists.mp (sound.paid o _ entry shown)
  obtain ⟨pe, hp, -, received⟩ := sound.primary o _ p entry primary
  have paid : pe.status = .paid := (projected o _ p pe entry primary hp).symm.trans shown
  have untouched : (s.db.books.balance p).phase pe.amount = .untouched := by
    have status := sound.status p pe hp received
    rw [paid] at status
    revert status
    cases (s.db.books.balance p).phase pe.amount <;> simp [settled]
  have positive := sound.positive p pe hp
  have none := (Balance.phase_eq_untouched_iff (sound.within p pe hp) positive).mp untouched
  refine ⟨p, primary, Db.books_keeps.mp ⟨pe, hp, ?_⟩⟩
  rw [none.2]
  exact positive

theorem noneStranded_of_awaited (sound : s.db.books.Sound) (projected : s.db.books.Projected)
    (awaited : s.db.books.Awaited) : NoneStranded s := by
  intro o order found waiting claim
  obtain ⟨p, primary, kept⟩ : ∃ p, order.paidPaymentId = some p ∧ s.db.Keeps p :=
    claim.elim (keeps_of_shown sound projected found) id
  obtain ⟨e, ee, he, mine, waits⟩ :=
    awaited o _ p (Db.books_order found) waiting primary (Db.books_keeps.mpr kept)
  obtain ⟨event, row, rfl⟩ := (Table.view_eq_some _).mp he
  refine ⟨e, event, row, mine, ?_⟩
  revert waits
  simp only [EventEntry.of, decide_eq_false_iff_not]
  cases event.status <;> simp

/-- In a run whose batches drop no such event no order is ever stranded. -/
theorem noneStranded_of_kept {as : List Action}
    (kept : (machine env).Along (fun s a => ¬ DropsEvent s a) {} as) :
    (machine env).Always NoneStranded {} as := by
  have keep (s : System) (a : Action)
      (h : (machine env).Reachable {} s ∧ s.db.books.Awaited) (kept : ¬ DropsEvent s a) :
      (machine env).Reachable {} ((machine env).step s a) ∧
        ((machine env).step s a).db.books.Awaited := by
    obtain ⟨reach, awaited⟩ := h
    have sound := sound_of_reachable reach
    have steps : Books.machine.ReachableBy _ s.db.books ((machine env).step s a).db.books :=
      step_keepsEvents sound kept
    have after := steps.invariant (I := fun b => b.Sound ∧ b.Awaited) ⟨sound.books, awaited⟩
      fun b x hb hx => ⟨hb.1.post hx.1, hb.2.post hb.1 hx.1 hx.2⟩
    exact ⟨reach.step a, after.2⟩
  have start : ({} : System).db.books.Awaited := by
    simp [Books.Awaited, Db.books, Table.view]
  refine Machine.always_mono (fun s h => ?_) (Machine.invariant_always keep ⟨.refl _ _, start⟩ kept)
  exact noneStranded_of_awaited (sound_of_reachable h.1).books (lone_of_reachable h.1).2 h.2

/-- While the whole amount is on its way back the batch breaks off, so the event stays for another
one, which comes after the channel has refused the refund. -/
def retriedBatch : List Action :=
  sale ++
    [ .refund 0 "refund" "reason" none (freshRefund 0) 0,
      .claimRefund 0 0,
      .outboxBatch [0] (fun _ => true) (fun _ => ⟨0, "task"⟩) 0,
      .recordRefund 1 (.status "FAILED") 0 ]

theorem noneStranded_retriedBatch : (machine shop).Always NoneStranded {}
    (retriedBatch ++ [.outboxBatch [0] (fun _ => false) (fun _ => ⟨0, "task"⟩) (seconds 60)]) := by
  have calm : ¬ DropsEvent ((machine shop).run {} retriedBatch)
      (.outboxBatch [0] (fun _ => false) (fun _ => ⟨0, "task"⟩) (seconds 60)) := by
    rintro ⟨pick, mem, -, event, row, -, order, p, found, -, shown, -⟩
    obtain rfl := List.mem_singleton.mp mem
    obtain ⟨event', row', mine⟩ := (Option.any_eq_true (fun e : BusinessEvent => e.orderId = 0)
      (((machine shop).run {} retriedBatch).db.businessOutbox.find? 0)).mp (by decide +kernel)
    obtain ⟨order', found', paid⟩ := (Option.any_eq_true (fun o : Order => o.paymentStatus = .paid)
      (((machine shop).run {} retriedBatch).db.orders.find? 0)).mp (by decide +kernel)
    cases row.symm.trans row'
    rw [of_decide_eq_true mine] at found
    cases found.symm.trans found'
    exact shown (of_decide_eq_true paid)
  have disturbed (s : System) : ¬ DropsEvent s
      (.outboxBatch [0] (fun _ => true) (fun _ => ⟨0, "task"⟩) 0) := by
    rintro ⟨pick, -, calm, -⟩
    cases calm
  refine noneStranded_of_kept ((Machine.along_append _ _ _ _).mpr ⟨?_, calm, trivial⟩)
  exact ⟨id, id, id, id, id, id, id, disturbed _, id, trivial⟩

/-- The batch comes while the whole amount is on its way back, then the channel refuses the refund. -/
def refusedRefund : List Action :=
  sale ++
    [ .refund 0 "refund" "reason" none (freshRefund 0) 0,
      .claimRefund 0 0,
      .outboxBatch [0] (fun _ => false) (fun _ => ⟨0, "task"⟩) 0,
      .recordRefund 1 (.status "FAILED") 0 ]

/-- The order is paid, its money is kept, and no event is left to queue it. -/
theorem refusedRefund_strands : ¬ NoneStranded ((machine shop).run {} refusedRefund) := by
  intro none
  obtain ⟨order, found, prop⟩ := (Option.any_eq_true
    (fun o : Order => o.status = .paid ∧ o.paymentStatus = .paid)
    (((machine shop).run {} refusedRefund).db.orders.find? 0)).mp (by decide +kernel)
  have prop : order.status = .paid ∧ order.paymentStatus = .paid := by simpa using prop
  obtain ⟨e, event, row, mine, waits⟩ := none 0 order found prop.1 (.inl prop.2)
  have handled : ∀ x ∈ ((machine shop).run {} refusedRefund).db.businessOutbox.rows,
      x.status = .processed := by
    decide +kernel
  rw [handled event (Table.mem_of_find? row)] at waits
  exact absurd waits (by decide)

end System
end CoffeeCloud
