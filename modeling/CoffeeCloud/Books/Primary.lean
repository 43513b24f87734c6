import CoffeeCloud.Books.Steps

/-!
The primary payment of an order: it never changes once it is recorded, and what
an order shows is its status, unless an intent beside it is reconciled. Books
that start empty never hold such an intent.
-/
namespace CoffeeCloud
open Library

namespace Books
variable {b c : Books} {automatic : String → Prop} {x : Posting} {o p : Nat} {pe : PaymentEntry}
  {oe : OrderEntry}

/-- Every order shows the status of its primary payment. -/
def Projected (b : Books) : Prop :=
  ∀ o oe p pe, b.orders o = some oe → oe.primary = some p → b.payments p = some pe →
    oe.payment = pe.status

/-- A posting that closes an intent of an order whose primary payment is another one. -/
def Overwrites (b : Books) (x : Posting) : Prop :=
  ∃ p o target, x = .reconcile p o target ∧ ∃ oe, b.orders o = some oe ∧ oe.primary.isSome

theorem Projected.rewrite (h : b.Projected) (sound : b.Sound) {f : PaymentEntry → PaymentEntry}
    {g : OrderEntry → OrderEntry} (hp : b.payments p = some pe) (mine : pe.order = o)
    (payments : c.payments = adjust b.payments p f) (orders : c.orders = adjust b.orders o g)
    (own : ∀ oe, b.orders o = some oe → (g oe).primary = some p → (g oe).payment = (f pe).status)
    (other : ∀ oe q, b.orders o = some oe → (g oe).primary = some q → q ≠ p →
      oe.primary = some q ∧ (g oe).payment = oe.payment) : c.Projected := by
  intro i ie q qe hi primary hq
  rw [payments, adjust_some_iff] at hq
  rw [orders, adjust_some_iff] at hi
  obtain ⟨ie, hi, rfl⟩ := hi
  obtain ⟨qe, hq, rfl⟩ := hq
  by_cases here : i = o
  · subst here
    simp only [if_true] at primary ⊢
    by_cases same : q = p
    · subst same
      cases hp.symm.trans hq
      simpa only [if_true] using own ie hi primary
    · obtain ⟨before, shown⟩ := other ie q hi primary same
      rw [if_neg same, shown]
      exact h i ie q qe hi before hq
  · rw [if_neg here] at primary ⊢
    obtain ⟨qe', hq', owner, -⟩ := sound.primary i ie q hi primary
    have apart : q ≠ p := by
      rintro rfl
      cases hp.symm.trans hq'
      exact here (owner.symm.trans mine)
    rw [if_neg apart]
    exact h i ie q qe hi primary hq

theorem Projected.reorder (h : b.Projected) {g : OrderEntry → OrderEntry}
    (payments : c.payments = b.payments) (orders : c.orders = adjust b.orders o g)
    (same : ∀ oe, b.orders o = some oe → (g oe).primary = oe.primary ∧
      ((g oe).payment = oe.payment ∨ oe.primary = none)) : c.Projected := by
  intro i ie q qe hi primary hq
  rw [payments] at hq
  rw [orders, adjust_some_iff] at hi
  obtain ⟨ie, hi, rfl⟩ := hi
  split at primary
  · rename_i here
    subst here
    obtain ⟨kept, shown⟩ := same ie hi
    rw [kept] at primary
    rw [if_pos rfl, shown.resolve_right (by simp [primary])]
    exact h i ie q qe hi primary hq
  · rename_i apart
    rw [if_neg apart]
    exact h i ie q qe hi primary hq

/-- A payment that has received nothing is nobody's primary one. -/
theorem Sound.not_primary (sound : b.Sound) (hp : b.payments p = some pe)
    (new : ¬ pe.status.Received) (ho : b.orders o = some oe) : oe.primary ≠ some p := by
  intro primary
  obtain ⟨pe', hp', -, received⟩ := sound.primary o oe p ho primary
  cases hp.symm.trans hp'
  exact new received

/-- A refund that enters shows on the order its payment is primary of. -/
theorem Projected.enter (h : b.Projected) (sound : b.Sound) {r : Entered}
    (hp : b.payments r.payment = some pe) (mine : pe.order = o) : (enter o r b).Projected := by
  refine h.rewrite (c := Books.enter o r b) sound hp mine rfl rfl ?_ ?_
  · intro oe _ primary
    rw [project_primary] at primary
    simp [project, primary]
  · intro oe q _ primary apart
    rw [project_primary] at primary
    refine ⟨primary, ?_⟩
    rw [project, if_neg]
    simp [primary, apart]

theorem Projected.post (h : b.Projected) (sound : b.Sound) (hok : ok automatic b x)
    (guarded : ¬ b.Overwrites x) : (post x b).Projected := by
  cases x with
  | openOrder i status payment =>
      intro k ke q qe hk primary hq
      simp only [Books.post, put_apply] at hk hq
      split at hk
      · cases hk
        cases primary
      · exact h k ke q qe hk primary hq
  | openPayment q i amount =>
      obtain ⟨new, -, ⟨oe, ho, unpaid, -⟩, -⟩ := hok
      intro k ke r re hk primary hr
      simp only [Books.post, put_apply] at hr
      simp only [Books.post, adjust_some_iff] at hk
      obtain ⟨ke, hk, rfl⟩ := hk
      split at primary
      · rename_i here
        subst here
        cases ho.symm.trans hk
        have primary : oe.primary = some r := primary
        exact absurd unpaid (sound.started _ _ ho (by simp [primary]))
      · rename_i apart
        obtain ⟨pe, hr', -⟩ := sound.primary k ke r hk primary
        have other : r ≠ q := by
          rintro rfl
          simp [hr'] at new
        rw [if_neg other] at hr
        rw [if_neg apart]
        exact h k ke r re hk primary hr
  | pend q =>
      obtain ⟨e, hq, created⟩ := hok
      refine h.rewrite (g := fun e => e) sound hq rfl rfl (adjust_id _ _).symm ?_ ?_
      · intro oe ho primary
        exact absurd primary (sound.not_primary hq (by rw [created]; decide) ho)
      · exact fun _ _ _ primary _ => ⟨primary, rfl⟩
  | close q i =>
      obtain ⟨e, oe, hq, mine, isOpen, -⟩ := hok
      refine h.rewrite (g := fun e => e) sound hq mine rfl (adjust_id _ _).symm ?_ ?_
      · intro oe ho primary
        exact absurd primary (sound.not_primary hq (not_received_of_open isOpen) ho)
      · exact fun _ _ _ primary _ => ⟨primary, rfl⟩
  | closeProjection i =>
      obtain ⟨e, ho, -, waiting, -⟩ := hok
      refine h.reorder (c := Books.post (.closeProjection i) b) rfl rfl fun oe ho' => ⟨rfl, .inr ?_⟩
      cases ho.symm.trans ho'
      by_contra some
      obtain ⟨q, primary⟩ := Option.ne_none_iff_exists'.mp some
      obtain ⟨pe, hq, -, received⟩ := sound.primary i e q ho primary
      rw [h i e q pe ho primary hq] at waiting
      revert waiting received
      cases pe.status <;> decide
  | reconcile q i target =>
      obtain ⟨e, hq, mine, isOpen, -⟩ := hok
      have unclaimed {oe : OrderEntry} (ho : b.orders i = some oe) : oe.primary = none := by
        by_contra some
        exact guarded ⟨q, i, target, rfl, oe, ho, Option.isSome_iff_ne_none.mpr some⟩
      refine h.rewrite sound hq mine rfl rfl ?_ ?_
      · intro oe ho primary
        simp [unclaimed ho] at primary
      · intro oe r ho primary
        simp [unclaimed ho] at primary
  | receive q i e =>
      obtain ⟨pe, oe, hq, mine, new, ho, -, alone, -⟩ := hok
      refine h.rewrite sound hq mine rfl rfl (fun _ _ _ => rfl) ?_
      intro oe r ho' primary apart
      cases ho.symm.trans ho'
      have unclaimed := sound.unclaimed hq ho new alone
      simp only [claim, unclaimed, Option.none_or, Option.some.injEq] at primary
      exact absurd primary.symm apart
  | payBack i r =>
      obtain ⟨pe, oe, hp, mine, -⟩ := hok
      refine h.rewrite (c := Books.post (.payBack i r) b)
        (g := fun e => project r.payment .refunding (claim r.payment e)) sound hp mine rfl
        (adjust_adjust _ _ _ _) ?_ ?_
      · intro oe _ primary
        rw [project_primary] at primary
        simp [project, primary]
      · intro oe q _ primary apart
        rw [project_primary] at primary
        have hidden : (claim r.payment oe).primary ≠ some r.payment := by
          simp [primary, apart]
        rw [project, if_neg hidden]
        refine ⟨?_, rfl⟩
        cases before : oe.primary with
        | none =>
            simp only [claim, before, Option.none_or, Option.some.injEq] at primary
            exact absurd primary.symm apart
        | some q' =>
            simpa only [claim, before, Option.some_or] using primary
  | request i r =>
      obtain ⟨e, fits⟩ := hok
      exact h.enter sound fits.payment fits.order
  | settle r p i amount status =>
      obtain ⟨e, pe, -, -, -, -, -, hp, mine, -⟩ := hok
      refine h.rewrite (c := Books.post (.settle r p i amount status) b) sound hp mine rfl rfl ?_ ?_
      · intro oe _ primary
        rw [projectSettled_primary] at primary
        simp [projectSettled, primary]
      · intro oe q _ primary apart
        rw [projectSettled_primary] at primary
        refine ⟨primary, ?_⟩
        rw [projectSettled, if_neg]
        simp [primary, apart]
  | move i status => exact h.reorder rfl rfl fun _ _ => ⟨rfl, .inl rfl⟩
  | die i status r =>
      cases r with
      | none => exact h.reorder rfl rfl fun _ _ => ⟨rfl, .inl rfl⟩
      | some r =>
          obtain ⟨oe, pe, -, -, -, fits, -⟩ := hok
          have entered := h.enter sound fits.payment fits.order
          exact entered.reorder rfl rfl fun _ _ => ⟨rfl, .inl rfl⟩
  | process e i queued =>
      cases queued with
      | false => exact h
      | true => exact h.reorder rfl rfl fun _ _ => ⟨rfl, .inl rfl⟩
  | advance | purge => exact h

/-- A primary payment stays the primary one. -/
theorem post_primary (hok : ok automatic b x) (ho : b.orders o = some oe)
    (primary : oe.primary = some p) :
    ∃ oe', (post x b).orders o = some oe' ∧ oe'.primary = some p := by
  have kept {orders : Nat → Option OrderEntry} {e : OrderEntry} (he : orders o = some e)
      (shown : e.primary = some p) (i : Nat) (g : OrderEntry → OrderEntry)
      (keeps : ∀ e : OrderEntry, e.primary = some p → (g e).primary = some p) :
      ∃ e', adjust orders i g o = some e' ∧ e'.primary = some p := by
    rw [adjust_apply, he]
    split
    · exact ⟨_, rfl, keeps e shown⟩
    · exact ⟨e, rfl, shown⟩
  have claims (q : Nat) (e : OrderEntry) (shown : e.primary = some p) :
      (claim q e).primary = some p := by
    simp [claim, shown]
  have projects (q : Nat) (s : PaymentStatus) (e : OrderEntry) (shown : e.primary = some p) :
      (project q s e).primary = some p := by
    rwa [project_primary]
  cases x with
  | openOrder i status payment =>
      have other : o ≠ i := by
        rintro rfl
        have new := hok.1
        simp [ho] at new
      exact ⟨oe, by simp only [post, put_of_ne other, ho], primary⟩
  | openPayment q i amount => exact kept ho primary i _ fun _ => id
  | closeProjection i => exact kept ho primary i _ fun _ => id
  | reconcile q i target => exact kept ho primary i _ fun _ => id
  | receive q i e => exact kept ho primary i _ (claims q)
  | payBack i r =>
      obtain ⟨e, he, shown⟩ := kept ho primary i _ (claims r.payment)
      exact kept he shown i _ (projects _ _)
  | request i r => exact kept ho primary i _ (projects _ _)
  | settle r q i amount status =>
      exact kept ho primary i _ fun e shown => by rwa [projectSettled_primary]
  | move i status => exact kept ho primary i _ fun _ => id
  | die i status r =>
      cases r with
      | none => exact kept ho primary i _ fun _ => id
      | some r =>
          obtain ⟨e, he, shown⟩ := kept ho primary i _ (projects r.payment .refunding)
          exact kept he shown i _ fun _ => id
  | process e i queued =>
      cases queued with
      | false => exact ⟨oe, ho, primary⟩
      | true => exact kept ho primary i _ fun _ => id
  | pend | close | advance | purge => exact ⟨oe, ho, primary⟩

/-- An order has one payment at most, and waits for its money while that is open. -/
structure Lone (b : Books) : Prop where
  one : ∀ p q pe qe, b.payments p = some pe → b.payments q = some qe → pe.order = qe.order → p = q
  waiting : ∀ p pe oe, b.payments p = some pe → b.orders pe.order = some oe → oe.status.Unpaid →
    pe.status.Open

/-- Where every payment has its order, an intent is never beside the primary payment. -/
theorem Lone.guarded (h : b.Lone) (sound : b.Sound) (hok : ok automatic b x) : ¬ b.Overwrites x := by
  rintro ⟨p, o, target, rfl, oe, ho, claimed⟩
  obtain ⟨pe, hp, mine, isOpen, -⟩ := hok
  obtain ⟨q, primary⟩ := Option.isSome_iff_exists.mp claimed
  obtain ⟨qe, hq, owner, received⟩ := sound.primary o oe q ho primary
  cases h.one p q pe qe hp hq (mine.trans owner.symm)
  cases hp.symm.trans hq
  exact not_received_of_open isOpen received

/-- Nothing opens an order again for payment, so what is settled of its payment stays so. -/
theorem Lone.keep (h : b.Lone)
    (payments : ∀ p pe', c.payments p = some pe' → ∃ pe, b.payments p = some pe ∧
      pe'.order = pe.order ∧ (pe.status.Open → pe'.status.Open ∨
        ∀ oe', c.orders pe.order = some oe' → ¬ oe'.status.Unpaid))
    (orders : ∀ o oe', c.orders o = some oe' → oe'.status.Unpaid →
      (∃ oe, b.orders o = some oe ∧ oe.status.Unpaid) ∨ ∀ p pe, b.payments p = some pe → pe.order ≠ o) :
    c.Lone := by
  constructor
  · intro p q pe' qe' hp hq same
    obtain ⟨pe, hp, mine, -⟩ := payments p pe' hp
    obtain ⟨qe, hq, owner, -⟩ := payments q qe' hq
    exact h.one p q pe qe hp hq (mine.symm.trans (same.trans owner))
  · intro p pe' oe' hp ho unpaid
    obtain ⟨pe, hp, mine, opens⟩ := payments p pe' hp
    rw [mine] at ho
    rcases orders _ oe' ho unpaid with ⟨oe, ho', before⟩ | alone
    · exact (opens (h.waiting p pe oe hp ho' before)).resolve_right fun no => no oe' ho unpaid
    · exact absurd rfl (alone p pe hp)

/-- A payment and its order rewritten. -/
theorem Lone.rewrite (h : b.Lone) {f : PaymentEntry → PaymentEntry} {g : OrderEntry → OrderEntry}
    {q i : Nat} (payments : c.payments = adjust b.payments q f)
    (orders : c.orders = adjust b.orders i g) (mine : ∀ pe : PaymentEntry, (f pe).order = pe.order)
    (opens : ∀ pe, b.payments q = some pe → pe.status.Open → (f pe).status.Open ∨
      pe.order = i ∧ ∀ oe, b.orders i = some oe → ¬ (g oe).status.Unpaid)
    (unpaid : ∀ oe, b.orders i = some oe → (g oe).status.Unpaid → oe.status.Unpaid) :
    c.Lone := by
  refine h.keep (fun p pe' hp => ?_) fun o oe' ho before => .inl ?_
  · rw [payments, adjust_some_iff] at hp
    obtain ⟨pe, hp, rfl⟩ := hp
    refine ⟨pe, hp, ?_⟩
    split
    · rename_i here
      refine ⟨mine pe, fun isOpen => (opens pe (here ▸ hp) isOpen).imp_right ?_⟩
      rintro ⟨rfl, settled⟩ oe' ho
      rw [orders, adjust_some_iff] at ho
      obtain ⟨oe, ho, rfl⟩ := ho
      rw [if_pos rfl]
      exact settled oe ho
    · exact ⟨rfl, .inl⟩
  · rw [orders, adjust_some_iff] at ho
    obtain ⟨oe, ho, rfl⟩ := ho
    refine ⟨oe, ho, ?_⟩
    split at before
    · rename_i here
      exact unpaid oe (here ▸ ho) before
    · exact before

/-- Only the order changes. -/
theorem Lone.reorder (h : b.Lone) {g : OrderEntry → OrderEntry} {i : Nat}
    (payments : c.payments = b.payments) (orders : c.orders = adjust b.orders i g)
    (unpaid : ∀ oe, b.orders i = some oe → (g oe).status.Unpaid → oe.status.Unpaid) : c.Lone := by
  refine h.rewrite (f := fun e => e) (q := 0) ?_ orders (fun _ => rfl) (fun _ _ => .inl) unpaid
  rw [payments, adjust_id]

theorem not_open_of_refundable {s : PaymentStatus} (h : s ∈ refundablePaymentStatuses) : ¬ s.Open := by
  revert h
  cases s <;> decide

theorem not_unpaid_ite {s t : OrderStatus} (h : ¬ t.Unpaid) : ¬ (if s.Unpaid then t else s).Unpaid := by
  split
  · exact h
  · assumption

theorem projectSettled_unpaid {target : PaymentStatus}
    (h : (projectSettled p target oe).status.Unpaid) : oe.status.Unpaid := by
  rw [projectSettled] at h
  split at h
  · change (if _ then _ else _ : OrderStatus).Unpaid at h
    split at h
    · exact absurd h (by decide)
    · exact h
  · exact h

theorem Lone.enter (h : b.Lone) {r : Entered} (fits : b.Fits o r pe) : (enter o r b).Lone := by
  refine h.rewrite (c := Books.enter o r b) rfl rfl (fun _ => rfl) ?_ ?_
  · intro pe' hp isOpen
    cases fits.payment.symm.trans hp
    exact absurd isOpen (not_open_of_refundable fits.refundable)
  · intro oe _ before
    rwa [project_status] at before

theorem Lone.post (h : b.Lone) (sound : b.Sound) (hok : ok automatic b x) : (post x b).Lone := by
  cases x with
  | openOrder i status payment =>
      refine h.keep (fun p pe hp => ⟨pe, hp, rfl, .inl⟩) fun o oe' ho before => ?_
      simp only [Books.post, put_apply] at ho
      split at ho
      · rename_i here
        subst here
        refine .inr fun p pe hp mine => ?_
        have there := sound.order p pe hp
        rw [mine, hok.1] at there
        cases there
      · exact .inl ⟨oe', ho, before⟩
  | openPayment q i amount =>
      obtain ⟨new, -, ⟨oe, ho, unpaid, -⟩, idle⟩ := hok
      -- An unpaid order waits for the only payment it has, and none is open.
      have first (p : Nat) (pe : PaymentEntry) (hp : b.payments p = some pe) : pe.order ≠ i := by
        rintro rfl
        exact idle p pe hp rfl (h.waiting p pe oe hp ho unpaid)
      constructor
      · intro p p' pe pe' hp hp' same
        simp only [Books.post, put_apply] at hp hp'
        split at hp <;> split at hp'
        · simp_all
        · cases hp
          exact absurd same.symm (first p' pe' hp')
        · cases hp'
          exact absurd same (first p pe hp)
        · exact h.one p p' pe pe' hp hp' same
      · intro p pe oe' hp ho' before
        simp only [Books.post, put_apply] at hp
        simp only [Books.post, adjust_some_iff] at ho'
        split at hp
        · cases hp
          exact (by decide : PaymentStatus.created.Open)
        · obtain ⟨oe₀, ho₀, rfl⟩ := ho'
          rw [if_neg (first p pe hp)] at before
          exact h.waiting p pe oe₀ hp ho₀ before
  | pend q =>
      refine h.rewrite (g := fun e => e) rfl (adjust_id _ 0).symm (fun _ => rfl) ?_ fun _ _ => id
      exact fun _ _ _ => .inl (by decide : PaymentStatus.pending.Open)
  | close q i =>
      obtain ⟨e, oe, hq, mine, isOpen, ho, cancelled⟩ := hok
      refine h.rewrite (c := Books.post (.close q i) b) (g := fun e => e) rfl (adjust_id _ i).symm
        (fun _ => rfl) ?_ fun _ _ => id
      intro pe hp _
      cases hq.symm.trans hp
      refine .inr ⟨mine, fun oe' ho' => ?_⟩
      cases ho.symm.trans ho'
      rw [cancelled]
      decide
  | closeProjection i => exact h.reorder rfl rfl fun _ _ => id
  | reconcile q i target =>
      obtain ⟨e, hq, mine, isOpen, -⟩ := hok
      refine h.rewrite (c := Books.post (.reconcile q i target) b) rfl rfl (fun _ => rfl) ?_ ?_
      · intro pe hp _
        cases hq.symm.trans hp
        exact .inr ⟨mine, fun oe _ => not_unpaid_ite (by decide)⟩
      · exact fun oe _ before => absurd before (not_unpaid_ite (by decide))
  | receive q i e =>
      obtain ⟨pe, oe, hq, mine, -⟩ := hok
      refine h.rewrite (c := Books.post (.receive q i e) b) rfl rfl (fun _ => rfl) ?_ ?_
      · intro pe' hp _
        cases hq.symm.trans hp
        exact .inr ⟨mine, fun oe _ => not_unpaid_ite (by decide)⟩
      · exact fun oe _ before => absurd before (not_unpaid_ite (by decide))
  | payBack i r =>
      obtain ⟨pe, oe, hq, mine, -, -, -, ho, why⟩ := hok
      have settled : ¬ oe.status.Unpaid := by
        rcases why with dead | other
        · exact not_unpaid_of_dead dead
        · refine sound.started i oe ho ?_
          cases primary : oe.primary with
          | none => simp [primary] at other
          | some p => rfl
      refine h.rewrite (c := Books.post (.payBack i r) b)
        (g := fun e => project r.payment .refunding (claim r.payment e)) rfl
        (adjust_adjust _ _ _ _) (fun _ => rfl) ?_ ?_
      · intro pe' hp _
        cases hq.symm.trans hp
        refine .inr ⟨mine, fun oe' ho' => ?_⟩
        cases ho.symm.trans ho'
        rwa [project_status]
      · intro oe' _ before
        rwa [project_status] at before
  | request i r =>
      obtain ⟨e, fits⟩ := hok
      exact h.enter fits
  | settle r p i amount status =>
      obtain ⟨e, pe, hr, payment, -, -, -, hp, mine, -⟩ := hok
      refine h.rewrite (c := Books.post (.settle r p i amount status) b) rfl rfl (fun _ => rfl) ?_ ?_
      · intro pe' hp' isOpen
        cases hp.symm.trans hp'
        obtain ⟨pe', hp', received⟩ := sound.refundReceived r e hr
        rw [payment, hp] at hp'
        cases hp'
        exact absurd received (not_received_of_open isOpen)
      · intro oe _ before
        exact projectSettled_unpaid before
  | move i status =>
      obtain ⟨e, ho, -, onward⟩ := hok
      refine h.reorder rfl rfl fun oe _ (before : status.Unpaid) => ?_
      rcases before with rfl | rfl <;> simp at onward
  | die i status r =>
      cases r with
      | none =>
          obtain ⟨e, ho, -, dead, -⟩ := hok
          exact h.reorder rfl rfl fun oe _ before => absurd before (not_unpaid_of_dead dead)
      | some r =>
          obtain ⟨oe, pe, -, -, dead, fits, -⟩ := hok
          exact (h.enter fits).reorder rfl rfl fun oe _ before =>
            absurd before (not_unpaid_of_dead dead)
  | process e i queued =>
      cases queued with
      | false => exact h.keep (fun p pe hp => ⟨pe, hp, rfl, .inl⟩) fun o oe ho before => .inl ⟨oe, ho, before⟩
      | true =>
          exact h.reorder rfl rfl fun oe _ before =>
            absurd before (by decide : ¬ OrderStatus.queued.Unpaid)
  | advance | purge =>
      exact h.keep (fun p pe hp => ⟨pe, hp, rfl, .inl⟩) fun o oe ho before => .inl ⟨oe, ho, before⟩

end Books
end CoffeeCloud
