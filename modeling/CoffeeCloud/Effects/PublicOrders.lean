import CoffeeCloud.Books.Steps
import CoffeeCloud.Effects.Payments

/-!
What order creation and cancellation do: a cancelled order takes its queued job
with it, and what was paid for it starts on its way back.
-/
namespace CoffeeCloud
open Library Tx

variable {db db' : Db} {now : Time} {env : Env}

theorem enqueue_same (terminalId : Id) : Follows Same (DispatchRepository.enqueue terminalId now) :=
  follows_write fun _ => ⟨rfl, rfl⟩

theorem insertProductionJob_effect {job : Job} {u : Unit}
    (h : Ran (OrderRepository.insertProductionJob job) db u db') :
    db.jobs.find? job.id = none ∧ db' = { db with jobs := db.jobs.insert job } := by
  simp only [OrderRepository.insertProductionJob, ran_read_bind, ran_ensure_bind, ran_write, id_eq,
    Option.isNone_iff_eq_none] at h
  exact ⟨h.1, h.2.2.2.symm⟩

namespace PublicOrderService

/-- A new order, with its job where nothing has to be paid. -/
def Takes (w : Work) : Prop := (∃ o t, w = .take o t) ∨ ∃ o j t k, w = .takeQueued o j t k

theorem create_effect {r : CreateRequest} {mode : PaymentMode} {admitted : Except Failure Product}
    {fresh : FreshOrder} {x : Id × Bool}
    (h : Ran (create env r mode admitted fresh now) db x db') :
    Refines (fun x => ∃ o s p, x = .openOrder o s p) Takes db db' := by
  simp only [create, ran_ensure_bind, ran_read_bind, ran_require_bind,
    OrderRepository.findIdempotent] at h
  obtain ⟨-, terminal, located, -, h⟩ := h
  have hosted : db.floor.terminals terminal.id = true := by
    have row := Table.find?_of_mem (findTerminal_mem located)
    have row : db.terminals.find? terminal.id = some terminal := row
    simp [Db.floor, row]
  split at h
  · simp only [ran_ensure_bind, ran_pure] at h
    obtain ⟨-, -, rfl⟩ := h
    exact .refl _
  · split at h
    · simp at h
    · simp only [OrderRepository.activeCount, OrderRepository.insert,
        OrderRepository.insertInitialTransition, bind_assoc, ran_read_bind, ran_ensure_bind,
        ran_write_bind, id_eq, Option.isNone_iff_eq_none] at h
      obtain ⟨-, fresh', -, h⟩ := h
      rw [ran_bind] at h
      obtain ⟨u, t, produce, h⟩ := h
      simp only [ran_pure] at h
      obtain ⟨-, rfl⟩ := h
      have new : db.books.orders fresh.orderId = none := (Table.view_eq_none _).mpr fresh'
      have new' : db.floor.orders fresh.orderId = none := (Table.view_eq_none _).mpr fresh'
      rw [ran_onlyIf] at produce
      cases hm : r.paymentMode with
      | online =>
          rw [hm] at produce
          simp only [reduceCtorEq, false_and, not_false_eq_true, true_and, false_or] at produce
          subst produce
          refine .both (.openOrder fresh.orderId .created .notStarted) (.take fresh.orderId terminal.id)
            ⟨new, by simp⟩ ⟨_, _, _, rfl⟩ (fun _ => ⟨new', hosted⟩) (.inl ⟨_, _, rfl⟩) ?_ ?_
          · simp only [Db.books]
            rw [Table.view_insert OrderEntry.of fresh']
            rfl
          · simp only [Db.floor]
            rw [Table.view_insert OrderPlace.of fresh']
            rfl
      | testFree =>
          rw [hm] at produce
          simp only [not_true_eq_false, false_and, or_false, true_and, ran_bind] at produce
          obtain ⟨_, t', inserted, queue⟩ := produce
          obtain ⟨newJob, rfl⟩ := insertProductionJob_effect inserted
          have newJob' : db.floor.jobs fresh.jobId = none := (Table.view_eq_none _).mpr newJob
          refine .trans (.both (.openOrder fresh.orderId .queued .notRequired)
            (.takeQueued fresh.orderId fresh.jobId terminal.id fresh.taskId) ⟨new, by simp⟩
            ⟨_, _, _, rfl⟩ (fun _ => ⟨new', newJob', hosted⟩) (.inr ⟨_, _, _, _, rfl⟩) ?_ ?_)
            (.of_same (enqueue_same _ _ _ _ queue))
          · simp only [Db.books]
            rw [Table.view_insert OrderEntry.of fresh']
            rfl
          · simp only [Db.floor]
            rw [Table.view_insert OrderPlace.of fresh', Table.view_insert JobEntry.of newJob]
            rfl

/-- The payment found is the order's own. -/
theorem paymentToReturn_effect {order : Order} {x : Option Id}
    (h : Ran (paymentToReturn order) db x db') : db' = db ∧
      (order.paidPaymentId.isSome → x = order.paidPaymentId) ∧
      (order.paidPaymentId = none → ∀ p, x = some p → ∃ payment, db.payments.find? p = some payment ∧
        payment.orderId = order.id) := by
  cases primary : order.paidPaymentId with
  | some p =>
      simp only [paymentToReturn, primary, ran_pure] at h
      exact ⟨h.2.symm, fun _ => h.1.symm, by simp⟩
  | none =>
      simp only [paymentToReturn, primary, PaymentRepository.paidForOrder, ran_read_bind,
        ran_pure] at h
      obtain ⟨rfl, rfl⟩ := h
      refine ⟨rfl, by simp, fun _ p found => ?_⟩
      obtain ⟨payment, head, rfl⟩ := Option.map_eq_some_iff.mp found
      obtain ⟨mem, mine⟩ := Table.head?_select_some head
      simp only [Bool.and_eq_true, decide_eq_true_eq] at mine
      exact ⟨payment, Table.find?_of_mem mem, mine.1⟩

/-- What is done about the money of a dying order: the whole rest goes back as one refund, or
nothing is left to be refunded. -/
def Returns (b b' : Books) (o : Id) (primary : Option Id) (key : String) : Option Entered → Prop
  | none => b' = b ∧ ∀ p, primary = some p → Settled b p key
  | some r => b' = Books.enter o r b ∧ r.key = key ∧
      ∃ pe, b.Fits o r pe ∧ r.amount = pe.amount - (b.balance r.payment).reserved

/-- Only the order of its payment, wherever the payment is found. -/
def Owns (b : Books) (order : Order) : Prop := ∀ p pe, order.paidPaymentId = some p →
  b.payments p = some pe → pe.order = order.id

section Returns
variable {order : Order} {key reason : String} {fresh : FreshRefund}

theorem returned {p : Id} {x : Option RefundIntent} (owns : Owns db.books order)
    (mine : order.paidPaymentId = some p ∨ ∃ payment, db.payments.find? p = some payment ∧
      payment.orderId = order.id)
    (unowned : order.paidPaymentId.isSome → order.paidPaymentId = some p)
    (h : Ran (ensureAutomaticRefundIntent env p key reason fresh now) db x db') :
    db'.floor = db.floor ∧ ∃ r, Returns db.books db'.books order.id order.paidPaymentId key r := by
  rcases ensureAutomaticRefundIntent_effect h with
    ⟨rfl, settled⟩ | ⟨payment, amount, found, whole, fits, books, floor⟩
  · refine ⟨rfl, none, rfl, fun q primary => ?_⟩
    have := unowned (by simp [primary])
    rw [primary, Option.some.injEq] at this
    exact this ▸ settled
  · have order' : payment.orderId = order.id := by
      rcases mine with primary | ⟨payment', found', mine⟩
      · exact owns p _ primary (Db.books_payment found)
      · cases found.symm.trans found'
        exact mine
    rw [order'] at fits books
    exact ⟨floor, some ⟨fresh.id, p, amount, key⟩, books, rfl, _, fits, whole⟩

theorem returned_effect {u : Unit} (owns : Owns db.books order)
    (h : Ran (do
      match ← paymentToReturn order with
      | none => pure ()
      | some p => do
          let _ ← ensureAutomaticRefundIntent env p key reason fresh now
          pure ()) db u db') :
    db'.floor = db.floor ∧ ∃ r, Returns db.books db'.books order.id order.paidPaymentId key r := by
  rw [ran_bind] at h
  obtain ⟨x, t, find, h⟩ := h
  obtain ⟨rfl, primary, other⟩ := paymentToReturn_effect find
  cases x with
  | none =>
      simp only [ran_pure] at h
      obtain ⟨-, rfl⟩ := h
      refine ⟨rfl, none, rfl, fun p shown => ?_⟩
      have := primary (by simp [shown])
      simp [shown] at this
  | some p =>
      simp only [ran_bind, ran_pure] at h
      obtain ⟨x, t', ensured, -, rfl⟩ := h
      refine returned owns ?_ (fun shown => (primary shown).symm) ensured
      cases claimed : order.paidPaymentId with
      | none => exact .inr (other claimed p rfl)
      | some q =>
          have := primary (by simp [claimed])
          exact .inl (claimed.symm.trans this.symm)

/-- The status of an order does not matter to the money it returns. -/
theorem returns_setStatus {b b' : Books} {o : Id} {status : OrderStatus} {p : Option Id}
    {r : Option Entered} (returns : Returns (Books.setStatus o status b) b' o p key r) :
    ∃ b'', Returns b b'' o p key r ∧ b' = Books.setStatus o status b'' := by
  cases r with
  | none => exact ⟨b, ⟨rfl, returns.2⟩, returns.1⟩
  | some r =>
      obtain ⟨rfl, same, pe, fits, whole⟩ := returns
      refine ⟨Books.enter o r b, ⟨rfl, same, pe, ⟨fits.1, fits.2, fits.3, fits.4, fits.5, fits.6⟩,
        whole⟩, ?_⟩
      simp only [Books.enter, Books.setStatus, adjust_adjust]
      congr 1
      congr 1
      funext e
      simp only [Books.project]
      split <;> rfl

theorem owns_of_sound (sound : db.books.Sound) (found : db.orders.find? order.id = some order) :
    Owns db.books order := by
  intro p pe primary hp
  obtain ⟨pe', hp', mine, -⟩ := sound.primary _ _ p (Db.books_order found) primary
  cases hp.symm.trans hp'
  exact mine

/-- An order that returned its money may die. -/
theorem die_ok {b b' : Books} {o : Id} {e : OrderEntry} {r : Option Entered} {status : OrderStatus}
    (sound : b.Sound) (ho : b.orders o = some e) (automatic : AutomaticKey key)
    (returns : Returns b b' o e.primary key r) (legal : status ∈ orderTransitions e.status)
    (dead : status.Dead) : b.ok AutomaticKey (.die o status r) := by
  cases r with
  | none =>
      refine ⟨e, ho, legal, dead, ?_⟩
      cases primary : e.primary with
      | none => exact .inr (.inr (.inl primary))
      | some p =>
          obtain ⟨pe, hp, -⟩ := sound.primary o e p ho primary
          refine .inr (.inr (.inr ⟨p, pe, primary, hp, ?_⟩))
          by_cases refundable : pe.status ∈ refundablePaymentStatuses
          · rcases returns.2 p primary pe hp refundable with covered | ⟨x, re, hr, mine, rfl⟩
            · exact .inr (.inl covered)
            · exact .inr (.inr ⟨x, re, hr, mine, automatic⟩)
          · exact .inl refundable
  | some r =>
      obtain ⟨-, -, pe, fits, whole⟩ := returns
      exact ⟨e, pe, ho, legal, dead, fits, whole⟩

theorem die_post {b b' : Books} {o : Id} {p : Option Id} {r : Option Entered} (status : OrderStatus)
    (returns : Returns b b' o p key r) :
    Books.post (.die o status r) b = Books.setStatus o status b' := by
  cases r with
  | none => rw [returns.1]; rfl
  | some r => rw [returns.1]; rfl

end Returns

def Dies (x : Posting) : Prop :=
  ∃ o s r, x = .die o s r ∧ ∀ e, r = some e → AutomaticKey e.key

theorem refundCancelled_effect {order : Order} {fresh : FreshRefund} {u : Unit}
    (sound : db.books.Sound) (found : db.orders.find? order.id = some order)
    (start : order.status ∈ [.created, .awaitingPayment, .queued])
    (h : Ran (refundCancelled env order fresh now) db u db') :
    db'.floor = db.floor ∧ ∃ r, db.books.ok AutomaticKey (.die order.id .cancelled r) ∧
      (∀ e, r = some e → AutomaticKey e.key) ∧
      Books.post (.die order.id .cancelled r) db.books =
        Books.setStatus order.id .cancelled db'.books := by
  have legal : .cancelled ∈ orderTransitions order.status := by
    simp only [List.mem_cons, List.not_mem_nil, or_false] at start
    rcases start with h | h | h <;> rw [h] <;> decide
  have ho := Db.books_order found
  have automatic : AutomaticKey s!"order:{order.id}:cancelled-order-refund" := ⟨order.id, by simp⟩
  simp only [refundCancelled] at h
  rw [ran_ite] at h
  rcases h with ⟨-, h⟩ | ⟨skip, h⟩
  · obtain ⟨floor, r, returns⟩ := returned_effect (owns_of_sound sound found) h
    refine ⟨floor, r, die_ok sound ho automatic returns legal (by decide), ?_, die_post _ returns⟩
    rintro e rfl
    exact returns.2.1 ▸ automatic
  · simp only [ran_pure] at h
    obtain ⟨-, rfl⟩ := h
    refine ⟨rfl, none, ⟨_, ho, legal, by decide, ?_⟩, by simp, rfl⟩
    simp only [List.mem_cons, List.not_mem_nil, or_false] at start
    by_cases queued : order.status = .queued
    · exact .inr (.inl fun refundable => skip ⟨queued, refundable⟩)
    · have unpaid : order.status.Unpaid := by simpa [queued, OrderStatus.Unpaid] using start
      exact .inl unpaid

/-- The floor after the jobs of an order were cancelled. -/
def cancelJobs (o : Id) (f : Floor) : Floor :=
  { f with jobs := fun k => (f.jobs k).map fun e =>
      if e.order = o then { e with status := .cancelled, version := e.version + 1 } else e }

theorem cancelJob_effect {o : Id} {u : Unit} (h : Ran (OrderRepository.cancelJob o now) db u db') :
    db'.books = db.books ∧ db'.floor = cancelJobs o db.floor := by
  simp only [OrderRepository.cancelJob, ran_write] at h
  subst h
  refine ⟨rfl, ?_⟩
  simp only [Db.floor, cancelJobs]
  congr 1
  funext k
  rw [Table.view_modifyWhere, Table.view, Option.map_map]
  congr 1
  funext j
  by_cases mine : j.orderId = o <;> simp [mine, JobEntry.of]

/-- An order that is cancelled before its job is dispatched takes the job with it. -/
theorem cancelled_floor {f : Floor} {o : Id} {s : OrderStatus} (sound : f.Sound) (stands : f.At o s)
    (start : s ∈ [.created, .awaitingPayment, .queued]) :
    ∃ w, (w = .jobless o .cancelled ∨ ∃ j, w = .cancelQueued o j) ∧ f.ok w ∧
      Floor.apply w f = cancelJobs o (Floor.setOrder o .cancelled f) := by
  by_cases none : f.Jobless o
  · refine ⟨.jobless o .cancelled, .inl rfl, ⟨none, s, stands, ?_, by decide⟩, ?_⟩
    · simp only [List.mem_cons, List.not_mem_nil, or_false] at start
      rcases start with h | h | h <;> rw [h] <;> decide
    · simp only [Floor.apply, cancelJobs, Floor.setOrder]
      congr 1
      funext k
      cases hk : f.jobs k with
      | none => rfl
      | some e => simp [none k e hk]
  · obtain ⟨j, e, hj, rfl⟩ : ∃ j e, f.jobs j = some e ∧ e.order = o := by
      simpa [Floor.Jobless] using none
    have queued : s = .queued ∧ e.status = .queued := by
      obtain ⟨s', hs', together⟩ := sound.coordinated j e hj
      obtain ⟨oe, ho, rfl⟩ := stands
      rw [Floor.at_of_some ho] at hs'
      subst hs'
      exact ⟨(Floor.coordinated_start start together).1, (Floor.coordinated_start start together).2.1⟩
    refine ⟨.cancelQueued e.order j, .inr ⟨j, rfl⟩, ⟨queued.1 ▸ stands, e, hj, rfl, queued.2⟩, ?_⟩
    simp only [Floor.apply, cancelJobs, Floor.setOrder]
    congr 1
    funext k
    by_cases same : k = j
    · subst same
      simp [adjust, hj]
    · cases hk : f.jobs k with
      | none => simp [adjust, same, hk]
      | some e' =>
          have other : e'.order ≠ e.order := fun h => same (sound.oneJob k j e' e hk hj h)
          simp [adjust, same, hk, other]

/-- A cancellation kills the order, and the intents it leaves to be closed are that order's. -/
theorem cancel_effect {orderId : Id} {token : Option String} {fresh : FreshRefund}
    {intents : List Payment} (sound : db.books.Sound)
    (h : Ran (cancel env orderId token fresh now) db intents db') :
    Refines Dies (fun w => ∃ o, w = .jobless o .cancelled ∨ ∃ j, w = .cancelQueued o j) db db' ∧
      ∀ i ∈ intents, db'.books.ClosingAt orderId i.id := by
  simp only [cancel, ran_bind] at h
  obtain ⟨order, t, authenticated, h⟩ := h
  obtain ⟨rfl, found, rfl⟩ := PaymentApplicationService.authenticateOrder_effect authenticated
  rw [ran_ite] at h
  rcases h with ⟨-, h⟩ | ⟨-, h⟩
  · simp only [ran_pure] at h
    obtain ⟨rfl, rfl⟩ := h
    exact ⟨.refl _, by simp⟩
  · simp only [ran_ensure_bind, PaymentRepository.openIntentsForOrder, ran_read_bind] at h
    obtain ⟨start, h⟩ := h
    rw [ran_bind] at h
    obtain ⟨_, t₁, back, h⟩ := h
    rw [ran_bind] at h
    obtain ⟨moved, t₂, transition, h⟩ := h
    rw [ran_bind] at h
    obtain ⟨_, t₃, jobs, h⟩ := h
    simp only [ran_pure] at h
    obtain ⟨rfl, rfl⟩ := h
    obtain ⟨stays, r, ok, automatic, posted⟩ := refundCancelled_effect sound found start back
    obtain ⟨row, found₁, -⟩ := (Table.view_eq_some _).mp
      ((congrArg (·.orders order.id) stays).trans (Db.floor_order found))
    obtain ⟨books, floor⟩ := cancelJob_effect jobs
    rcases ran_transitionOrder transition found₁ with ⟨stuck, -⟩ | ⟨-, legal, _, _, -, rfl⟩
    · simp only [List.mem_cons, List.not_mem_nil, or_false] at start
      rcases start with h | h | h <;> simp [h, orderTransitions] at stuck
    · rw [Db.moveOrder_books, ← posted] at books
      rw [Db.moveOrder_floor, stays] at floor
      have refines : Refines Dies (fun w => ∃ o, w = .jobless o .cancelled ∨ ∃ j, w = .cancelQueued o j)
          t t₃ := by
        refine ⟨books ▸ .single ⟨ok, _, _, _, rfl, automatic⟩, fun sound => ?_⟩
        obtain ⟨w, kind, hok, applied⟩ := cancelled_floor sound ⟨_, Db.floor_order found, rfl⟩ start
        rw [floor, ← applied]
        exact .single ⟨hok, order.id, kind⟩
      refine ⟨refines, fun i hi => ?_⟩
      obtain ⟨mem, mine⟩ := Table.mem_select.mp hi
      simp only [PaymentRepository.isOpenIntent, Bool.and_eq_true, decide_eq_true_eq] at mine
      obtain ⟨pe, hp, order', -⟩ :=
        Books.post_payment ok (Db.books_payment (Table.find?_of_mem mem))
      have cancelled : t₃.books.orders order.id = some { OrderEntry.of row with status := .cancelled } := by
        rw [books, posted]
        simp only [Books.setStatus, adjust_of_some (Db.books_order found₁), put_same]
      exact ⟨pe, _, by rw [books]; exact hp, order'.trans mine.1, cancelled, rfl⟩

theorem closingAt_of_refines {P : Posting → Prop} {W : Work → Prop} {o p : Id}
    (h : Refines P W db db') (closing : db.books.ClosingAt o p) : db'.books.ClosingAt o p := by
  refine h.books.invariant (I := fun b => b.ClosingAt o p) closing fun _ _ closing hx => ?_
  exact Books.ClosingAt.post closing hx.1

/-- What the answers to the close requests of a cancelled order may post. -/
def Closes (x : Posting) : Prop :=
  Collect x ∨ (∃ p o, x = .close p o) ∨ ∃ o, x = .closeProjection o

theorem recordClosed_effect {c : Closed} {orderId : Id} {u : Unit} (sound : db.books.Sound)
    (closing : db.books.ClosingAt orderId c.intent.id)
    (h : Ran (recordClosed env c now) db u db') :
    Refines Closes (fun w => ∃ o, w = .jobless o .paid) db db' := by
  simp only [recordClosed, PaymentRepository.find, ran_read_bind] at h
  split at h
  · simp only [ran_pure] at h
    exact h.2 ▸ .refl _
  · rename_i current located
    obtain ⟨found, isOpen⟩ := Option.filter_eq_some_iff.mp located
    have key : current.id = c.intent.id := Table.key_of_find? found
    rw [ran_ite] at h
    rcases h with ⟨-, h⟩ | ⟨-, h⟩
    · simp only [ran_bind, ran_pure] at h
      obtain ⟨x, t, transition, -, rfl⟩ := h
      obtain ⟨pe, oe, hp, mine, ho, cancelled⟩ := closing
      rw [← key] at hp found
      have entry := Db.books_payment found
      cases entry.symm.trans hp
      have isOpen : current.status ∈ openPaymentStatuses := by simpa using isOpen
      exact .post (.close current.id orderId)
        ⟨_, oe, entry, mine, isOpen, ho, cancelled⟩ (.inr (.inl ⟨_, _, rfl⟩))
        (transitionPayment_books transition found) (transitionPayment_rest transition found).1
    · rw [ran_ite] at h
      rcases h with ⟨-, h⟩ | ⟨-, h⟩
      · simp only [ran_bind, ran_pure] at h
        obtain ⟨x, t, callback, -, rfl⟩ := h
        rcases applyPaidCallback_effect sound callback with ⟨-, -, replayed⟩ | ⟨-, -, refines⟩
        · exact .of_same replayed.same
        · exact refines.mono (fun _ => .inl) fun _ => id
      · exact .of_same (scheduleReconciliation_same _ _ _ _ _ h)

theorem recordAll_effect {cs : List Closed} {orderId : Id} {u : Unit} (sound : db.books.Sound)
    (closing : ∀ c ∈ cs, db.books.ClosingAt orderId c.intent.id)
    (h : Ran (Tx.forEach cs fun c => recordClosed env c now) db u db') :
    Refines Closes (fun w => ∃ o, w = .jobless o .paid) db db' := by
  induction cs generalizing db with
  | nil =>
      simp only [ran_forEach_nil] at h
      exact h ▸ .refl _
  | cons c cs ih =>
      simp only [ran_forEach_cons] at h
      obtain ⟨t, one, rest⟩ := h
      have first := recordClosed_effect sound (closing c List.mem_cons_self) one
      refine first.trans (ih (first.booksSound sound) (fun c hc => ?_) rest)
      exact closingAt_of_refines first (closing c (List.mem_cons_of_mem _ hc))

theorem closeIntents_effect {cs : List Closed} {orderId : Id} {u : Unit} (sound : db.books.Sound)
    (some : cs ≠ []) (closing : ∀ c ∈ cs, db.books.ClosingAt orderId c.intent.id)
    (h : Ran (closeIntents env orderId cs now) db u db') :
    Refines Closes (fun w => ∃ o, w = .jobless o .paid) db db' := by
  simp only [closeIntents, OrderRepository.find, ran_read_bind] at h
  split at h
  · simp only [ran_pure] at h
    exact h.2 ▸ .refl _
  · rw [ran_bind] at h
    obtain ⟨_, t, loop, h⟩ := h
    have refines := recordAll_effect sound closing loop
    obtain ⟨c, hc⟩ := List.exists_mem_of_ne_nil cs some
    obtain ⟨-, oe, -, -, ho, cancelled⟩ := closingAt_of_refines refines (closing c hc)
    simp only [ran_read_bind, ran_require_bind, PaymentRepository.openIntentsForOrder,
      updatePaymentStatus_eq] at h
    obtain ⟨order, found, h⟩ := h
    have key : order.id = orderId := Table.key_of_find? found
    rw [ran_onlyIf] at h
    rcases h with ⟨⟨none, waiting⟩, h⟩ | ⟨-, rfl⟩
    · simp only [ran_write] at h
      subst h
      cases (Db.books_order found).symm.trans ho
      refine refines.trans (.post (.closeProjection orderId)
        ⟨_, Db.books_order found, cancelled, waiting, fun q pe hq mine isOpen => ?_⟩
        (.inr (.inr ⟨_, rfl⟩)) t.projectOrder_books t.projectOrder_floor)
      obtain ⟨payment, row, rfl⟩ := (Table.view_eq_some _).mp hq
      have mem : payment ∈ t.payments.select (PaymentRepository.isOpenIntent orderId) fun a b =>
          a.createdAt < b.createdAt || (a.createdAt = b.createdAt && a.id ≤ b.id) := by
        refine Table.mem_select.mpr ⟨Table.mem_of_find? row, ?_⟩
        simp only [PaymentRepository.isOpenIntent, Bool.and_eq_true, decide_eq_true_eq]
        exact ⟨mine, isOpen⟩
      rw [List.isEmpty_iff.mp none] at mem
      simp at mem
    · exact refines

end PublicOrderService
end CoffeeCloud
