import CoffeeCloud.Effects.Production

/-!
What production does on its own: a dispatch binds a queued job to a new command,
a command past its deadline is refunded where it never left and held where it
may have, and a job the device no longer answers for is held.
-/
namespace CoffeeCloud
open Library Tx PublicOrderService

namespace ProductionService
variable {db db' : Db} {now : Time} {env : Env} {order : Order} {job : Job} {command : Command}
  {fresh : FreshRefund} {u : Unit}

/-- An order moves on where the table lets it. -/
theorem transitionOrder_posts {target : OrderStatus} {actor : String} {r : Order}
    (onward : target ∈ [OrderStatus.queued, .dispatched, .accepted, .making, .ready, .hold])
    (h : Ran (transitionOrder order target actor now) db r db')
    (found : db.orders.find? order.id = some order) :
    Books.machine.ReachableBy (Posts Reports) db.books db'.books := by
  rcases ran_transitionOrder h found with ⟨-, -, rfl⟩ | ⟨-, legal, _, _, -, rfl⟩
  · exact .refl _
  · rw [Db.moveOrder_books]
    exact .single (a := Posting.move order.id target)
      ⟨⟨_, Db.books_order found, legal, onward⟩, .inr ⟨_, _, rfl⟩⟩

/-- What an expiry may post. Only where the order is not in its place does it outlive its refund. -/
def Expires (placed : Prop) (x : Posting) : Prop :=
  Reports x ∨ ¬ placed ∧ ∃ o r, x = .request o r

theorem refundExpired_effect (owns : Owns db.books order)
    (h : Ran (refundExpired env order fresh now) db u db') :
    db'.floor = db.floor ∧ (order.paymentStatus ∉ refundablePaymentStatuses ∧ db' = db ∨
      ∃ r, Returns db.books db'.books order.id order.paidPaymentId
        s!"order:{order.id}:command-expired-refund" r) := by
  simp only [refundExpired] at h
  rw [ran_ite] at h
  rcases h with ⟨-, h⟩ | ⟨skip, h⟩
  · obtain ⟨floor, returns⟩ := returned_effect owns h
    exact ⟨floor, .inr returns⟩
  · simp only [ran_pure] at h
    exact ⟨h.2 ▸ rfl, .inl ⟨skip, h.2.symm⟩⟩

/-- The order of an expired command dies and its money goes back. -/
theorem expireOrder_effect {S : Prop} {r : Order} {t : Db} (sound : db.books.Sound)
    (found : db.orders.find? order.id = some order) (placed : S → order.status = .dispatched)
    (transition : Ran (transitionOrder order .expired "timeout-monitor" now) db r t)
    (h : Ran (refundExpired env order fresh now) t u db') :
    Books.machine.ReachableBy (Posts (Expires S)) db.books db'.books ∧
      (S → db'.floor = Floor.setOrder order.id .expired db.floor) := by
  have automatic : AutomaticKey s!"order:{order.id}:command-expired-refund" := ⟨order.id, by simp⟩
  rcases ran_transitionOrder transition found with
    ⟨stuck, -, rfl⟩ | ⟨-, legal, times, log, -, rfl⟩
  · have astray : ¬ S := fun s => by
      rw [placed s] at stuck
      exact absurd stuck (by decide)
    obtain ⟨-, ⟨-, rfl⟩ | ⟨r, returns⟩⟩ := refundExpired_effect (owns_of_sound sound found) h
    · exact ⟨.refl _, fun s => absurd s astray⟩
    · refine ⟨?_, fun s => absurd s astray⟩
      cases r with
      | none => exact returns.1 ▸ .refl _
      | some r =>
          obtain ⟨left, -, pe, fits, -⟩ := returns
          exact left ▸ .single (a := Posting.request order.id r)
            ⟨⟨pe, fits⟩, .inr ⟨astray, _, _, rfl⟩⟩
  · have owns : Owns (db.moveOrder order.id .expired times log).books order := by
      rw [Db.moveOrder_books]
      exact owns_of_sound sound found
    obtain ⟨floor, ⟨skip, rfl⟩ | ⟨r, returns⟩⟩ := refundExpired_effect owns h
    all_goals refine ⟨?_, fun _ => by rw [floor, Db.moveOrder_floor]⟩
    · rw [Db.moveOrder_books]
      exact .single (a := Posting.die order.id .expired none)
        ⟨⟨_, Db.books_order found, legal, by decide, .inr (.inl skip)⟩,
          .inl (.inl ⟨_, _, _, rfl, by simp⟩)⟩
    · rw [Db.moveOrder_books] at returns
      obtain ⟨ok, keys, posted⟩ := died sound found automatic legal (by decide) returns
      exact posted ▸ .single ⟨ok, .inl (.inl ⟨_, _, _, rfl, keys⟩)⟩

/-- What an expiry makes of a job: held where its command may have left, else expired. -/
def expiredJob (delivered : Bool) (e : JobEntry) : JobEntry :=
  if delivered then { e with status := .hold, review := true, version := e.version + 1 }
  else { e with status := .expired, version := e.version + 1 }

def expiredOrder (delivered : Bool) : OrderStatus := if delivered then .hold else .expired

/-- Order and job of a command past its deadline, the command itself still as it was. -/
theorem expireCoordinated_effect {S : Prop} {delivered : Bool} (sound : db.books.Sound)
    (found : db.orders.find? order.id = some order) (placed : S → order.status = .dispatched)
    (h : Ran (expireCoordinated env order job delivered fresh now) db u db') :
    Books.machine.ReachableBy (Posts (Expires S)) db.books db'.books ∧
      (S → db'.floor = Floor.setOrder order.id (expiredOrder delivered)
          { db.floor with jobs := adjust db.floor.jobs job.id (expiredJob delivered) }) := by
  cases delivered with
  | true =>
      simp only [expireCoordinated, if_true] at h
      rw [ran_bind] at h
      obtain ⟨_, t, hold, h⟩ := h
      simp only [ran_bind, ran_pure] at h
      obtain ⟨r, t', transition, -, rfl⟩ := h
      obtain ⟨books, floor, orders, -⟩ := modifyJob_effect (expiredJob true) hold fun _ => rfl
      rw [← orders] at found
      refine ⟨?_, fun s => ?_⟩
      · rw [← books]
        exact (transitionOrder_posts (by simp) transition found).mono fun _ _ hx => ⟨hx.1, .inl hx.2⟩
      · have legal : order.status = .hold ∨ .hold ∈ orderTransitions order.status := by
          rw [placed s]
          decide
        rw [(transitionOrder_effect transition found legal).2, floor]
        rfl
  | false =>
      simp only [expireCoordinated, Bool.false_eq_true, if_false] at h
      rw [ran_bind] at h
      obtain ⟨_, t, expire, h⟩ := h
      rw [ran_bind] at h
      obtain ⟨r, t', transition, h⟩ := h
      obtain ⟨books, floor, orders, -⟩ := modifyJob_effect (expiredJob false) expire fun _ => rfl
      rw [← orders] at found
      obtain ⟨posts, left⟩ := expireOrder_effect (books ▸ sound) found placed transition h
      refine ⟨books ▸ posts, fun s => ?_⟩
      rw [left s, floor]
      rfl

/-- The publication row of a command past its deadline is revoked where no claim ever took it. -/
theorem terminalizeUnclaimed_effect {c : Id} {P : Posting → Prop} {W : Work → Prop}
    (hW : ∀ x, W (.revoke x))
    (h : Ran (terminalizeUnclaimed (db.commandOutbox.first? fun o => o.commandId = c) now) db u db') :
    Refines P W db db' ∧ db'.orders = db.orders ∧ db'.jobs = db.jobs ∧
      db'.commands = db.commands ∧ db'.books = db.books := by
  simp only [terminalizeUnclaimed] at h
  split at h
  · simp only [ran_pure] at h
    obtain ⟨-, rfl⟩ := h
    exact ⟨.refl _, rfl, rfl, rfl, rfl⟩
  · rename_i o unclaimed
    obtain ⟨located, unclaimed⟩ := Option.filter_eq_some_iff.mp unclaimed
    have row : db.commandOutbox.find? o.id = some o :=
      Table.find?_of_mem (Table.first?_some located).1
    simp only [Bool.and_eq_true, decide_eq_true_eq] at unclaimed
    simp only [CommandRepository.terminalizeOutbox, CommandRepository.modifyOutbox, ran_write] at h
    subst h
    refine ⟨.work (.revoke o.id) (fun _ => ?_) (hW o.id) rfl ?_, rfl, rfl, rfl, rfl⟩
    · exact ⟨_, Db.floor_slip row, unclaimed.1⟩
    · simp only [Db.floor, Floor.apply]
      congr 1
      exact Table.view_modify Slip.of _ _ fun _ => rfl

/-- The job of a command and its order, as both were read. -/
theorem coordinated_effect {c : Id} {rows : Option (Order × Job)}
    (h : Ran (coordinated c) db rows db') : db' = db ∧
      (∀ order job, rows = some (order, job) →
        db.jobs.find? job.id = some job ∧ job.commandId = some c ∧
          db.orders.find? order.id = some order ∧ job.orderId = order.id) ∧
      (rows = none → db.floor.Sound → db.floor.Free c) := by
  simp only [coordinated, OrderRepository.jobForCommand, OrderRepository.findWithTerminal,
    ran_read_bind] at h
  cases located : db.jobs.first? fun j => j.commandId = some c with
  | none =>
      simp only [located, ran_pure] at h
      obtain ⟨rfl, rfl⟩ := h
      refine ⟨rfl, by simp, fun _ _ k e hk bound => ?_⟩
      obtain ⟨j, found, rfl⟩ := (Table.view_eq_some _).mp hk
      have other := Table.first?_none.mp located j (Table.mem_of_find? found)
      have bound : j.commandId = some c := bound
      simp [bound] at other
  | some job =>
      simp only [located, ran_read_bind, ran_pure] at h
      obtain ⟨rfl, rfl⟩ := h
      obtain ⟨mem, bound⟩ := Table.first?_some located
      have row : db.jobs.find? job.id = some job := Table.find?_of_mem mem
      refine ⟨rfl, fun order job' both => ?_, fun missing sound => ?_⟩
      · simp only [Option.map_some, Option.bind_eq_some_iff, Option.some.injEq, Prod.mk.injEq] at both
        obtain ⟨order', found, rfl, rfl⟩ := both
        obtain ⟨found, -⟩ := Option.filter_eq_some_iff.mp found
        have mine : order'.id = job.orderId := Table.key_of_find? found
        exact ⟨row, by simpa using bound, mine ▸ found, mine.symm⟩
      · obtain ⟨s, ⟨oe, ho, -⟩, -⟩ := sound.coordinated _ _ (Db.floor_job row)
        obtain ⟨order, found, rfl⟩ := (Table.view_eq_some _).mp ho
        have hosted : (db.terminals.find? order.terminalId).isSome = true := sound.hosted _ _ ho
        have found : db.orders.find? job.orderId = some order := found
        simp only [found, Option.filter, hosted, if_true, Option.bind_some, Option.map_some,
          reduceCtorEq] at missing

/-- A command past its deadline takes its order with it where it cannot have left, and leaves both
to a manual review where it may have. -/
theorem expireOrderForCommand_effect {c : Id} {clock : Time} {x : Option CommandStatus}
    (sound : db.books.Sound)
    (h : Ran (expireOrderForCommand env c clock fresh now) db x db') :
    Refines (Expires db.floor.Sound) (Work.Lapses c) db db' := by
  simp only [expireOrderForCommand] at h
  rw [ran_bind] at h
  obtain ⟨rows, t, located, h⟩ := h
  obtain ⟨rfl, both, neither⟩ := coordinated_effect located
  simp only [CommandRepository.byDbId, CommandRepository.outboxForCommand, ran_read_bind] at h
  split at h
  · simp only [ran_pure] at h
    exact h.2 ▸ .refl _
  · rename_i current picked
    obtain ⟨found, due⟩ := Option.filter_eq_some_iff.mp picked
    have key : current.id = c := Table.key_of_find? found
    subst key
    simp only [ran_read_bind] at h
    rw [ran_bind] at h
    obtain ⟨_, t₁, terminalize, h⟩ := h
    simp only [Bool.and_eq_true, decide_eq_true_eq] at due
    obtain ⟨revoked, orders, jobs, commands, books⟩ :=
      terminalizeUnclaimed_effect (P := Expires t.floor.Sound) (W := Work.Lapses current.id)
        (fun _ => trivial) terminalize
    have found₁ : t₁.commands.find? current.id = some current := commands ▸ found
    generalize deliveredEvidence current _ = delivered at h
    split at h
    · rename_i none
      simp only [ran_bind, ran_pure] at h
      obtain ⟨r, t₂, transition, -, rfl⟩ := h
      refine ⟨?_, fun S => (revoked.floor S).trans ?_⟩
      · rw [(transitionCommand_rest transition).1, books]
        exact .refl _
      · have free : t.floor.Free current.id := by
          cases rows with
          | none => exact neither rfl S
          | some row =>
              obtain ⟨foundJob, bound, -⟩ := both row.1 row.2 rfl
              have placed := S.dispatched_of_created (Db.floor_job foundJob) bound
                (Db.floor_command found) due.1
              have placed : row.2.status = .dispatched := placed.2
              simp [placed] at none
        have free : t₁.floor.Free current.id := by
          simpa only [Floor.Free, Db.floor, jobs] using free
        have freed := transitionCommand_free (P := Reports) transition found₁ fun _ => free
        refine (freed.floor (revoked.floorSound S)).mono fun _ w hw => ⟨hw.1, ?_⟩
        rw [hw.2]
        rfl
    · rename_i order job some
      obtain ⟨rfl, -⟩ := Option.filter_eq_some_iff.mp some
      obtain ⟨foundJob, bound, foundOrder, mine⟩ := both order job rfl
      rw [ran_bind] at h
      obtain ⟨_, t₂, expire, h⟩ := h
      simp only [ran_bind, ran_pure] at h
      obtain ⟨r, t₃, transition, -, rfl⟩ := h
      have placed (S : t.floor.Sound) : order.status = .dispatched ∧ job.status = .dispatched := by
        obtain ⟨stands, dispatched⟩ := S.dispatched_of_created (Db.floor_job foundJob) bound
          (Db.floor_command found) due.1
        have stands : t.floor.At order.id .dispatched := mine ▸ stands
        rw [Floor.at_of_some (Db.floor_order foundOrder)] at stands
        exact ⟨stands, dispatched⟩
      obtain ⟨posts, left⟩ := expireCoordinated_effect (books ▸ sound) (orders ▸ foundOrder)
        (fun S => (placed S).1) expire
      refine ⟨?_, fun S => (revoked.floor S).trans ?_⟩
      · rw [(transitionCommand_rest transition).1, ← books]
        exact posts
      · have moved := transitionCommand_effect transition (by
          rw [left S]
          exact Db.floor_command found₁)
        have rows₁ : Rows t₁ order job current :=
          ⟨orders ▸ foundOrder, jobs ▸ foundJob, found₁, mine, bound⟩
        have unheld : job.manualReviewRequired = false := by
          by_contra asked
          have := (S.neat _ _ (Db.floor_job foundJob)).review.mp (by simpa [JobEntry.of] using asked)
          simp [JobEntry.of, (placed S).2] at this
        have live : job.status ∉ finalJobs := by
          rw [(placed S).2]
          decide
        rw [moved, left S]
        cases delivered with
        | true =>
            exact coordinated_step rows₁ (g := expiredJob true) (s := .hold) (t := .hold) rfl rfl
              (.inl rfl) (.inr (by rw [(placed S).1]; decide)) live (Int.lt_succ _) (by decide)
              ⟨rfl, by decide⟩
        | false =>
            exact coordinated_step rows₁ (g := expiredJob false) (s := .expired) (t := .expired)
              (by simp [expiredJob, JobEntry.of, unheld]) rfl (.inr (by decide))
              (.inr (by rw [(placed S).1]; decide)) live (Int.lt_succ _) (by decide)
              ⟨rfl, by decide⟩

/-- A command's publication row comes with it, unless it has one. -/
def Enclosed (x c : Id) (slips slips' : Nat → Option Slip) : Prop :=
  slips' = slips ∨ (slips x = none ∧ ∀ y s, slips y = some s → s.command ≠ c) ∧
    slips' = put slips x ⟨c, .pending, 0⟩

theorem Enclosed.reachable {f f' : Floor} {x c : Id} {slips : Nat → Option Slip}
    {W : Work → Prop} (hW : W (.enclose x c)) (h : Enclosed x c f.slips slips) (same : f'.slips = f.slips)
    (filed : ∃ e, f'.commands c = some e)
    (step : Floor.machine.ReachableBy (Works W) f f') :
    Floor.machine.ReachableBy (Works W) f { f' with slips } := by
  rcases h with rfl | ⟨new, rfl⟩
  · rw [← same]
    exact step
  · have work : Works W f' (.enclose x c) := by
      rw [← same] at new
      exact ⟨⟨new.1, filed, new.2⟩, hW⟩
    rw [← same]
    exact step.trans (.single work)

theorem insertOutbox_effect {x c terminalId : Id}
    (h : Ran (CommandRepository.insertOutbox x c terminalId now) db u db') :
    ∃ t, db' = { db with commandOutbox := t } ∧
      Enclosed x c db.floor.slips (t.view Slip.of) := by
  simp only [CommandRepository.insertOutbox, ran_read_bind, ran_ensure_bind, id_eq,
    Option.isNone_iff_eq_none] at h
  obtain ⟨new, h⟩ := h
  rw [ran_onlyIf] at h
  rcases h with ⟨alone, h⟩ | ⟨-, rfl⟩
  · simp only [ran_write] at h
    subst h
    refine ⟨_, rfl, .inr ⟨⟨(Table.view_eq_none _).mpr new, fun y s hs mine => ?_⟩, ?_⟩⟩
    · obtain ⟨o, found, rfl⟩ := (Table.view_eq_some _).mp hs
      have other := Table.first?_none.mp (Option.isNone_iff_eq_none.mp alone) o (Table.mem_of_find? found)
      have mine : o.commandId = c := mine
      simp [mine] at other
    · exact Table.view_insert (r := { id := x, commandId := c, terminalId, nextAttemptAt := now })
        Slip.of new
  · exact ⟨_, rfl, .inl rfl⟩

/-- A new command and its publication row, as the floor sees them; the books do not. -/
structure Issued (db db' : Db) (command : Command) (x : Id) : Prop where
  new : db.commands.find? command.id = none
  books : db'.books = db.books
  orders : db'.orders = db.orders
  jobs : db'.jobs = db.jobs
  terminals : db'.terminals = db.terminals
  floor : ∃ slips, Enclosed x command.id db.floor.slips slips ∧ db'.floor =
    { db.floor with commands := put db.floor.commands command.id (.of command), slips }

theorem issued_effect {α : Type} {a : α} {x terminalId : Id} {actor : String} {k : Sql α}
    (h : Ran (do
      CommandRepository.insert command
      CommandRepository.insertInitialTransition command.id actor
      CommandRepository.insertOutbox x command.id terminalId now
      k) db a db') :
    ∃ t, Ran k t a db' ∧ Issued db t command x := by
  simp only [CommandRepository.insert, CommandRepository.insertInitialTransition, bind_assoc,
    ran_read_bind, ran_ensure_bind, ran_write_bind, id_eq, Option.isNone_iff_eq_none] at h
  obtain ⟨new, -, -, h⟩ := h
  rw [ran_bind] at h
  obtain ⟨_, t, outbox, h⟩ := h
  obtain ⟨rows, rfl, enclosed⟩ := insertOutbox_effect outbox
  refine ⟨_, h, new, rfl, rfl, rfl, rfl, _, enclosed, ?_⟩
  simp only [Db.floor]
  rw [Table.view_insert CommandEntry.of new]
  rfl

/-- A queued job goes to the device: its command, its link and its order's move. -/
theorem dispatchJob_effect {terminalId : Id} {fresh : FreshCommand}
    (ordered : db.orders.find? job.orderId = some order) (waits : order.status = .queued)
    (queued : db.jobs.find? job.id = some job) (idle : job.status = .queued)
    (here : job.terminalId = terminalId)
    (h : Ran (dispatchJob job terminalId fresh now) db u db') :
    Refines Reports Work.Dispatches db db' := by
  have key : order.id = job.orderId := Table.key_of_find? ordered
  simp only [dispatchJob] at h
  obtain ⟨t, h, issued⟩ := issued_effect h
  simp only [OrderRepository.linkCommand, bind_assoc, ran_read_bind, ran_ensure_bind, id_eq] at h
  obtain ⟨-, -, h⟩ := h
  rw [ran_bind] at h
  obtain ⟨_, t₁, link, h⟩ := h
  have terminals : t₁.terminals = t.terminals := by
    simp only [OrderRepository.modifyJob, ran_write] at link
    rw [← link]
  obtain ⟨books, floor, orders, -⟩ := modifyJob_effect
    (fun e => { e with
      status := .dispatched, command := some fresh.commandId, version := e.version + 1 })
    link fun _ => rfl
  simp only [OrderRepository.findWithTerminal, ran_read_bind] at h
  rw [orders, issued.orders, terminals, issued.terminals, ordered] at h
  split at h
  · rename_i missing
    simp only [ran_pure] at h
    obtain ⟨-, rfl⟩ := h
    refine ⟨by rw [books, issued.books]; exact .refl _, fun S => ?_⟩
    have hosted : (db.terminals.find? order.terminalId).isSome = true :=
      S.hosted _ _ (Db.floor_order ordered)
    simp [Option.filter, hosted] at missing
  · rename_i order' found
    cases (Option.filter_eq_some_iff.mp found).1
    simp only [ran_bind, ran_pure] at h
    obtain ⟨r, t₂, transition, -, rfl⟩ := h
    have found₁ : t₁.orders.find? order.id = some order := by rw [orders, issued.orders, key, ordered]
    have legal : order.status = .dispatched ∨ .dispatched ∈ orderTransitions order.status := by
      rw [waits]
      decide
    refine ⟨?_, fun _ => ?_⟩
    · rw [← issued.books, ← books]
      exact transitionOrder_posts (by simp) transition found₁
    · obtain ⟨slips, enclosed, left⟩ := issued.floor
      rw [(transitionOrder_effect transition found₁ legal).2, floor, left, key]
      have work : Works Work.Dispatches db.floor
          (.dispatch job.orderId job.id fresh.commandId terminalId) :=
        ⟨⟨⟨_, Db.floor_order ordered, waits⟩, (Table.view_eq_none _).mpr issued.new, _,
          Db.floor_job queued, rfl, idle, here⟩, trivial⟩
      have step : Floor.machine.ReachableBy (Works Work.Dispatches) db.floor
          (Floor.apply (.dispatch job.orderId job.id fresh.commandId terminalId) db.floor) :=
        .single work
      have posted := Enclosed.reachable trivial enclosed
        (rfl : (Floor.apply (.dispatch job.orderId job.id fresh.commandId terminalId) db.floor).slips = _)
        ⟨_, put_same _ _ _⟩ step
      have entry : (db.floor.jobs job.id).map (·.task) = some job.taskId := by
        rw [Db.floor_job queued]
        rfl
      simpa only [Floor.apply, Floor.setOrder, entry, CommandEntry.of, decide_true] using posted

theorem dispatchNextOrderResult_effect {terminalId : Id} {fresh : FreshCommand}
    {reason : DispatchReason}
    (h : Ran (dispatchNextOrderResult env terminalId fresh now) db reason db') :
    Refines Reports Work.Dispatches db db' := by
  simp only [dispatchNextOrderResult, OrderRepository.terminalForUpdate,
    OrderRepository.activeJobExists, PickupRepository.blocked, OrderRepository.nextQueuedJob,
    OrderRepository.findWithTerminal, OrderRepository.lockJob, ran_read_bind] at h
  split at h
  · simp only [ran_pure] at h
    exact h.2 ▸ .refl _
  · simp only [ran_ite, ran_read_bind, ran_pure] at h
    rcases h with ⟨-, -, rfl⟩ | ⟨-, ⟨-, -, rfl⟩ | ⟨-, ⟨-, -, rfl⟩ | ⟨-, ⟨-, -, rfl⟩ |
      ⟨-, ⟨-, -, rfl⟩ | ⟨-, h⟩⟩⟩⟩⟩
    · exact .refl _
    · exact .refl _
    · exact .refl _
    · exact .refl _
    · exact .refl _
    · split at h
      · simp only [ran_pure] at h
        exact h.2 ▸ .refl _
      · rename_i job next
        obtain ⟨mem, picked⟩ := Table.head?_select_some next
        simp only [Bool.and_eq_true, decide_eq_true_eq] at picked
        simp only [ran_read_bind] at h
        rw [ran_ite] at h
        rcases h with ⟨⟨waits, -⟩, h⟩ | ⟨-, h⟩
        · simp only [ran_bind, ran_pure] at h
          obtain ⟨_, t, dispatched, -, rfl⟩ := h
          obtain ⟨order, found, waits⟩ := (Option.any_eq_true _ _).mp waits
          obtain ⟨found, -⟩ := Option.filter_eq_some_iff.mp found
          exact dispatchJob_effect found (by simpa using waits) (Table.find?_of_mem mem)
            picked.1.2 picked.1.1 dispatched
        · simp only [ran_pure] at h
          exact h.2 ▸ .refl _

/-- A job between its dispatch and its end belongs to an order that may be held. -/
theorem holdable {s : OrderStatus} {j : JobStatus} {c : Option CommandStatus}
    (running : j ∈ [.dispatched, .accepted, .executing, .paused, .retryWait])
    (together : Coordinated s (some (j, c)) = true) : .hold ∈ orderTransitions s := by
  simp only [List.mem_cons, List.not_mem_nil, or_false] at running
  revert together
  rcases running with rfl | rfl | rfl | rfl | rfl <;> rcases c with _ | c <;>
    cases s <;> first | decide | cases c <;> decide

theorem hold_effect (rows : Rows db order job command)
    (running : job.status ∈ [.dispatched, .accepted, .executing, .paused, .retryWait])
    (h : Ran (do
      let _ ← transitionCommand command .unknown "watchdog" true now
      OrderRepository.updateJobHold job.id "DEVICE_OUTCOME_UNKNOWN" now
      let _ ← transitionOrder order .hold "watchdog" now) db u db') :
    Refines Reports (Work.Holds job.id) db db' := by
  rw [ran_bind] at h
  obtain ⟨r, t₁, transition, h⟩ := h
  rw [ran_bind] at h
  obtain ⟨_, t₂, hold, h⟩ := h
  simp only [ran_bind, ran_pure] at h
  obtain ⟨r', t₃, moved, -, rfl⟩ := h
  have floor₁ := transitionCommand_effect transition (Db.floor_command rows.issued)
  obtain ⟨books₁, orders₁, jobs₁⟩ := transitionCommand_rest transition
  obtain ⟨books₂, floor₂, orders₂, -⟩ := modifyJob_effect (expiredJob true) hold fun _ => rfl
  have found₂ : t₂.orders.find? order.id = some order := by rw [orders₂, orders₁, rows.ordered]
  refine ⟨?_, fun S => ?_⟩
  · rw [← books₁, ← books₂]
    exact transitionOrder_posts (by simp) moved found₂
  · obtain ⟨s, stands, together⟩ := S.coordinated _ _ (Db.floor_job rows.queued)
    have stands : db.floor.At order.id s := rows.mine ▸ stands
    rw [Floor.at_of_some (Db.floor_order rows.ordered)] at stands
    have legal : order.status = .hold ∨ .hold ∈ orderTransitions order.status :=
      .inr (holdable running (stands ▸ together))
    have working : job.status ∉ finalJobs := by
      revert running
      cases job.status <;> decide
    rw [(transitionOrder_effect moved found₂ legal).2, floor₂, floor₁]
    exact coordinated_step rows (g := expiredJob true) (s := .hold) (t := .hold) rfl rfl (.inl rfl) legal
      working (Int.lt_succ _) (by decide) ⟨rfl, rfl⟩

/-- A job the device no longer answers for is held, with its order and its command. -/
theorem holdOverdueJob_effect {orderId jobId : Id} {clock : Time}
    (mine : ∀ job, db.jobs.find? jobId = some job → job.orderId = orderId)
    (h : Ran (holdOverdueJob env orderId jobId clock now) db u db') :
    Refines Reports (Work.Holds jobId) db db' := by
  simp only [holdOverdueJob, OrderRepository.findWithTerminal, OrderRepository.lockJob,
    ran_read_bind] at h
  split at h
  · rename_i order job foundOrder foundJob
    obtain ⟨foundOrder, -⟩ := Option.filter_eq_some_iff.mp foundOrder
    have orderKey : order.id = orderId := Table.key_of_find? foundOrder
    have jobKey : job.id = jobId := Table.key_of_find? foundJob
    subst orderKey jobKey
    rw [ran_ite] at h
    rcases h with ⟨⟨-, running⟩, h⟩ | ⟨-, h⟩
    · cases bound : job.commandId with
      | none =>
          simp only [bound, pure_bind, Option.filter_none, ran_pure] at h
          exact h.2 ▸ .refl _
      | some c =>
          simp only [bound, CommandRepository.byDbId, ran_read_bind] at h
          split at h
          · simp only [ran_pure] at h
            exact h.2 ▸ .refl _
          · rename_i command live
            obtain ⟨found, -⟩ := Option.filter_eq_some_iff.mp live
            have key : command.id = c := Table.key_of_find? found
            subst key
            rw [ran_bind] at h
            obtain ⟨due, t, judged, h⟩ := h
            obtain ⟨-, rfl⟩ := ran_lift.mp judged
            rw [ran_onlyIf] at h
            rcases h with ⟨-, h⟩ | ⟨-, rfl⟩
            · exact hold_effect ⟨foundOrder, foundJob, found, mine job foundJob, bound⟩ running h
            · exact .refl _
    · simp only [ran_pure] at h
      exact h.2 ▸ .refl _
  · simp only [ran_pure] at h
    exact h.2 ▸ .refl _

end ProductionService
end CoffeeCloud
