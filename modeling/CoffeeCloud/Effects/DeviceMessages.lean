import CoffeeCloud.Effects.Dispatch
import CoffeeCloud.Services.DeviceMessages

/-!
What the gateway and the device do to the floor: a command is claimed, published
or polled without its job noticing, and a device's report moves the three rows
of its task together or not at all. The books only see the reports.
-/
namespace CoffeeCloud
open Library Tx PublicOrderService ProductionService

variable {db db' : Db} {now : Time} {env : Env} {command : Command} {fresh : FreshRefund} {u : Unit}

/-- The work of a publication. -/
def Work.Publishes : Work → Prop
  | .claim _ | .publish _ | .retry _ => True
  | .handOver _ status => status = .published
  | _ => False

/-- The work of issuing a command on its own. -/
def Work.Issues : Work → Prop
  | .issue .. | .enclose .. => True
  | _ => False

/-- The work of a control command's result. -/
def Work.Answers : Work → Prop
  | .free .. => True
  | _ => False

/-- The work of polling one command. -/
def Work.Polls (c : Nat) : Work → Prop
  | .handOver c' status => c' = c ∧ status = .delivering
  | _ => False

namespace CommandRepository

theorem same_modifyCommand {k : Id} (f : Command → Command) {hf : ∀ c, (f c).id = c.id}
    (same : ∀ c, CommandEntry.of (f c) = CommandEntry.of c)
    (h : Ran (modifyCommand k f hf) db u db') : Same db db' := by
  simp only [modifyCommand, ran_write] at h
  subst h
  refine ⟨rfl, ?_⟩
  simp only [Db.floor]
  congr 1
  exact Table.view_modify_same CommandEntry.of hf fun c _ => same c

theorem setPublishedAt_same {k : Id} (h : Ran (setPublishedAt k now) db u db') : Same db db' :=
  same_modifyCommand (fun c => { c with publishedAt := c.publishedAt.or (some now) }) (fun _ => rfl) h

/-- A publication row as it is claimed, published or put back. -/
theorem modifyOutbox_effect {x : Id} {f : CommandOutbox → CommandOutbox}
    {hf : ∀ o, (f o).id = o.id} (g : Slip → Slip) (same : ∀ o, Slip.of (f o) = g (.of o))
    (h : Ran (modifyOutbox x f hf) db u db') : db'.books = db.books ∧ db'.commands = db.commands ∧
      db'.floor = { db.floor with slips := adjust db.floor.slips x g } := by
  simp only [modifyOutbox, ran_write] at h
  subst h
  refine ⟨rfl, rfl, ?_⟩
  simp only [Db.floor]
  congr 1
  exact Table.view_modify Slip.of g hf same

theorem claimCandidate_effect {gatewayId : String} {lease : Int} {x : Id}
    {row : Option CommandOutbox} {P : Posting → Prop}
    (h : Ran (claimCandidate gatewayId lease now x) db row db') :
    Refines P Work.Publishes db db' ∧ db'.commands = db.commands ∧
      ∀ o, row = some o → (∃ c, db.commands.find? o.commandId = some c ∧
        c.status ∈ deliverableCommandStates) ∧ db'.floor.Sent o.commandId := by
  simp only [claimCandidate, findOutbox, byDbId, ran_read_bind] at h
  split at h
  · simp only [ran_pure] at h
    obtain ⟨rfl, rfl⟩ := h
    exact ⟨.refl _, rfl, by simp⟩
  · rename_i o located
    simp only [ran_read_bind] at h
    split at h
    · simp only [ran_pure] at h
      obtain ⟨rfl, rfl⟩ := h
      exact ⟨.refl _, rfl, by simp⟩
    · rename_i c picked
      obtain ⟨found, due⟩ := Option.filter_eq_some_iff.mp picked
      have key : o.id = x := Table.key_of_find? located
      subst key
      rw [ran_ite] at h
      rcases h with ⟨-, h⟩ | ⟨-, h⟩
      · rw [ran_bind] at h
        obtain ⟨_, t, claimed, h⟩ := h
        have row' : t.commandOutbox.find? o.id = row ∧ t = db' := by
          simpa [outbox] using h
        obtain ⟨rfl, rfl⟩ := row'
        obtain ⟨books, commands, floor⟩ := modifyOutbox_effect
          (fun s => { s with status := .publishing, attempts := s.attempts + 1 }) (fun _ => rfl)
          claimed
        simp only [isDeliverable, Bool.and_eq_true, decide_eq_true_eq] at due
        refine ⟨.work (.claim o.id) (fun _ => ?_) trivial books floor, commands, fun o' h' => ?_⟩
        · exact ⟨.of o, .of c, Db.floor_slip located, Db.floor_command found, due.1⟩
        · have slip := Db.floor_slip h'
          have was : t.floor.slips o.id =
              some { Slip.of o with status := .publishing, attempts := o.attemptCount + 1 } := by
            rw [floor]
            simp [adjust_of_some (Db.floor_slip located)]
            rfl
          rw [slip, Option.some.injEq] at was
          have same : o'.commandId = o.commandId := congrArg Slip.command was
          have counted : o'.attemptCount = o.attemptCount + 1 := congrArg Slip.attempts was
          have found' : t.commands.find? o'.commandId = some c := by rw [commands, same, found]
          refine ⟨⟨c, same ▸ found, due.1⟩, _, Db.floor_command found', .inr ⟨_, _, slip, rfl, ?_⟩⟩
          simp [Slip.of, counted]
      · simp only [ran_pure] at h
        obtain ⟨rfl, rfl⟩ := h
        exact ⟨.refl _, rfl, by simp⟩

theorem claim_effect {gatewayId : String} {lease : Int} {picks : List Id}
    {rows : List CommandOutbox} {P : Posting → Prop}
    (h : Ran (claim gatewayId lease now picks) db rows db') :
    Refines P Work.Publishes db db' ∧ db'.commands = db.commands ∧
      (db.floor.Sound → db.floor.Filed → ∀ o ∈ rows, (∃ c, db.commands.find? o.commandId = some c ∧
        c.status ∈ deliverableCommandStates) ∧ db'.floor.Sent o.commandId) := by
  induction picks generalizing db rows with
  | nil =>
      simp only [claim, ran_pure] at h
      obtain ⟨rfl, rfl⟩ := h
      exact ⟨.refl _, rfl, by simp⟩
  | cons pick rest ih =>
      simp only [claim] at h
      rw [ran_bind] at h
      obtain ⟨row, t, first, h⟩ := h
      rw [ran_bind] at h
      obtain ⟨more, t', later, h⟩ := h
      obtain ⟨rfl, rfl⟩ := (ran_pure _ _ _ _).mp h
      obtain ⟨claimed, commands, handed⟩ := claimCandidate_effect (P := P) first
      obtain ⟨claimed', commands', handed'⟩ := ih later
      refine ⟨claimed.trans claimed', commands'.trans commands, fun S filed o mem => ?_⟩
      have S' := claimed.floorSound S
      have filed' := claimed.filed S filed
      rcases List.mem_append.mp mem with mine | others
      · obtain ⟨found, sent⟩ := handed o (Option.mem_toList.mp mine)
        exact ⟨found, claimed'.sent S' filed' sent⟩
      · rw [← commands]
        exact handed' S' filed' o others

end CommandRepository

/-- A strict transition of a command that still waits for its device. -/
theorem handOver_effect {target : CommandStatus} {actor : String} {r : Command × Bool}
    {P : Posting → Prop} (found : db.commands.find? command.id = some command)
    (waits : command.status ∈ [.created, .delivering]) (after : target ∈ [.delivering, .published])
    (h : Ran (transitionCommand command target actor true now) db r db') :
    Refines P (fun w => w = .handOver command.id target) db db' :=
  .work (.handOver command.id target) (fun _ => ⟨_, Db.floor_command found, waits, after⟩) rfl
    (transitionCommand_rest h).1 (transitionCommand_effect h (Db.floor_command found))

namespace CommandService

/-- The command of a confirmed publication was past waiting for one, or it moves on now. -/
theorem confirmPublished_effect {c : Id} (h : Ran (confirmPublished c now) db u db') :
    Same db db' ∧ (∀ e, db.floor.commands c = some e → e.status ≠ .created) ∨
      ∃ e, db.floor.commands c = some e ∧ e.status ∈ [.created, .delivering] ∧
        db'.books = db.books ∧
        db'.floor = Floor.apply (.handOver c .published) db.floor := by
  simp only [confirmPublished, CommandRepository.byDbId, ran_read_bind] at h
  split at h
  · rename_i missing
    simp only [ran_pure] at h
    obtain ⟨-, rfl⟩ := h
    refine .inl ⟨⟨rfl, rfl⟩, fun e he => ?_⟩
    obtain ⟨command, found, -⟩ := (Table.view_eq_some _).mp he
    cases missing.symm.trans found
  · rename_i command found
    have key : command.id = c := Table.key_of_find? found
    subst key
    rw [ran_bind] at h
    obtain ⟨_, t, moved, stamped⟩ := h
    have same := CommandRepository.setPublishedAt_same stamped
    rw [ran_onlyIf] at moved
    rcases moved with ⟨waits, moved⟩ | ⟨past, rfl⟩
    · simp only [ran_bind, ran_pure] at moved
      obtain ⟨r, t', transition, -, rfl⟩ := moved
      refine .inr ⟨_, Db.floor_command found, waits, ?_, ?_⟩
      · rw [same.books, (transitionCommand_rest transition).1]
      · rw [same.floor, transitionCommand_effect transition (Db.floor_command found)]
        rfl
    · refine .inl ⟨same, fun e he created => ?_⟩
      cases (Db.floor_command found).symm.trans he
      exact past (by simp [show command.status = .created from created])

/-- A confirmed publication moves the command first, then its row. -/
theorem published_effect {x : Id} {gatewayId : String} {reply : PublishReply} {P : Posting → Prop}
    (h : Ran (published x gatewayId now) db reply db') : Refines P Work.Publishes db db' := by
  simp only [published, CommandRepository.findOutbox, CommandRepository.byDbId,
    CommandRepository.outbox, ran_read_bind, ran_require_bind] at h
  obtain ⟨o, located, h⟩ := h
  obtain ⟨o', located', h⟩ := h
  cases located.symm.trans located'
  have key : o.id = x := Table.key_of_find? located
  subst key
  rw [ran_ite] at h
  rcases h with ⟨-, h⟩ | ⟨-, h⟩
  · simp only [ran_pure] at h
    exact h.2 ▸ .refl _
  · rw [ran_ite] at h
    rcases h with ⟨-, h⟩ | ⟨-, h⟩
    · split at h
      · simp only [ran_pure] at h
        exact h.2 ▸ .refl _
      · simp only [ran_bind, ran_pure] at h
        obtain ⟨_, t, stamped, -, rfl⟩ := h
        exact .of_same (CommandRepository.setPublishedAt_same stamped)
    · simp only [ran_ensure_bind] at h
      obtain ⟨-, h⟩ := h
      rw [ran_bind] at h
      obtain ⟨_, t, marked, h⟩ := h
      simp only [ran_bind, ran_pure] at h
      obtain ⟨_, t', confirmed, -, rfl⟩ := h
      obtain ⟨books, -, floor⟩ := CommandRepository.modifyOutbox_effect
        (fun s => { s with status := .published }) (fun _ => rfl) marked
      have slip : ∃ s, db.floor.slips o.id = some s ∧ s.command = o.commandId :=
        ⟨_, Db.floor_slip located, rfl⟩
      obtain ⟨s, hs, mine⟩ := slip
      rcases confirmPublished_effect confirmed with
        ⟨same, onward⟩ | ⟨e, there, waits, books', floor'⟩
      · refine .work (.publish o.id) (fun _ => ⟨s, hs, fun e he => ?_⟩) trivial
          (same.books.trans books) (same.floor.trans floor)
        rw [floor] at onward
        exact onward e (mine ▸ he)
      · rw [floor] at there floor'
        refine ⟨?_, fun _ => ?_⟩
        · rw [books', books]
          exact .refl _
        · have handed : Works Work.Publishes db.floor (.handOver o.commandId .published) :=
            ⟨⟨e, there, waits, by simp⟩, rfl⟩
          have marked : Works Work.Publishes
              (Floor.apply (.handOver o.commandId .published) db.floor) (.publish o.id) := by
            refine ⟨⟨s, hs, fun e he => ?_⟩, trivial⟩
            simp only [Floor.apply, mine] at he
            obtain ⟨e₀, -, rfl⟩ := adjust_some_iff.mp he
            simp
          rw [floor']
          exact (Machine.ReachableBy.single handed).trans (.single marked)

theorem retry_effect {x : Id} {gatewayId : String} {reply : PublishReply} {P : Posting → Prop}
    (h : Ran (retry x gatewayId now) db reply db') : Refines P Work.Publishes db db' := by
  simp only [retry, CommandRepository.findOutbox, ran_read_bind, ran_require_bind] at h
  obtain ⟨o, located, h⟩ := h
  have key : o.id = x := Table.key_of_find? located
  subst key
  rw [ran_ite] at h
  rcases h with ⟨-, h⟩ | ⟨open_, h⟩
  · simp only [ran_pure] at h
    exact h.2 ▸ .refl _
  · simp only [ran_ensure_bind] at h
    obtain ⟨-, h⟩ := h
    simp only [ran_bind, ran_pure] at h
    obtain ⟨_, t, marked, -, rfl⟩ := h
    obtain ⟨books, -, floor⟩ := CommandRepository.modifyOutbox_effect
      (fun s => { s with status := .retry }) (fun _ => rfl) marked
    exact .work (.retry o.id) (fun _ => ⟨_, Db.floor_slip located, open_⟩) trivial books floor

theorem insertCommand_effect {r : CreateRequest} {key : Option String} {actor : String}
    {fresh : FreshCommand} {P : Posting → Prop}
    (h : Ran (insertCommand r key actor fresh now) db u db') : Refines P Work.Issues db db' := by
  have ended : Ran (do
      insertCommand r key actor fresh now
      pure ()) db u db' := by
    simpa using h
  simp only [insertCommand, bind_assoc] at ended
  obtain ⟨t, done, issued⟩ := issued_effect ended
  obtain ⟨-, rfl⟩ := (ran_pure _ _ _ _).mp done
  obtain ⟨slips, enclosed, left⟩ := issued.floor
  refine ⟨by rw [issued.books]; exact .refl _, fun _ => ?_⟩
  rw [left]
  generalize ({
      id := fresh.commandId, terminalId := r.terminalId, messageId := fresh.messageId
      commandType := r.commandType, taskId := r.taskId, payloadDigest := fresh.payloadDigest
      idempotencyKey := key, expiresAt := r.expiresAt } : Command) = command at issued enclosed
  have work : Works Work.Issues db.floor (.issue command.id (.of command)) :=
    ⟨(Table.view_eq_none _).mpr issued.new, trivial⟩
  have step : Floor.machine.ReachableBy (Works Work.Issues) db.floor
      (Floor.apply (.issue command.id (.of command)) db.floor) := .single work
  refine Enclosed.reachable trivial enclosed ?_ ?_ step
  · rfl
  · exact ⟨_, put_same _ _ _⟩

theorem createRaw_effect {r : CreateRequest} {fresh : FreshCommand} {P : Posting → Prop}
    (h : Ran (createRaw r fresh now) db u db') : Refines P Work.Issues db db' :=
  insertCommand_effect h

theorem createAdmin_effect {r : CreateRequest} {key : String} {fresh : FreshCommand} {clock : Time}
    {duplicate : Bool} {P : Posting → Prop}
    (h : Ran (createAdmin r key fresh clock now) db duplicate db') :
    Refines P Work.Issues db db' := by
  simp only [createAdmin, OrderRepository.terminalForUpdate, CommandRepository.byIdempotency,
    ran_ensure_bind, ran_read_bind, ran_require_bind] at h
  obtain ⟨-, -, terminal, -, h⟩ := h
  split at h
  · simp only [ran_ensure_bind, ran_pure] at h
    exact h.2.2 ▸ .refl _
  · simp only [ran_bind, ran_pure] at h
    obtain ⟨_, t, inserted, -, rfl⟩ := h
    exact insertCommand_effect inserted

end CommandService

namespace DeviceMessageService

/-- What a poll hands out was waiting for it, and it is past CREATED afterwards. -/
theorem deliver_effect {row : Command} {polled : Polled} {P : Posting → Prop}
    (found : db.commands.find? row.id = some row) (h : Ran (deliver row now) db polled db') :
    Refines P (Work.Polls row.id) db db' ∧ ∀ command, polled = .handed command →
      command.id = row.id ∧ row.status ∈ [.created, .delivering, .published] ∧
        db'.floor.Sent row.id := by
  simp only [deliver] at h
  rw [ran_ite] at h
  rcases h with ⟨created, h⟩ | ⟨other, h⟩
  · obtain ⟨r, t, sub, h⟩ := (ran_bind _ _ _ _ _).mp h
    have moved := transitionCommand_effect sub (Db.floor_command found)
    have handed := (handOver_effect (P := P) found (by simp [created]) (by simp) sub).mono
      (Q := P) (V := Work.Polls row.id) (fun _ hx => hx) fun w hw => by
        rw [hw]
        exact ⟨rfl, rfl⟩
    rcases ran_transitionCommand sub with ⟨-, -, same | ⟨⟨⟩, -⟩⟩ | ⟨-, -, -, ⟨d, there, rfl⟩, -⟩
    · cases created.symm.trans same
    · simp only [pure_bind, ran_pure] at h
      obtain ⟨rfl, rfl⟩ := h
      refine ⟨handed, fun command eq => ?_⟩
      rw [if_pos (.inl rfl)] at eq
      cases eq
      refine ⟨Table.key_of_find? there, by simp [created],
        { CommandEntry.of row with status := .delivering }, ?_, .inl (by simp)⟩
      rw [moved]
      simp [adjust_apply, Db.floor_command found]
  · simp only [pure_bind, ran_pure] at h
    obtain ⟨rfl, rfl⟩ := h
    refine ⟨.refl _, fun command eq => ?_⟩
    split at eq
    · rename_i live
      cases eq
      exact ⟨rfl, by simpa [other] using live, _, Db.floor_command found, .inl other⟩
    · cases eq

/-- A candidate past its deadline is judged like any other; one in time is at most handed out. -/
theorem pollCandidate_cases {candidate : Command} {clock clock' : Time} {polled : Polled}
    {P : Posting → Prop}
    (h : Ran (pollCandidate env candidate clock clock' fresh now) db polled db') :
    (∃ verdict, polled = .judged verdict ∧ candidate.expiresAt.any (· ≤ clock) = true ∧
        Ran (expireOrderForCommand env candidate.id clock' fresh now) db verdict db') ∨
      candidate.expiresAt.any (· ≤ clock) = false ∧
        Refines P (Work.Polls candidate.id) db db' ∧
        ∀ command, polled = .handed command → command.id = candidate.id ∧
          (∃ row, db.commands.find? candidate.id = some row ∧
            row.status ∈ [.created, .delivering, .published]) ∧ db'.floor.Sent candidate.id := by
  simp only [pollCandidate] at h
  rw [ran_ite] at h
  rcases h with ⟨late, h⟩ | ⟨early, h⟩
  · simp only [ran_bind, ran_pure] at h
    obtain ⟨verdict, t, judged, rfl, rfl⟩ := h
    exact .inl ⟨verdict, rfl, late, judged⟩
  · have timely : candidate.expiresAt.any (· ≤ clock) = false := by simpa using early
    simp only [CommandRepository.byDbId, ran_read_bind] at h
    split at h
    · simp only [ran_pure] at h
      obtain ⟨rfl, rfl⟩ := h
      exact .inr ⟨timely, .refl _, by simp⟩
    · rename_i row there
      obtain ⟨found, -⟩ := Option.filter_eq_some_iff.mp there
      have key : row.id = candidate.id := Table.key_of_find? found
      rw [← key] at found ⊢
      obtain ⟨polls, handed⟩ := deliver_effect found h
      refine .inr ⟨timely, polls, fun command eq => ?_⟩
      obtain ⟨mine, live, sent⟩ := handed command eq
      exact ⟨mine, ⟨row, found, live⟩, sent⟩

theorem pollCandidate_effect {candidate : Command} {clock clock' : Time} {polled : Polled}
    (sound : db.books.Sound)
    (h : Ran (pollCandidate env candidate clock clock' fresh now) db polled db') :
    Refines (Expires db.floor.Sound)
      (fun w => w.Polls candidate.id ∨ w.Lapses candidate.id) db db' := by
  rcases pollCandidate_cases (P := Expires db.floor.Sound) h with
    ⟨verdict, -, -, judged⟩ | ⟨-, polls, -⟩
  · exact (expireOrderForCommand_effect sound judged).mono (fun _ hx => hx) fun _ => .inr
  · exact polls.mono (fun _ hx => hx) fun _ => .inl

end DeviceMessageService

/-- An order but for what a pickup slot says about it. -/
def Order.unslotted (o : Order) : Order := { o with pickupRequired := false, collectedAt := none }

/-- What an event leaves besides its report: the event itself, the watermark of an inventory, a
pickup slot with the mark on its order, a request to dispatch. -/
structure Aside (db db' : Db) : Prop where
  orders : db'.orders.view Order.unslotted = db.orders.view Order.unslotted
  jobs : db'.jobs = db.jobs
  commands : db'.commands = db.commands
  commandOutbox : db'.commandOutbox = db.commandOutbox
  payments : db'.payments = db.payments
  refunds : db'.refunds = db.refunds
  businessOutbox : db'.businessOutbox = db.businessOutbox
  terminals : db'.terminals = db.terminals
  adjudications : db'.adjudications = db.adjudications

namespace Aside

theorem refl (db : Db) : Aside db db := ⟨rfl, rfl, rfl, rfl, rfl, rfl, rfl, rfl, rfl⟩

theorem trans {db db' db'' : Db} (h : Aside db db') (k : Aside db' db'') : Aside db db'' :=
  ⟨k.orders.trans h.orders, k.jobs.trans h.jobs, k.commands.trans h.commands,
    k.commandOutbox.trans h.commandOutbox, k.payments.trans h.payments,
    k.refunds.trans h.refunds, k.businessOutbox.trans h.businessOutbox,
    k.terminals.trans h.terminals, k.adjudications.trans h.adjudications⟩

instance : IsPreorder Db Aside where
  refl := refl
  trans _ _ _ := trans

/-- What is not about pickup reads the same from the order. -/
theorem view_orders {β : Type} (h : Aside db db') (entry : Order → β)
    (blind : ∀ o, entry o.unslotted = entry o) : db'.orders.view entry = db.orders.view entry := by
  have through (t : Table Order) :
      t.view entry = fun k => (t.view Order.unslotted k).map entry := by
    funext k
    simp [Table.view, Option.map_map, Function.comp_def, blind]
  rw [through, through, h.orders]

theorem same (h : Aside db db') : Same db db' := by
  have entries := h.view_orders OrderEntry.of fun _ => rfl
  have places := h.view_orders OrderPlace.of fun _ => rfl
  constructor
  · simp only [Db.books, entries, h.payments, h.refunds, h.businessOutbox]
  · simp only [Db.floor, places, h.terminals, h.jobs, h.commands, h.commandOutbox, h.adjudications]

end Aside

namespace DeviceMessageService

theorem enqueue_aside (terminalId : Id) : Follows Aside (DispatchRepository.enqueue terminalId now) :=
  follows_write fun _ => ⟨rfl, rfl, rfl, rfl, rfl, rfl, rfl, rfl, rfl⟩

theorem pickup_aside (slot : PickupSlot) (collected : Bool) :
    Follows Aside (PickupRepository.apply slot collected now) := by
  refine follows_bind (follows_write fun t => ?_) fun _ =>
    follows_bind (follows_read id) fun t => ?_
  · split
    · exact .refl t
    · refine ⟨?_, rfl, rfl, rfl, rfl, rfl, rfl, rfl, rfl⟩
      exact Table.view_modify_same Order.unslotted (by intro; rfl) fun _ _ => rfl
  · split
    · exact follows_write fun _ => ⟨rfl, rfl, rfl, rfl, rfl, rfl, rfl, rfl, rfl⟩
    · split
      · exact follows_write fun _ => ⟨rfl, rfl, rfl, rfl, rfl, rfl, rfl, rfl, rfl⟩
      · exact follows_ensure _ _

theorem recordInventory_aside (terminalId : Id) (e : DeviceEvent) :
    Follows Aside (recordInventory terminalId e) := by
  unfold recordInventory
  split
  · split
    · exact follows_pure ()
    · exact follows_bind (follows_ensure _ _) fun _ =>
        follows_write fun _ => ⟨rfl, rfl, rfl, rfl, rfl, rfl, rfl, rfl, rfl⟩
    · exact follows_raise _
  · exact follows_pure ()

theorem recordSlot_aside (terminalId : Id) (e : DeviceEvent) :
    Follows Aside (recordSlot terminalId e now) := by
  refine follows_bind (follows_ensure _ _) fun _ => ?_
  split
  · refine follows_bind ?_ fun slot => ?_
    · cases readSlot terminalId ((e.payload.get? "pickupSlot").getD .null) with
      | ok => exact follows_pure _
      | error => exact follows_raise _
    · split
      · exact follows_pure ()
      · exact follows_bind (follows_ensure _ _) fun _ => follows_bind (pickup_aside _ _) fun _ =>
          follows_onlyIf fun _ => enqueue_aside terminalId
  · exact follows_pure ()

theorem insertEvent_aside (driver : Driver) (e : TerminalEvent) :
    Follows Aside (DeviceMessageRepository.insertEvent driver e) := by
  refine follows_bind (follows_ensure _ _) fun _ => follows_bind (follows_read _) fun found => ?_
  split
  · exact follows_pure _
  · exact follows_bind (follows_write fun _ => ⟨rfl, rfl, rfl, rfl, rfl, rfl, rfl, rfl, rfl⟩)
      fun _ => follows_pure _

/-- An event was dropped or seen before, or it is reconciled between things it leaves aside. -/
theorem event_cases {terminalId : Id} {e : DeviceEvent} {answer : EventAnswer}
    (h : Ran (event env terminalId e fresh now) db answer db') :
    db' = db ∨ e.eventType ≠ "task.progress" ∧
      db.terminalEvents.find? (terminalId, e.eventId) = none ∧
      ∃ t reply mid, Aside db t ∧
        Ran (reconcileDeviceEvent env terminalId e.body e.eventType fresh now) t reply mid ∧
        Aside mid db' := by
  simp only [event] at h
  rw [ran_ite] at h
  rcases h with ⟨-, h⟩ | ⟨kind, h⟩
  · simp only [ran_pure] at h
    exact .inl h.2.symm
  · simp only [DeviceMessageRepository.event, ran_read_bind] at h
    split at h
    · simp only [ran_ensure_bind, ran_pure] at h
      exact .inl h.2.2.symm
    · rename_i unseen
      rw [ran_bind] at h
      obtain ⟨inserted, t, insert, h⟩ := h
      rw [ran_bind] at h
      obtain ⟨reply, mid, reconciled, h⟩ := h
      rw [ran_bind] at h
      obtain ⟨_, t', inventory, h⟩ := h
      simp only [ran_bind, ran_pure] at h
      obtain ⟨_, t'', slot, -, rfl⟩ := h
      exact .inr ⟨kind, unseen, t, reply, mid, insertEvent_aside _ _ _ _ _ insert,
        ran_of_reconcile reconciled,
        (recordInventory_aside terminalId e _ _ _ inventory).trans
          (recordSlot_aside terminalId e _ _ _ slot)⟩

theorem event_effect {terminalId : Id} {e : DeviceEvent} {answer : EventAnswer}
    (sound : db.books.Sound) (h : Ran (event env terminalId e fresh now) db answer db') :
    Refines Reports (fun _ => True) db db' := by
  rcases event_cases h with rfl | ⟨-, -, t, reply, mid, before, reconciled, after⟩
  · exact .refl _
  · have sound' : t.books.Sound := before.same.books ▸ sound
    exact (Refines.of_same before.same).trans
      ((reconcileDeviceEvent_effect sound' reconciled).trans (.of_same after.same))

/-- Only control commands take a result, and no job is bound to one. -/
theorem commandResult_effect {terminalId : Id} {messageId status : String} {reply : CommandReply}
    {P : Posting → Prop} (h : Ran (commandResult terminalId messageId status now) db reply db') :
    Refines P Work.Answers db db' := by
  simp only [commandResult, DeviceMessageRepository.command, ran_read_bind, ran_require_bind,
    ran_ensure_bind] at h
  obtain ⟨command, located, control, h⟩ := h
  simp only [ran_bind, ran_pure] at h
  obtain ⟨r, t, transition, -, rfl⟩ := h
  have found : db.commands.find? command.id = some command :=
    Table.find?_of_mem (Table.first?_some located).1
  refine (transitionCommand_free transition found fun sound j e hj bound => ?_).mono
    (fun _ hx => hx) fun w hw => by rw [hw]; trivial
  obtain ⟨ce, hc, production, -⟩ := sound.bound j e command.id hj bound
  cases (Db.floor_command found).symm.trans hc
  exact control (by simpa [CommandEntry.of] using production)

end DeviceMessageService
end CoffeeCloud
