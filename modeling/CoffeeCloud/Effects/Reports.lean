import CoffeeCloud.Library.Machine
import CoffeeCloud.Effects.Production

/-!
What a report of a device comes to: the rows it is about, whether they accept it,
and that it touches nothing else.
-/
namespace CoffeeCloud
open Library Tx

namespace ProductionService
variable {db db' : Db} {now : Time} {env : Env} {order : Order} {job : Job} {command : Command}
  {fresh : FreshRefund} {terminalId : Id} {body : Json} {eventType : String} {kind : EventKind}
  {input : EventInput} {reply : EventReply}

/-- The event speaks of a task, its fields hold, and it is no recovery short of a pause. -/
structure Reads (body : Json) (eventType : String) (kind : EventKind) (input : EventInput) :
    Prop where
  lasting : eventType ≠ "task.progress"
  typed : eventKind? eventType = some kind
  valid : readEvent body = .ok input
  paused : ¬ (eventType = "task.recovered" ∧ textField? input.payload "state" ≠ some "PAUSED")

/-- The rows the event is about, as it finds them. -/
structure Concerns (db : Db) (terminalId : Id) (input : EventInput) (order : Order) (job : Job)
    (command : Command) : Prop where
  located : taskJob db terminalId input.taskId = some job
  hosted : (db.terminals.find? order.terminalId).isSome
  rows : Rows db order job command
  production : (command.commandType = "MAKE_DRINK" && command.terminalId = terminalId &&
    command.taskId = some input.taskId) = true
  associated : (textField? input.payload "messageId").all (· = command.messageId) ∧
    (textField? input.payload "orderId").all (· = toString order.id)

theorem taskJob_some {taskId : String} (h : taskJob db terminalId taskId = some job) :
    db.jobs.find? job.id = some job ∧ job.terminalId = terminalId ∧ job.taskId = taskId := by
  obtain ⟨mem, mine⟩ := Table.first?_some h
  exact ⟨Table.find?_of_mem mem, by simpa using mine⟩

/-- An event is judged against the rows it is about. -/
theorem reconcile_concerned (reads : Reads body eventType kind input)
    (concerns : Concerns db terminalId input order job command) :
    reconcileDeviceEvent env terminalId body eventType fresh now db =
      judgeEvent env terminalId kind input order job command fresh now db := by
  have ordered : (db.orders.find? job.orderId).filter
      (fun o => (db.terminals.find? o.terminalId).isSome) = some order := by
    rw [concerns.rows.mine, concerns.rows.ordered]
    simp [concerns.hosted]
  have issued : (db.commands.find? command.id).filter (fun c => c.commandType = "MAKE_DRINK" &&
      c.terminalId = terminalId && c.taskId = some input.taskId) = some command := by
    rw [concerns.rows.issued]
    simpa using concerns.production
  simp only [reconcileDeviceEvent, if_neg reads.lasting, reads.typed, reads.valid, lift, pure_bind,
    if_neg reads.paused, OrderRepository.jobForTask, apply_read_bind]
  rw [show db.jobs.first? (fun j => j.terminalId = terminalId ∧ j.taskId = input.taskId) = some job
    from concerns.located]
  simp only [reconcileLocated, OrderRepository.findWithTerminal, OrderRepository.lockJob,
    apply_read_bind, ordered, concerns.rows.queued, concerns.rows.bound, boundCommand,
    CommandRepository.byDbId, bind_assoc, apply_require_bind issued,
    apply_ensure_bind concerns.associated]

/-- The command of a task no job has. -/
structure Alone (db : Db) (terminalId : Id) (input : EventInput) (command : Command) : Prop where
  jobless : taskJob db terminalId input.taskId = none
  issued : db.commands.find? command.id = some command
  here : command.terminalId = terminalId
  task : command.taskId = some input.taskId

/-- The event finds nothing to do: what it is about is missing, was done, or does not accept it. -/
inductive Idle (db : Db) (terminalId : Id) (body : Json) (eventType : String) : Prop where
  | ephemeral (progress : eventType = "task.progress")
  | foreign (untyped : eventKind? eventType = none)
  | unpaused {kind : EventKind} {input : EventInput} (typed : eventKind? eventType = some kind)
      (valid : readEvent body = .ok input) (recovered : eventType = "task.recovered")
      (running : textField? input.payload "state" ≠ some "PAUSED")
  | jobless {kind : EventKind} {input : EventInput} (reads : Reads body eventType kind input)
      (unowned : taskJob db terminalId input.taskId = none)
      (rests : ∀ event command, kind = .task event →
        taskCommand db terminalId input.taskId = some command →
        (textField? input.payload "messageId").all (· = command.messageId) ∧ Rests event command)
  | undispatched {kind : EventKind} {input : EventInput} {job : Job}
      (reads : Reads body eventType kind input)
      (located : taskJob db terminalId input.taskId = some job)
      (unlinked : (db.orders.find? job.orderId).filter
          (fun o => (db.terminals.find? o.terminalId).isSome) = none ∨ job.commandId = none)
  | refused {kind : EventKind} {input : EventInput} {order : Order} {job : Job} {command : Command}
      (reads : Reads body eventType kind input)
      (concerns : Concerns db terminalId input order job command)
      (refuses : ¬ Accepts kind input order job command)

/-- An event of a task no job has: its command rests, or it moves. -/
theorem reconcileStandalone_cases {Q : Prop} (reads : Reads body eventType kind input)
    (unowned : taskJob db terminalId input.taskId = none)
    (h : Ran (reconcileStandalone terminalId input kind now) db reply db') :
    (Idle db terminalId body eventType ∧ db' = db) ∨ Q ∨
    ∃ event input command r, Reads body eventType (.task event) input ∧
      Alone db terminalId input command ∧ ¬ Rests event command ∧
      Ran (transitionCommand command event.commandTarget "device-event" false now) db r db' := by
  simp only [reconcileStandalone, CommandRepository.byTask, ran_read_bind] at h
  split at h
  · rename_i command event found
    obtain ⟨mem, mine⟩ := Table.head?_select_some found
    simp only [Bool.and_eq_true, decide_eq_true_eq] at mine
    simp only [ran_ensure_bind] at h
    obtain ⟨associated, h⟩ := h
    have idle (rests : Rests event command) : Idle db terminalId body eventType := by
      refine .jobless reads unowned fun event' command' same found' => ?_
      cases same
      cases (show some command = some command' from found.symm.trans found')
      exact ⟨associated, rests⟩
    rw [ran_ite] at h
    rcases h with ⟨held, h⟩ | ⟨free, h⟩
    · exact .inl ⟨idle (.inl held), ((ran_pure _ _ _ _).mp h).2.symm⟩
    · rw [ran_bind] at h
      obtain ⟨r, t, transition, h⟩ := h
      obtain ⟨-, left⟩ := (ran_pure _ _ _ _).mp h
      rw [left] at transition
      rcases ran_transitionCommand transition with ⟨-, same, why⟩ | ⟨moves, live, legal, -⟩
      · exact .inl ⟨idle (.inr (why.imp_right And.right)), same⟩
      · refine .inr (.inr ⟨event, input, command, r, reads,
          ⟨unowned, Table.find?_of_mem mem, mine.1.1, mine.1.2⟩, ?_, transition⟩)
        rintro (held | same | refused)
        · exact free held
        · exact moves same
        · simp [decideTransition, moves, live, legal] at refused
  · rename_i other
    refine .inl ⟨.jobless reads unowned fun event command same found => ?_,
      ((ran_pure _ _ _ _).mp h).2.symm⟩
    subst same
    exact (other command event found rfl).elim

/-- An event of a job: its rows are judged, or it has none yet. -/
theorem reconcileLocated_cases {located : Job} (reads : Reads body eventType kind input)
    (found : taskJob db terminalId input.taskId = some located)
    (h : Ran (reconcileLocated env terminalId kind input located fresh now) db reply db') :
    (Idle db terminalId body eventType ∧ db' = db) ∨
    ∃ kind input order job command, Reads body eventType kind input ∧
      Concerns db terminalId input order job command ∧ Accepts kind input order job command ∧
      Ran (apply env terminalId kind input order job command fresh now) db reply db' := by
  have row := (taskJob_some found).1
  simp only [reconcileLocated, OrderRepository.findWithTerminal, OrderRepository.lockJob,
    ran_read_bind, row] at h
  split at h
  · rename_i order job foundOrder foundJob
    cases foundJob
    obtain ⟨ordered, hosted⟩ := Option.filter_eq_some_iff.mp foundOrder
    have mine : order.id = located.orderId := Table.key_of_find? ordered
    cases bound : located.commandId with
    | none =>
        simp only [bound, ran_pure] at h
        exact .inl ⟨.undispatched reads found (.inr bound), h.2.symm⟩
    | some commandId =>
        simp only [bound, boundCommand, CommandRepository.byDbId, bind_assoc,
          ran_read_bind, ran_require_bind, ran_ensure_bind] at h
        obtain ⟨command, issued, associated, h⟩ := h
        obtain ⟨issued, production⟩ := Option.filter_eq_some_iff.mp issued
        have key : command.id = commandId := Table.key_of_find? issued
        rw [← mine] at ordered
        rw [← key] at issued
        have concerns : Concerns db terminalId input order located command :=
          ⟨found, hosted, ⟨ordered, row, issued, mine.symm, key ▸ bound⟩, production, associated⟩
        rcases judgeEvent_cases env terminalId kind input order located command fresh now
          with ⟨accepts, applied⟩ | ⟨refuses, reason, ignored⟩
        · exact .inr ⟨kind, input, order, located, command, reads, concerns, accepts, applied ▸ h⟩
        · rw [ignored, ran_pure] at h
          exact .inl ⟨.refused reads concerns refuses, h.2.symm⟩
  · rename_i missing
    refine .inl ⟨.undispatched reads found (.inl ?_), ((ran_pure _ _ _ _).mp h).2.symm⟩
    cases ordered : (db.orders.find? located.orderId).filter
        fun o => (db.terminals.find? o.terminalId).isSome with
    | none => rfl
    | some order => exact (missing order located ordered rfl).elim

/-- A report finds nothing to do and does nothing, or rows that accept it take it, or it moves a
command on its own. -/
theorem reconcileDeviceEvent_cases
    (h : Ran (reconcileDeviceEvent env terminalId body eventType fresh now) db reply db') :
    (Idle db terminalId body eventType ∧ db' = db) ∨
    (∃ kind input order job command, Reads body eventType kind input ∧
      Concerns db terminalId input order job command ∧ Accepts kind input order job command ∧
      Ran (apply env terminalId kind input order job command fresh now) db reply db') ∨
    ∃ event input command r, Reads body eventType (.task event) input ∧
      Alone db terminalId input command ∧ ¬ Rests event command ∧
      Ran (transitionCommand command event.commandTarget "device-event" false now) db r db' := by
  simp only [reconcileDeviceEvent] at h
  rw [ran_ite] at h
  rcases h with ⟨progress, h⟩ | ⟨lasting, h⟩
  · exact .inl ⟨.ephemeral progress, ((ran_pure _ _ _ _).mp h).2.symm⟩
  · cases typed : eventKind? eventType with
    | none =>
        simp only [typed, ran_pure] at h
        exact .inl ⟨.foreign typed, h.2.symm⟩
    | some kind =>
        simp only [typed] at h
        rw [ran_bind] at h
        obtain ⟨input, t, read, h⟩ := h
        obtain ⟨valid, same⟩ := ran_lift.mp read
        rw [same] at h
        rw [ran_ite] at h
        rcases h with ⟨unpaused, h⟩ | ⟨paused, h⟩
        · exact .inl ⟨.unpaused typed valid unpaused.1 unpaused.2,
            ((ran_pure _ _ _ _).mp h).2.symm⟩
        · have reads : Reads body eventType kind input := ⟨lasting, typed, valid, paused⟩
          simp only [OrderRepository.jobForTask, ran_read_bind] at h
          split at h
          · rename_i unowned
            exact reconcileStandalone_cases reads unowned h
          · rename_i located found
            exact (reconcileLocated_cases reads found h).imp_right .inl

theorem transitionCommand_rests {event : TaskEvent}
    (rests : command.status = event.commandTarget ∨
      (decideTransition command.status event.commandTarget).allowed = false) :
    ∃ r, Ran (transitionCommand command event.commandTarget "device-event" false now) db r db := by
  by_cases same : command.status = event.commandTarget
  · exact ⟨(command, true), by simp [transitionCommand, decideTransition, same]⟩
  · have refused := rests.resolve_left same
    refine ⟨(command, false), ?_⟩
    simp only [transitionCommand]
    have once : (decideTransition command.status event.commandTarget).duplicate = false := by
      simp only [decideTransition, same, if_false]
      split
      · rfl
      · split <;> rfl
    simp [once, refused]

/-- An event that is read goes on with the job of its task, or without one. -/
theorem reconcile_reads (reads : Reads body eventType kind input) :
    reconcileDeviceEvent env terminalId body eventType fresh now db =
      (taskJob db terminalId input.taskId).elim (reconcileStandalone terminalId input kind now)
        (fun located => reconcileLocated env terminalId kind input located fresh now) db := by
  simp only [reconcileDeviceEvent, if_neg reads.lasting, reads.typed, reads.valid, lift,
    pure_bind, if_neg reads.paused, OrderRepository.jobForTask, apply_read_bind, taskJob]
  generalize db.jobs.first? _ = found
  cases found <;> rfl

/-- What finds nothing to do does nothing and raises nothing. -/
theorem idle_ran (idle : Idle db terminalId body eventType) :
    ∃ reply, Ran (reconcileDeviceEvent env terminalId body eventType fresh now) db reply db := by
  cases idle with
  | ephemeral progress => exact ⟨_, by simp only [Ran, reconcileDeviceEvent, if_pos progress]; rfl⟩
  | foreign untyped =>
      by_cases progress : eventType = "task.progress"
      · exact ⟨_, by simp only [Ran, reconcileDeviceEvent, if_pos progress]; rfl⟩
      · exact ⟨_, by simp only [Ran, reconcileDeviceEvent, if_neg progress, untyped]; rfl⟩
  | unpaused typed valid recovered running =>
      have lasting : eventType ≠ "task.progress" := by
        rw [recovered]
        decide
      refine ⟨.ignoredRecovery, ?_⟩
      simp only [Ran, reconcileDeviceEvent, if_neg lasting, typed, valid, lift, pure_bind,
        if_pos (And.intro recovered running)]
      rfl
  | @jobless kind input reads unowned rests =>
      simp only [taskCommand] at rests
      simp only [Ran, reconcile_reads reads, unowned, Option.elim, reconcileStandalone,
        CommandRepository.byTask, apply_read_bind]
      generalize List.head? _ = found at rests ⊢
      cases found with
      | none => exact ⟨.none, rfl⟩
      | some command =>
          cases kind with
          | step => exact ⟨.none, rfl⟩
          | task event =>
              obtain ⟨associated, rests⟩ := rests event command rfl rfl
              simp only [apply_ensure_bind associated]
              by_cases held : command.status = .unknown ∧ event.commandTarget ∉ terminalStates
              · exact ⟨.standaloneHold, by rw [if_pos held]; rfl⟩
              · have stays : ∃ r, Ran (transitionCommand command event.commandTarget "device-event"
                    false now) db r db := transitionCommand_rests (rests.resolve_left held)
                obtain ⟨r, transition⟩ := stays
                rw [if_neg held, apply_bind_of_ok transition]
                exact ⟨_, rfl⟩
  | @undispatched kind input job reads located unlinked =>
      have row := (taskJob_some located).1
      simp only [Ran, reconcile_reads reads, located, Option.elim, reconcileLocated,
        OrderRepository.findWithTerminal, OrderRepository.lockJob, apply_read_bind, row]
      rcases unlinked with missing | unbound
      · exact ⟨.notDispatched, by rw [missing]; rfl⟩
      · cases (db.orders.find? job.orderId).filter
            fun o => (db.terminals.find? o.terminalId).isSome with
        | none => exact ⟨.notDispatched, rfl⟩
        | some order => exact ⟨.notDispatched, by simp only [unbound]; rfl⟩
  | refused reads concerns refuses =>
      simp only [Ran, reconcile_concerned reads concerns]
      rcases judgeEvent_cases env terminalId _ _ _ _ _ fresh now with
        ⟨accepts, -⟩ | ⟨-, reason, ignored⟩
      · exact absurd accepts refuses
      · exact ⟨_, by rw [ignored]; rfl⟩

/-- What a report makes of the floor is one piece of work, or none. -/
theorem reconcile_work (books : db.books.Sound) (floor : db.floor.Sound)
    (h : Ran (reconcileDeviceEvent env terminalId body eventType fresh now) db reply db') :
    db'.floor = db.floor ∨ ∃ w, db.floor.ok w ∧ db'.floor = Floor.apply w db.floor := by
  rcases reconcileDeviceEvent_cases h with ⟨-, rfl⟩ |
    ⟨kind, input, order, job, command, -, concerns, accepts, applied⟩ |
    ⟨event, input, command, r, -, alone, -, transition⟩
  · exact .inl rfl
  · exact .inr ⟨_, (apply_effect books concerns.rows accepts applied).2 floor⟩
  · rcases ran_transitionCommand transition with ⟨-, rfl, -⟩ | ⟨-, -, legal, -, _, rfl⟩
    · exact .inl rfl
    · exact .inr ⟨.free command.id event.commandTarget,
        ⟨free_of_task alone.jobless alone.issued alone.here alone.task floor, _,
          Db.floor_command alone.issued, legal⟩, db.moveCommand_floor⟩

section Replay

/-- The replay of stored events, one after the other, as a machine over the database. -/
def replaying (env : Env) (now : Time) :
    Machine Db (TerminalEvent × FreshRefund) (Except Failure EventReply) where
  next db item :=
    match reconcileDeviceEvent env item.1.terminalId item.1.payload item.1.eventType item.2 now db with
    | .ok (reply, db') => (db', .ok reply)
    | .error e => (db, .error e)

/-- What a replay goes through: the stored events of its kinds, and what it draws for each. -/
def replayed (db : Db) (p : String → Bool) (fresh : Nat → FreshRefund) :
    List (TerminalEvent × FreshRefund) :=
  (db.terminalEvents.select (fun e => p e.eventType)
    fun a b => a.receivedAt ≤ b.receivedAt).zipIdx.map fun item => (item.1, fresh item.2)

/-- The stored event is reconciled without an error. -/
def Passes (env : Env) (now : Time) (db : Db) (item : TerminalEvent × FreshRefund) : Prop :=
  ∃ reply, (replaying env now).answer db item = .ok reply

theorem passes_iff {item : TerminalEvent × FreshRefund} :
    (∃ reply, Ran (reconcileDeviceEvent env item.1.terminalId item.1.payload item.1.eventType
      item.2 now) db reply db') ↔
      Passes env now db item ∧ (replaying env now).step db item = db' := by
  simp only [Passes, Ran, replaying, Machine.step, Machine.answer]
  cases reconcileDeviceEvent env item.1.terminalId item.1.payload item.1.eventType item.2 now db with
  | error e => simp
  | ok r => simp [Prod.ext_iff]

/-- A replay that goes through is a run of its events, none of which raises. -/
theorem ran_reconcileStored {p : String → Bool} {fresh : Nat → FreshRefund} {u : Unit} :
    Ran (reconcileStored env p fresh now) db u db' ↔
      (replaying env now).Along (Passes env now) db (replayed db p fresh) ∧
        (replaying env now).run db (replayed db p fresh) = db' := by
  simp only [reconcileStored, storedEvents, ran_read_bind, replayed]
  generalize List.zipIdx _ = items
  induction items generalizing db with
  | nil => simp [Machine.Along, eq_comm]
  | cons item items ih =>
      simp only [ran_forEach_cons, List.map_cons, Machine.Along, Machine.run_cons, ran_bind,
        ran_pure] at ih ⊢
      constructor
      · rintro ⟨t, ⟨reply, t', one, -, rfl⟩, rest⟩
        have one : Passes env now db (item.1, fresh item.2) ∧ _ := passes_iff.mp ⟨reply, one⟩
        obtain ⟨passes, step⟩ := one
        obtain ⟨along, run⟩ := ih.mp rest
        rw [step]
        exact ⟨⟨passes, along⟩, run⟩
      · rintro ⟨⟨passes, along⟩, run⟩
        obtain ⟨reply, one⟩ := passes_iff.mpr ⟨passes, rfl⟩
        exact ⟨_, ⟨reply, _, one, trivial, rfl⟩, ih.mpr ⟨along, run⟩⟩

end Replay

end ProductionService
end CoffeeCloud
