import CoffeeCloud.Runs.Production

/-!
What a restart of the service does: it reconciles every stored event again. An
event that its rows still accept moves them again, and one that contradicts them
stops the start; what finds nothing to do leaves everything as it was.
-/
namespace CoffeeCloud
open Library Tx

/-- How far a command is on its way. -/
def CommandStatus.rank : CommandStatus → Nat
  | .created => 0
  | .delivering => 1
  | .published => 2
  | .acked => 3
  | .executing => 4
  | .unknown => 5
  | _ => 6

namespace Floor
variable {f f' f'' : Floor}

/-- Jobs gain revisions only, and a command that no job has moves on only. -/
structure Forth (f f' : Floor) : Prop where
  jobs : ∀ j e, f.jobs j = some e → ∃ e', f'.jobs j = some e' ∧ e.version ≤ e'.version
  free : ∀ c, f.Free c → f'.Free c
  commands : ∀ c e, f.Free c → f.commands c = some e →
    ∃ e', f'.commands c = some e' ∧ e.status.rank ≤ e'.status.rank

/-- A job gained a revision, or a command that no job has moved on. -/
def Gained (f f' : Floor) : Prop :=
  (∃ j e e', f.jobs j = some e ∧ f'.jobs j = some e' ∧ e.version < e'.version) ∨
    ∃ c e e', f'.Free c ∧ f.commands c = some e ∧ f'.commands c = some e' ∧
      e.status.rank < e'.status.rank

theorem Forth.refl (f : Floor) : f.Forth f :=
  ⟨fun _ e h => ⟨e, h, Int.le_refl _⟩, fun _ => id, fun _ e _ h => ⟨e, h, Nat.le_refl _⟩⟩

theorem Forth.trans (h : f.Forth f') (k : f'.Forth f'') : f.Forth f'' := by
  refine ⟨fun j e hj => ?_, fun c => k.free c ∘ h.free c, fun c e free hc => ?_⟩
  · obtain ⟨e', hj', le⟩ := h.jobs j e hj
    obtain ⟨e'', hj'', le'⟩ := k.jobs j e' hj'
    exact ⟨e'', hj'', le.trans le'⟩
  · obtain ⟨e', hc', le⟩ := h.commands c e free hc
    obtain ⟨e'', hc'', le'⟩ := k.commands c e' (h.free c free) hc'
    exact ⟨e'', hc'', le.trans le'⟩

theorem Gained.forth (h : f.Gained f') (k : f'.Forth f'') : f.Gained f'' := by
  rcases h with ⟨j, e, e', hj, hj', lt⟩ | ⟨c, e, e', free, hc, hc', lt⟩
  · obtain ⟨e'', hj'', le⟩ := k.jobs j e' hj'
    exact .inl ⟨j, e, e'', hj, hj'', lt.trans_le le⟩
  · obtain ⟨e'', hc'', le⟩ := k.commands c e' free hc'
    exact .inr ⟨c, e, e'', k.free c free, hc, hc'', lt.trans_le le⟩

theorem rank_lt {s t : CommandStatus} (legal : t ∈ legalTransitions s)
    (onward : ¬ (s = .unknown ∧ t ∉ terminalStates)) : s.rank < t.rank := by
  revert legal onward
  cases s <;> cases t <;> decide

/-- An adjustment that leaves a job its command leaves commands free. -/
theorem free_adjust {j c : Nat} {g : JobEntry → JobEntry} (jobs : f'.jobs = adjust f.jobs j g)
    (bound : ∀ e, (g e).command = e.command) (free : f.Free c) : f'.Free c := by
  intro k e hk mine
  rw [jobs] at hk
  obtain ⟨e₀, hk₀, rfl⟩ := adjust_some_iff.mp hk
  refine free k e₀ hk₀ ?_
  split at mine
  · exact (bound e₀).symm.trans mine
  · exact mine

/-- A job that is moved with its order and command gains a revision. -/
theorem forth_coordinate {o j c : Nat} {order : OrderStatus} {job : JobStatus}
    {command : CommandStatus} {revision attempt version : Int} (sound : f.Sound)
    (hok : f.ok (.coordinate o j c order job command revision attempt version)) :
    f.Forth (apply (.coordinate o j c order job command revision attempt version) f) ∧
      f.Gained (apply (.coordinate o j c order job command revision attempt version) f) := by
  have ok := hok
  obtain ⟨-, -, s, e, -, -, hj, -, bound, -, -, -, newer, -⟩ := ok
  refine ⟨⟨fun k e hk => ?_, fun d free => free_adjust rfl (fun _ => rfl) free,
    fun d e' free hd => ⟨e', ?_, Nat.le_refl _⟩⟩,
    .inl ⟨j, e, _, hj, (congrFun (adjust_of_some hj) j).trans (put_same _ _ _), newer⟩⟩
  · obtain ⟨e', hk', onward⟩ := apply_job sound hok hk
    exact ⟨e', hk', onward.version⟩
  · have apart : d ≠ c := by
      rintro rfl
      exact free j e hj bound
    exact (adjust_of_ne apart).trans hd

theorem forth_progress {j : Nat} {revision attempt version : Int} (sound : f.Sound)
    (hok : f.ok (.progress j revision attempt version)) :
    f.Forth (apply (.progress j revision attempt version) f) ∧
      f.Gained (apply (.progress j revision attempt version) f) := by
  have ok := hok
  obtain ⟨e, hj, -, -, -, newer⟩ := ok
  refine ⟨⟨fun k e hk => ?_, fun d free => free_adjust rfl (fun _ => rfl) free,
    fun d e' _ hd => ⟨e', hd, Nat.le_refl _⟩⟩,
    .inl ⟨j, e, _, hj, (congrFun (adjust_of_some hj) j).trans (put_same _ _ _), newer⟩⟩
  · obtain ⟨e', hk', onward⟩ := apply_job sound hok hk
    exact ⟨e', hk', onward.version⟩

theorem forth_free {c : Nat} {status : CommandStatus} {e : CommandEntry} (free : f.Free c)
    (hc : f.commands c = some e) (onward : e.status.rank < status.rank) :
    f.Forth (apply (.free c status) f) ∧ f.Gained (apply (.free c status) f) := by
  have moved : (apply (.free c status) f).commands c = some { e with status } :=
    (congrFun (adjust_of_some hc) c).trans (put_same _ _ _)
  refine ⟨⟨fun j e hj => ⟨e, hj, Int.le_refl _⟩, fun _ => id, fun d e' _ hd => ?_⟩,
    .inr ⟨c, e, _, free, hc, moved, onward⟩⟩
  by_cases same : d = c
  · subst same
    cases hc.symm.trans hd
    exact ⟨_, moved, Nat.le_of_lt onward⟩
  · exact ⟨e', (adjust_of_ne same).trans hd, Nat.le_refl _⟩

end Floor

namespace ProductionService
variable {env : Env} {db db' : Db} {fresh : FreshRefund} {now : Time} {terminalId : Id} {body : Json}
  {eventType : String} {reply : EventReply}

/-- A report finds nothing to do and does nothing, or something goes on that never goes back. -/
theorem reconcile_gains (books : db.books.Sound) (floor : db.floor.Sound)
    (h : Ran (reconcileDeviceEvent env terminalId body eventType fresh now) db reply db') :
    (Idle db terminalId body eventType ∧ db' = db) ∨
      db.floor.Forth db'.floor ∧ db.floor.Gained db'.floor := by
  rcases reconcileDeviceEvent_cases h with idle |
    ⟨kind, input, order, job, command, -, concerns, accepts, applied⟩ |
    ⟨event, input, command, r, -, alone, moves, transition⟩
  · exact .inl idle
  · obtain ⟨ok, left⟩ := (apply_effect books concerns.rows accepts applied).2 floor
    rw [left]
    cases kind with
    | step => exact .inr (Floor.forth_progress floor ok)
    | task event => exact .inr (Floor.forth_coordinate floor ok)
  · rcases ran_transitionCommand transition with ⟨-, -, why⟩ | ⟨-, -, legal, -, _, rfl⟩
    · exact absurd (.inr (why.imp_right And.right)) moves
    · rw [Db.moveCommand_floor]
      refine .inr (Floor.forth_free (free_of_task alone.jobless alone.issued alone.here alone.task
        floor) (Db.floor_command alone.issued) (Floor.rank_lt legal ?_))
      exact fun held => moves (.inl held)

/-- Stored events that are replayed all find nothing to do, or something has gone on. -/
theorem replay_gains {items : List (TerminalEvent × FreshRefund)} (books : db.books.Sound)
    (floor : db.floor.Sound)
    (along : (replaying env now).Along (Passes env now) db items) :
    db.floor.Forth ((replaying env now).run db items).floor ∧
      ((∀ item ∈ items, Idle db item.1.terminalId item.1.payload item.1.eventType) ∧
          (replaying env now).run db items = db ∨
        db.floor.Gained ((replaying env now).run db items).floor) := by
  induction items generalizing db with
  | nil => exact ⟨.refl _, .inl ⟨by simp, rfl⟩⟩
  | cons item items ih =>
      obtain ⟨passes, along⟩ := along
      obtain ⟨reply, ran⟩ := passes_iff.mpr ⟨passes, rfl⟩
      have refines := reconcileDeviceEvent_effect books ran
      obtain ⟨forth, rest⟩ := ih (refines.booksSound books) (refines.floorSound floor) along
      simp only [Machine.run_cons]
      rcases reconcile_gains books floor ran with ⟨idle, same⟩ | ⟨onward, gained⟩
      · rw [same] at forth rest ⊢
        refine ⟨forth, rest.imp_left fun h => ⟨?_, h.2⟩⟩
        simpa using ⟨idle, fun a b mem => h.1 (a, b) mem⟩
      · exact ⟨onward.trans forth, .inr (gained.forth forth)⟩

/-- What all find nothing to do leave everything as it was. -/
theorem replay_idle {items : List (TerminalEvent × FreshRefund)}
    (idle : ∀ item ∈ items, Idle db item.1.terminalId item.1.payload item.1.eventType) :
    (replaying env now).Along (Passes env now) db items ∧
      (replaying env now).run db items = db := by
  induction items with
  | nil => exact ⟨trivial, rfl⟩
  | cons item items ih =>
      have here : ∃ reply, Ran (reconcileDeviceEvent env item.1.terminalId item.1.payload
          item.1.eventType item.2 now) db reply db := idle_ran (idle item List.mem_cons_self)
      obtain ⟨passes, same⟩ := passes_iff.mp here
      obtain ⟨along, run⟩ := ih fun item mem => idle item (List.mem_cons_of_mem _ mem)
      refine ⟨⟨passes, ?_⟩, ?_⟩
      · rw [same]
        exact along
      · rw [Machine.run_cons, same, run]

end ProductionService

/-- Every order, job and command stands where it stood, no job gained a revision and no refund was
made. -/
structure Db.Unmoved (db db' : Db) : Prop where
  orders : db'.orders.view (·.status) = db.orders.view (·.status)
  jobs : db'.jobs.view (fun j => (j.status, j.revision)) =
    db.jobs.view fun j => (j.status, j.revision)
  commands : db'.commands.view (·.status) = db.commands.view (·.status)
  refunds : db'.refunds = db.refunds

theorem Db.Unmoved.refl (db : Db) : db.Unmoved db := ⟨rfl, rfl, rfl, rfl⟩

theorem Db.Unmoved.not_gained {db db' : Db} (h : db.Unmoved db') :
    ¬ db.floor.Gained db'.floor := by
  rintro (⟨j, e, e', hj, hj', lt⟩ | ⟨c, e, e', -, hc, hc', lt⟩)
  · obtain ⟨job, row, rfl⟩ := (Table.view_eq_some _).mp hj
    obtain ⟨job', row', rfl⟩ := (Table.view_eq_some _).mp hj'
    have same := congrFun h.jobs j
    rw [Table.view_of_find? _ row, Table.view_of_find? _ row', Option.some.injEq, Prod.mk.injEq]
      at same
    exact absurd same.2.symm (ne_of_lt lt)
  · obtain ⟨command, row, rfl⟩ := (Table.view_eq_some _).mp hc
    obtain ⟨command', row', rfl⟩ := (Table.view_eq_some _).mp hc'
    have same := congrFun h.commands c
    rw [Table.view_of_find? _ row, Table.view_of_find? _ row', Option.some.injEq] at same
    simp [CommandEntry.of, same] at lt

namespace System
variable {env : Env} {s : System}

/-- One start of the service, with what each of its two replays draws. -/
structure Restart where
  fresh : Nat → FreshRefund
  now : Time
  fresh' : Nat → FreshRefund
  now' : Time

/-- The order in which a start replays: first the commands' events, then the orders'. -/
def Restart.actions (r : Restart) : List Action :=
  [.replayCommandEvents r.fresh r.now, .replayOrderEvents r.fresh' r.now']

/-- The event is of a kind that a start replays. -/
def Replayed (e : TerminalEvent) : Prop :=
  (e.eventType.startsWith "task." || e.eventType.startsWith "step.") = true

/-- Starts of the service go through and leave everything where it is. -/
def Harmless (env : Env) (s : System) : Prop := ∀ restarts : List Restart,
  (machine env).Along (fun s a => ∀ e, (machine env).answer s a ≠ .raised e) s
      (restarts.flatMap Restart.actions) ∧
    s.db.Unmoved ((machine env).run s (restarts.flatMap Restart.actions)).db

theorem mem_replayed {db : Db} {e : TerminalEvent} (p : String → Bool) (fresh : Nat → FreshRefund)
    (mem : e ∈ db.terminalEvents.rows) (kind : p e.eventType = true) :
    ∃ n, (e, fresh n) ∈ ProductionService.replayed db p fresh := by
  have selected : e ∈ db.terminalEvents.select (fun e => p e.eventType)
      fun a b => a.receivedAt ≤ b.receivedAt := Table.mem_select.mpr ⟨mem, kind⟩
  obtain ⟨n, here⟩ := List.mem_iff_getElem?.mp selected
  exact ⟨n, List.mem_map.mpr ⟨(e, n), List.mk_mem_zipIdx_iff_getElem?.mpr here, rfl⟩⟩

theorem of_mem_replayed {db : Db} {p : String → Bool} {fresh : Nat → FreshRefund}
    {item : TerminalEvent × FreshRefund} (mem : item ∈ ProductionService.replayed db p fresh) :
    item.1 ∈ db.terminalEvents.rows ∧ p item.1.eventType = true := by
  obtain ⟨⟨e, n⟩, here, rfl⟩ := List.mem_map.mp mem
  exact Table.mem_select.mp (List.mem_of_getElem? (List.mk_mem_zipIdx_iff_getElem?.mp here))

/-- A replay that does not raise is a run of its stored events. -/
theorem replay_run {a : Action} {p : String → Bool} {fresh : Nat → FreshRefund} {now : Time}
    (replays : a.replay? = some (p, fresh, now))
    (quiet : ∀ e, (machine env).answer s a ≠ .raised e) :
    (ProductionService.replaying env now).Along (ProductionService.Passes env now) s.db
        (ProductionService.replayed s.db p fresh) ∧
      (ProductionService.replaying env now).run s.db
        (ProductionService.replayed s.db p fresh) = ((machine env).step s a).db := by
  rcases step_cases env s a with ⟨answer, tickets, db', ran, next⟩ | ⟨e, -, next⟩
  · simp only [Machine.step, next]
    cases a <;> cases replays
    all_goals
      obtain ⟨⟨_, ran⟩, -⟩ := ran_quiet ran
      exact ProductionService.ran_reconcileStored.mp ran
  · exact absurd (by simp only [Machine.answer, next]) (quiet e)

/-- A replay of events that all find nothing to do goes through and changes nothing. -/
theorem replay_still {a : Action} {p : String → Bool} {fresh : Nat → FreshRefund} {now : Time}
    (replays : a.replay? = some (p, fresh, now))
    (idle : ∀ item ∈ ProductionService.replayed s.db p fresh,
      ProductionService.Idle s.db item.1.terminalId item.1.payload item.1.eventType) :
    (machine env).next s a = (s, .done) := by
  have ran : Ran (ProductionService.reconcileStored env p fresh now) s.db () s.db :=
    ProductionService.ran_reconcileStored.mpr (ProductionService.replay_idle idle)
  have still : Ran (body env s.tickets a) s.db (.done, []) s.db := by
    cases a <;> cases replays
    all_goals
      simp only [body, quiet, ran_bind, ran_pure]
      exact ⟨(), s.db, ran, trivial, rfl⟩
  simp only [machine, show body env s.tickets a s.db = .ok ((.done, []), s.db) from still,
    List.append_nil]

/-- Starts of the service are harmless in a state exactly where no stored event still finds something
to do, and none contradicts the rows it is about. -/
theorem harmless_iff (as : List Action) :
    Harmless env ((machine env).run {} as) ↔
      ∀ e ∈ ((machine env).run {} as).db.terminalEvents.rows, Replayed e →
        ProductionService.Idle ((machine env).run {} as).db e.terminalId e.payload e.eventType := by
  have sound : ((machine env).run {} as).Sound := sound_run sound_empty as
  generalize (machine env).run {} as = s at sound
  constructor
  · intro harmless e mem kind
    -- One start is enough: what it does not undo it cannot have done.
    obtain ⟨along, unmoved⟩ := harmless [⟨fun n => ⟨n, ""⟩, 0, fun n => ⟨n, ""⟩, 0⟩]
    simp only [List.flatMap_cons, List.flatMap_nil, List.append_nil, Restart.actions,
      Machine.Along, Machine.run_cons, Machine.run_nil, and_true] at along unmoved
    obtain ⟨passes, run⟩ := replay_run rfl along.1
    obtain ⟨-, commands⟩ := ProductionService.replay_gains sound.books sound.floor passes
    have later := @Sound.step env _ sound (.replayCommandEvents (fun n => ⟨n, ""⟩) 0)
    obtain ⟨passes', run'⟩ := replay_run rfl along.2
    obtain ⟨forth, orders⟩ := ProductionService.replay_gains later.books later.floor passes'
    rw [run] at commands
    rw [run'] at forth orders
    have still := (commands.resolve_right fun gained =>
      unmoved.not_gained (gained.forth forth)).2
    rw [still] at orders passes'
    obtain ⟨idle, -⟩ := orders.resolve_right unmoved.not_gained
    obtain ⟨n, here⟩ := mem_replayed (fun t => t.startsWith "task." || t.startsWith "step.")
      (fun n => ⟨n, ""⟩) mem kind
    exact idle _ here
  · intro idle restarts
    induction restarts with
    | nil => exact ⟨trivial, .refl _⟩
    | cons r restarts ih =>
        have commands : (machine env).next s (.replayCommandEvents r.fresh r.now) = (s, .done) := by
          refine replay_still rfl fun item here => ?_
          obtain ⟨mem, kind⟩ := of_mem_replayed here
          refine idle item.1 mem ?_
          simp only [List.mem_cons, List.not_mem_nil, or_false, decide_eq_true_eq] at kind
          rcases kind with kind | kind | kind | kind <;> rw [Replayed, kind] <;> decide +kernel
        have orders : (machine env).next s (.replayOrderEvents r.fresh' r.now') = (s, .done) := by
          refine replay_still rfl fun item here => ?_
          obtain ⟨mem, kind⟩ := of_mem_replayed here
          exact idle item.1 mem kind
        simp only [List.flatMap_cons, Restart.actions, List.cons_append, List.nil_append,
          Machine.Along, Machine.run_cons, Machine.answer, Machine.step, commands, orders]
        exact ⟨⟨by simp, by simp, ih.1⟩, ih.2⟩

/-- A report about the task of the sale, with nothing but the task in it. -/
def bareReport (eventId eventType : String) : Action :=
  .event 0 { eventId, eventType, body := .obj [("payload", .obj [("taskId", .str "task")])] }
    (freshRefund 0) 0

/-- The drink is under way, and the device reports a step of it without a task revision. -/
def steppedSale : List Action :=
  dispatchedSale ++ [bareReport "started" "task.started", bareReport "step" "step.started"]

/-- The next start counts the step again. -/
theorem restart_repeatsStep : ¬ Harmless shop ((machine shop).run {} steppedSale) := by
  intro harmless
  obtain ⟨-, unmoved⟩ := harmless [⟨freshRefund, 0, freshRefund, 0⟩]
  have same := congrFun unmoved.jobs 0
  exact absurd same (by decide +kernel)

end System
end CoffeeCloud
