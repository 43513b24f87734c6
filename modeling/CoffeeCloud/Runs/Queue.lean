import CoffeeCloud.Repositories.Queue
import CoffeeCloud.Runs.Production

/-!
The queue a customer is shown against the one that is served: they are the same
exactly where the orders of a terminal were created in the order of their jobs.
-/
namespace CoffeeCloud
open Library Tx

section Housing

/-- Every job is made at the terminal its order was placed at. -/
def Floor.Housed (f : Floor) : Prop :=
  ∀ j e, f.jobs j = some e → ∃ p, f.orders e.order = some p ∧ p.terminal = e.terminal

/-- A job a piece of work brings in is made where its order was placed. -/
theorem Floor.newJob_housed {f : Floor} {w : Work} (hok : f.ok w) {j : Nat} {e : JobEntry}
    (new : f.jobs j = none) (hj : (apply w f).jobs j = some e) :
    ∃ p, (apply w f).orders e.order = some p ∧ p.terminal = e.terminal := by
  have adjusted (k : Nat) (g : JobEntry → JobEntry) : adjust f.jobs k g j = none := by
    rw [adjust_apply, new]
    split <;> rfl
  cases w with
  | takeQueued o k terminal task =>
      simp only [apply, put_apply] at hj
      split at hj
      · cases hj
        exact ⟨_, put_same _ _ _, rfl⟩
      · rw [new] at hj
        cases hj
  | queue o k terminal task =>
      obtain ⟨-, -, -, p, placed, here⟩ := hok
      simp only [apply, put_apply] at hj
      split at hj
      · cases hj
        refine ⟨{ p with status := .queued }, ?_, here⟩
        simp only [apply, setOrder, adjust_of_some placed]
        exact put_same _ _ _
      · have same : f.jobs j = some e := hj
        rw [new] at same
        cases same
  | cancelQueued | dispatch | coordinate | progress =>
      simp only [apply] at hj
      rw [adjusted] at hj
      cases hj
  | _ =>
      have same : f.jobs j = some e := hj
      rw [new] at same
      cases same

theorem Floor.Housed.apply {f : Floor} {w : Work} (housed : f.Housed) (sound : f.Sound)
    (hok : f.ok w) : (Floor.apply w f).Housed := by
  intro j e' hj'
  cases hj : f.jobs j with
  | none => exact newJob_housed hok hj hj'
  | some e =>
      obtain ⟨e'', same, onward⟩ := apply_job sound hok hj
      cases hj'.symm.trans same
      obtain ⟨p, placed, here⟩ := housed j e hj
      obtain ⟨p', placed', terminal, -⟩ := apply_order hok placed
      rw [onward.order, onward.terminal]
      exact ⟨p', placed', terminal.trans here⟩

theorem Refines.housed {P : Posting → Prop} {W : Work → Prop} {db db' : Db}
    (h : Refines P W db db') (sound : db.floor.Sound) (housed : db.floor.Housed) :
    db'.floor.Housed := by
  have kept := (h.floor sound).invariant (I := fun f => f.Sound ∧ f.Housed) ⟨sound, housed⟩
    fun f w hf hw => ⟨hf.1.apply hw.1, hf.2.apply hf.1 hw.1⟩
  exact kept.2

end Housing

/-- An order of the terminal waits to be dispatched, and this is its job. -/
structure Db.Waits (db : Db) (terminalId : Id) (o : Order) (j : Job) : Prop where
  order : db.orders.find? o.id = some o
  here : o.terminalId = terminalId
  queued : o.status = .queued
  job : db.jobs.find? j.id = some j
  mine : j.orderId = o.id

/-- A job goes to the device. -/
def Db.Sends (db db' : Db) (j : Id) : Prop :=
  (∃ job, db.jobs.find? j = some job ∧ job.status = .queued) ∧
    ∃ job', db'.jobs.find? j = some job' ∧ job'.status = .dispatched

section Serving
open OrderRepository

/-- Dispatches of a terminal one after the other, with the jobs they send to the device. In between
the device works on them and whatever else happens leaves the line as it is. -/
inductive Serving (env : Env) (terminalId : Id) : Db → List Id → Db → Prop where
  | stop (db : Db) : Serving env terminalId db [] db
  | dispatch {db t db' : Db} {j : Id} {js : List Id} {fresh : ProductionService.FreshCommand}
      {now : Time}
      (sent : Ran (ProductionService.dispatchNextOrderResult env terminalId fresh now) db
        .dispatched t)
      (job : db.Sends t j) (rest : Serving env terminalId t js db') :
      Serving env terminalId db (j :: js) db'
  | pass {db t db' : Db} {js : List Id} (sound : t.floor.Sound)
      (same : line t terminalId = line db terminalId) (rest : Serving env terminalId t js db') :
      Serving env terminalId db js db'

/-- The orders of a terminal that wait. -/
def waiting (db : Db) (terminalId : Id) : Finset Id :=
  (db.orders.keysWhere fun o => o.terminalId = terminalId && o.status = .queued).toFinset

def placedAt (db : Db) (o : Id) : Time := ((db.orders.find? o).map (·.createdAt)).getD 0

def ticketOf (db : Db) (o : Id) : Lex (Time × Id) :=
  ((db.jobs.first? fun j => j.orderId = o).map ticket).getD (toLex (0, 0))

/-- The queue that customers are shown is the one that is served. -/
structure Db.Shows (env : Env) (db : Db) (terminalId : Id) : Prop where
  view : ∀ o j, db.Waits terminalId o j → db.publicViewPosition o.id = some (db.queuePosition o)
  ahead : ∀ o j, db.Waits terminalId o j → db.queuePosition o = queuedAhead db o + 1
  served : ∀ o j, db.Waits terminalId o j → ∀ before after db',
    Serving env terminalId db (before ++ j.id :: after) db' →
      db.queuePosition o = before.length + 1
  distinct : ∀ o j q k, db.Waits terminalId o j → db.Waits terminalId q k → o.id ≠ q.id →
    db.queuePosition o ≠ db.queuePosition q

/-- The waiting orders were created in the order of their jobs, no two at once. -/
def Db.InTurn (db : Db) (terminalId : Id) : Prop :=
  ∀ o j q k, db.Waits terminalId o j → db.Waits terminalId q k →
    (q.createdAt ≤ o.createdAt ↔ ticket k ≤ ticket j)

end Serving

namespace OrderRepository
variable {db db' : Db} {env : Env} {terminalId : Id} {now : Time} {order : Order} {job : Job}

theorem mem_line {x : Lex (Time × Id)} : x ∈ line db terminalId ↔
    ∃ j, db.jobs.find? j.id = some j ∧ j.terminalId = terminalId ∧ awaits db j = true ∧
      ticket j = x := by
  simp only [line, List.mem_toFinset, List.mem_map, List.mem_filter, Bool.and_eq_true,
    decide_eq_true_eq]
  constructor
  · rintro ⟨j, ⟨mem, here, waits⟩, same⟩
    exact ⟨j, Table.find?_of_mem mem, here, waits, same⟩
  · rintro ⟨j, found, here, waits, same⟩
    exact ⟨j, ⟨Table.mem_of_find? found, here, waits⟩, same⟩

theorem awaits_iff : awaits db job = true ↔ job.status = .queued ∧
    ∃ order, db.orders.find? job.orderId = some order ∧ order.status = .queued := by
  simp only [awaits, Bool.and_eq_true, decide_eq_true_eq, Option.any_eq_true]

theorem ticket_le_iff (a b : Job) :
    (a.createdAt < b.createdAt || (a.createdAt = b.createdAt && a.id ≤ b.id)) =
      decide (ticket a ≤ ticket b) := by
  simp [ticket, Prod.Lex.le_iff, Bool.decide_or, Bool.decide_and]

/-- The first row of a query in ascending order is the least. -/
theorem head?_select_least {ρ κ α : Type} [Keyed ρ κ] [LinearOrder α] {t : Table ρ}
    {p : ρ → Bool} {g : ρ → α} {r : ρ}
    (h : (t.select p fun a b => decide (g a ≤ g b)).head? = some r) :
    ∀ x ∈ t.rows, p x = true → g r ≤ g x := by
  have total : Std.Total fun a b : ρ => decide (g a ≤ g b) = true :=
    ⟨fun a b => by simpa using le_total (g a) (g b)⟩
  have trans : IsTrans ρ fun a b => decide (g a ≤ g b) = true := by
    refine ⟨fun a b c hab hbc => ?_⟩
    rw [decide_eq_true_eq] at hab hbc ⊢
    exact hab.trans hbc
  have sorted := List.pairwise_insertionSort (fun a b : ρ => decide (g a ≤ g b) = true)
    (t.rows.filter p)
  intro x mem satisfies
  have there : x ∈ t.select p fun a b => decide (g a ≤ g b) :=
    Table.mem_select.mpr ⟨mem, satisfies⟩
  simp only [Table.select] at h there
  cases rows : (t.rows.filter p).insertionSort fun a b => decide (g a ≤ g b) = true with
  | nil =>
      rw [rows] at h
      cases h
  | cons y ys =>
      rw [rows] at h there sorted
      cases h
      rcases List.mem_cons.mp there with rfl | later
      · exact le_rfl
      · simpa using List.rel_of_pairwise_cons sorted later

/-- The job that is dispatched next has the least ticket of the line. -/
theorem nextQueuedJob_least (next : Ran (nextQueuedJob terminalId) db (some job) db) :
    db.jobs.find? job.id = some job ∧ job.terminalId = terminalId ∧ awaits db job = true ∧
      ∀ x ∈ line db terminalId, ticket job ≤ x := by
  simp only [nextQueuedJob, ran_read, and_true, ticket_le_iff] at next
  obtain ⟨mem, picked⟩ := Table.head?_select_some next
  have waits : job.terminalId = terminalId ∧ awaits db job = true := by
    simpa [awaits, and_assoc] using picked
  refine ⟨Table.find?_of_mem mem, waits.1, waits.2, fun x there => ?_⟩
  obtain ⟨j, found, here, waiting, rfl⟩ := mem_line.mp there
  refine head?_select_least next j (Table.mem_of_find? found) ?_
  simpa [awaits, here] using waiting

/-- What a dispatch does to the orders and jobs: one job and its order leave the line. -/
theorem dispatchJob_rows {fresh : ProductionService.FreshCommand} {u : Unit}
    (ordered : db.orders.find? job.orderId = some order) (waits : order.status = .queued)
    (hosted : (db.terminals.find? order.terminalId).isSome = true)
    (h : Ran (ProductionService.dispatchJob job terminalId fresh now) db u db') :
    db'.jobs = db.jobs.modify job.id (fun j => { j with
        commandId := some fresh.commandId, status := .dispatched, revision := j.revision + 1
        updatedAt := now }) (fun _ => rfl) ∧
      (∀ k, k ≠ job.orderId → db'.orders.find? k = db.orders.find? k) ∧
      ∃ o, db'.orders.find? job.orderId = some o ∧ o.status = .dispatched := by
  have key : order.id = job.orderId := Table.key_of_find? ordered
  simp only [ProductionService.dispatchJob] at h
  obtain ⟨t, h, issued⟩ := ProductionService.issued_effect h
  simp only [linkCommand, bind_assoc, ran_read_bind, ran_ensure_bind, id_eq] at h
  obtain ⟨-, -, h⟩ := h
  rw [ran_bind] at h
  obtain ⟨_, t₁, link, h⟩ := h
  simp only [modifyJob, ran_write] at link
  subst link
  have found : t.orders.find? order.id = some order := by rw [key, issued.orders, ordered]
  simp only [findWithTerminal, ran_read_bind] at h
  rw [← key, found] at h
  simp only [issued.terminals, Option.filter, hosted, if_true] at h
  simp only [ran_bind, ran_pure] at h
  obtain ⟨r, t', transition, -, rfl⟩ := h
  rcases ran_transitionOrder transition found with ⟨stuck, -⟩ | ⟨-, -, _, _, -, rfl⟩
  · rw [waits] at stuck
    exact absurd stuck (by decide)
  · refine ⟨by simp only [Db.moveOrder, issued.jobs], fun k other => ?_, ?_⟩
    · simp only [Db.moveOrder, issued.orders, Table.find?_modify, key, if_neg other]
    · simp only [Db.moveOrder, issued.orders, Table.find?_modify, key, if_pos, ordered,
        Option.map_some]
      exact ⟨_, rfl, rfl⟩

theorem ticket_injective {a b : Job} (same : ticket a = ticket b) : a.id = b.id :=
  congrArg (fun x => (ofLex x).2) same

/-- A dispatch takes the least ticket from the line and leaves the others. -/
theorem line_dispatchJob {fresh : ProductionService.FreshCommand} {u : Unit}
    (sound : db.floor.Sound) (found : db.jobs.find? job.id = some job)
    (ordered : db.orders.find? job.orderId = some order) (waits : order.status = .queued)
    (h : Ran (ProductionService.dispatchJob job terminalId fresh now) db u db') (t : Id) :
    line db' t = (line db t).erase (ticket job) := by
  have hosted := sound.hosted _ _ (Db.floor_order ordered)
  obtain ⟨jobs, others, o, moved, gone⟩ := dispatchJob_rows ordered waits hosted h
  ext x
  rw [Finset.mem_erase, mem_line, mem_line, jobs]
  constructor
  · rintro ⟨j, there, here, waiting, rfl⟩
    obtain ⟨idle, q, queued, still⟩ := awaits_iff.mp waiting
    rw [Table.find?_modify] at there
    split at there
    · rename_i same
      rw [same, found] at there
      cases there
      cases idle
    · rename_i other
      have apart : j.orderId ≠ job.orderId := by
        intro same
        exact other (sound.oneJob _ _ _ _ (Db.floor_job there) (Db.floor_job found) same)
      rw [others _ apart] at queued
      exact ⟨fun same => other (ticket_injective same), j, there, here,
        awaits_iff.mpr ⟨idle, q, queued, still⟩, rfl⟩
  · rintro ⟨different, j, there, here, waiting, rfl⟩
    obtain ⟨idle, q, queued, still⟩ := awaits_iff.mp waiting
    have other : j.id ≠ job.id := by
      intro same
      rw [same, found] at there
      cases there
      exact different rfl
    have apart : j.orderId ≠ job.orderId := by
      intro same
      exact other (sound.oneJob _ _ _ _ (Db.floor_job there) (Db.floor_job found) same)
    refine ⟨j, ?_, here, awaits_iff.mpr ⟨idle, q, (others _ apart).trans queued, still⟩, rfl⟩
    rw [Table.find?_modify, if_neg other, there]

/-- What a call that dispatches does: the job that is next leaves the line. -/
theorem dispatchNextOrderResult_line {fresh : ProductionService.FreshCommand}
    (sound : db.floor.Sound)
    (h : Ran (ProductionService.dispatchNextOrderResult env terminalId fresh now) db .dispatched db') :
    ∃ job, db.jobs.find? job.id = some job ∧ job.terminalId = terminalId ∧
      awaits db job = true ∧ (∀ x ∈ line db terminalId, ticket job ≤ x) ∧
      (∀ j, db.Sends db' j → j = job.id) ∧
      line db' terminalId = (line db terminalId).erase (ticket job) := by
  simp only [ProductionService.dispatchNextOrderResult, terminalForUpdate, activeJobExists,
    PickupRepository.blocked, findWithTerminal, lockJob, ran_read_bind] at h
  split at h
  · simp [ran_pure] at h
  · simp only [ran_ite, ran_read_bind, ran_pure] at h
    rcases h with ⟨-, stopped, -⟩ | ⟨-, ⟨-, stopped, -⟩ | ⟨-, ⟨-, stopped, -⟩ |
      ⟨-, ⟨-, stopped, -⟩ | ⟨-, ⟨-, stopped, -⟩ | ⟨-, h⟩⟩⟩⟩⟩
    iterate 5 cases stopped
    rw [ran_bind] at h
    obtain ⟨next, t, picked, h⟩ := h
    obtain rfl : t = db := by
      simp only [nextQueuedJob, ran_read] at picked
      exact picked.2.symm
    cases next with
    | none => simp [ran_pure] at h
    | some job =>
        obtain ⟨found, here, waiting, least⟩ := nextQueuedJob_least picked
        obtain ⟨idle, order, ordered, queued⟩ := awaits_iff.mp waiting
        simp only [ran_read_bind] at h
        rw [ran_ite] at h
        rcases h with ⟨-, h⟩ | ⟨-, h⟩
        · simp only [ran_bind, ran_pure] at h
          obtain ⟨_, t', sent, -, rfl⟩ := h
          have hosted := sound.hosted _ _ (Db.floor_order ordered)
          have jobs := (dispatchJob_rows ordered queued hosted sent).1
          refine ⟨job, found, here, waiting, least, fun j moved => ?_,
            line_dispatchJob sound found ordered queued sent terminalId⟩
          by_contra other
          obtain ⟨⟨a, before, waits⟩, b, after, gone⟩ := moved
          rw [jobs, Table.find?_modify, if_neg other, before] at after
          cases after
          rw [waits] at gone
          cases gone
        · simp [ran_pure] at h

end OrderRepository

section Queue
open OrderRepository
variable {env : Env} {terminalId : Id} {db db' : Db} {o q : Order} {j k : Job} {js : List Id}

theorem Serving.tickets (serving : Serving env terminalId db js db') (sound : db.floor.Sound) :
    ∃ xs, Line.Served (line db terminalId) xs (line db' terminalId) ∧
      xs.map (fun x => (ofLex x).2) = js := by
  induction serving with
  | stop db => exact ⟨[], .stop _, rfl⟩
  | @dispatch db t db' j js fresh now sent moved rest ih =>
      obtain ⟨job, found, here, waiting, least, only, left⟩ := dispatchNextOrderResult_line sound sent
      have refined := ProductionService.dispatchNextOrderResult_effect sent
      obtain ⟨xs, served, same⟩ := ih (refined.floorSound sound)
      rw [left] at served
      refine ⟨ticket job :: xs, .next (mem_line.mpr ⟨job, found, here, waiting, rfl⟩) least served, ?_⟩
      rw [List.map_cons, same, only j moved]
      rfl
  | pass stands same rest ih =>
      rw [← same]
      exact ih stands

section Waiting
variable (waits : db.Waits terminalId o j)
include waits

theorem Db.Waits.same (other : db.Waits terminalId o k) (sound : db.floor.Sound) : k = j := by
  have id := sound.oneJob _ _ _ _ (Db.floor_job other.job) (Db.floor_job waits.job)
    (other.mine.trans waits.mine.symm)
  have found := other.job
  rw [id, waits.job] at found
  exact (Option.some.inj found).symm

theorem Db.Waits.awaiting (sound : db.floor.Sound) : awaits db j = true := by
  obtain ⟨s, ⟨e, placed, stands⟩, together⟩ := sound.coordinated _ _ (Db.floor_job waits.job)
  have ordered : db.orders.find? j.orderId = some o := waits.mine ▸ waits.order
  cases (Db.floor_order ordered).symm.trans placed
  obtain rfl : o.status = s := stands
  rw [waits.queued] at together
  refine awaits_iff.mpr ⟨?_, o, ordered, waits.queued⟩
  have only (s : JobStatus) (c : Option CommandStatus)
      (h : Coordinated .queued (some (s, c)) = true) : s = .queued := by
    revert h
    cases s <;> simp [Coordinated]
  exact only _ _ together

theorem Db.Waits.at (housed : db.floor.Housed) : j.terminalId = terminalId := by
  obtain ⟨e, placed, here⟩ := housed _ _ (Db.floor_job waits.job)
  have ordered : db.orders.find? j.orderId = some o := waits.mine ▸ waits.order
  cases (Db.floor_order ordered).symm.trans placed
  exact here.symm.trans waits.here

theorem Db.Waits.inLine (sound : db.floor.Sound) (housed : db.floor.Housed) :
    ticket j ∈ line db terminalId :=
  mem_line.mpr ⟨j, waits.job, waits.at housed, waits.awaiting sound, rfl⟩

theorem Db.Waits.served (sound : db.floor.Sound) {before after : List Id}
    (serving : Serving env terminalId db (before ++ j.id :: after) db') :
    before.length = Line.rank (line db terminalId) (ticket j) := by
  obtain ⟨xs, served, same⟩ := serving.tickets sound
  obtain ⟨xs₁, xs₂, rfl, first, second⟩ := List.map_eq_append_iff.mp same
  obtain ⟨x, ys, rfl, id, -⟩ := List.map_eq_cons_iff.mp second
  obtain ⟨k, found, -, -, rfl⟩ := mem_line.mp (served.mem x (by simp))
  have same : k = j := by
    rw [show k.id = j.id from id, waits.job] at found
    exact (Option.some.inj found).symm
  rw [← first, List.length_map, ← same]
  exact served.before rfl

theorem Db.Waits.own (sound : db.floor.Sound) :
    db.jobs.first? (fun k => k.orderId = o.id) = some j := by
  cases found : db.jobs.first? fun k => k.orderId = o.id with
  | none =>
      have none := Table.first?_none.mp found j (Table.mem_of_find? waits.job)
      simp [waits.mine] at none
  | some k =>
      obtain ⟨mem, mine⟩ := Table.first?_some found
      have other : db.Waits terminalId o k :=
        ⟨waits.order, waits.here, waits.queued, Table.find?_of_mem mem, by simpa using mine⟩
      rw [waits.same other sound]

/-- The jobs counted ahead of an order are those before its own in the line. -/
theorem Db.Waits.ahead (sound : db.floor.Sound) :
    queuedAhead db o = Line.rank (line db terminalId) (ticket j) := by
  have perm := (List.perm_insertionSort (fun a b : Job => decide (ticket a ≤ ticket b) = true)
    (db.jobs.rows.filter fun k => k.terminalId = o.terminalId && k.orderId ≠ o.id &&
      (db.orders.find? k.orderId).isSome &&
      (k.status ∈ activeJobs || (awaits db k && ticket k < ticket j)))).filter (·.status = .queued)
  have counted : queuedAhead db o = (db.jobs.rows.filter fun k =>
      (k.terminalId = terminalId && awaits db k) && ticket k < ticket j).length := by
    simp only [queuedAhead, queueContext, Table.select, waits.own sound,
      Option.any_some]
    rw [perm.length_eq, List.filter_filter]
    congr 1
    apply List.filter_congr
    intro k mem
    rw [Bool.eq_iff_iff]
    simp only [Bool.and_eq_true, Bool.or_eq_true, decide_eq_true_eq, waits.here]
    constructor
    · rintro ⟨queued, ⟨⟨here, -⟩, -⟩, active | ahead⟩
      · rw [queued] at active
        exact absurd active (by decide)
      · exact ⟨⟨here, ahead.1⟩, ahead.2⟩
    · rintro ⟨⟨here, waiting⟩, before⟩
      obtain ⟨queued, r, ordered, -⟩ := awaits_iff.mp waiting
      refine ⟨queued, ⟨⟨here, fun mine => ?_⟩, Option.isSome_of_eq_some ordered⟩,
        .inr ⟨waiting, before⟩⟩
      have other : db.Waits terminalId o k :=
        ⟨waits.order, waits.here, waits.queued, Table.find?_of_mem mem, mine⟩
      rw [waits.same other sound] at before
      exact lt_irrefl _ before
  have nodup : ((db.jobs.rows.filter fun k =>
      (k.terminalId = terminalId && awaits db k) && ticket k < ticket j).map ticket).Nodup := by
    refine List.Nodup.of_map (fun x => (ofLex x).2) ?_
    rw [List.map_map]
    exact Table.nodup_keysWhere _ _
  rw [counted, ← List.length_map ticket, ← List.toFinset_card_of_nodup nodup, Line.rank]
  congr 1
  ext x
  simp only [line, List.mem_toFinset, List.mem_map, List.mem_filter, Finset.mem_filter,
    Bool.and_eq_true, decide_eq_true_eq]
  constructor
  · rintro ⟨k, ⟨mem, stands, before⟩, rfl⟩
    exact ⟨⟨k, ⟨mem, stands⟩, rfl⟩, before⟩
  · rintro ⟨⟨k, ⟨mem, stands⟩, rfl⟩, before⟩
    exact ⟨k, ⟨mem, stands, before⟩, rfl⟩

theorem Db.Waits.placed : placedAt db o.id = o.createdAt := by
  rw [placedAt, waits.order, Option.map_some, Option.getD_some]

theorem Db.Waits.ticket_of (sound : db.floor.Sound) : ticketOf db o.id = ticket j := by
  rw [ticketOf, waits.own sound, Option.map_some, Option.getD_some]

/-- An order's position counts the waiting orders created no later. -/
theorem Db.Waits.position : db.queuePosition o =
    ((waiting db terminalId).filter fun q => placedAt db q ≤ o.createdAt).card := by
  have position : db.queuePosition o = (db.orders.keysWhere fun q =>
      q.terminalId = o.terminalId && q.status = .queued && q.createdAt ≤ o.createdAt).length := by
    rw [Table.length_keysWhere, Db.queuePosition, if_neg (not_not.mpr waits.queued)]
  rw [position, ← List.toFinset_card_of_nodup (Table.nodup_keysWhere _ _)]
  congr 1
  ext q
  rw [Finset.mem_filter]
  simp only [waiting, List.mem_toFinset, Table.mem_keysWhere, waits.here,
    placedAt, Bool.and_eq_true, decide_eq_true_eq]
  constructor
  · rintro ⟨r, found, stands, before⟩
    exact ⟨⟨r, found, stands⟩, by simpa [found] using before⟩
  · rintro ⟨⟨r, found, stands⟩, before⟩
    exact ⟨r, found, stands, by simpa [found] using before⟩

end Waiting

theorem mem_waiting {x : Id} (sound : db.floor.Sound) : x ∈ waiting db terminalId ↔
    ∃ o j, db.Waits terminalId o j ∧ o.id = x := by
  simp only [waiting, List.mem_toFinset, Table.mem_keysWhere, Bool.and_eq_true, decide_eq_true_eq]
  constructor
  · rintro ⟨o, found, here, queued⟩
    obtain rfl : o.id = x := Table.key_of_find? found
    have jobless (none : db.floor.Jobless o.id) : False := by
      have absent := sound.jobless o.id o.status ⟨_, Db.floor_order found, rfl⟩ none
      rw [queued] at absent
      cases absent
    by_contra missing
    refine jobless fun j e hj mine => missing ?_
    obtain ⟨job, row, rfl⟩ := (Table.view_eq_some _).mp hj
    obtain rfl : job.id = j := Table.key_of_find? row
    exact ⟨o, job, ⟨found, here, queued, row, mine⟩, rfl⟩
  · rintro ⟨o, j, waits, rfl⟩
    exact ⟨o, waits.order, waits.here, waits.queued⟩

theorem injOn_ticketOf (sound : db.floor.Sound) :
    Set.InjOn (ticketOf db) (waiting db terminalId) := by
  intro x hx y hy same
  obtain ⟨o, j, waits, rfl⟩ := (mem_waiting sound).mp hx
  obtain ⟨q, k, waits', rfl⟩ := (mem_waiting sound).mp hy
  rw [waits.ticket_of sound, waits'.ticket_of sound] at same
  have found := waits.job
  rw [ticket_injective same, waits'.job] at found
  cases found
  exact waits.mine.symm.trans waits'.mine

theorem line_eq_image (sound : db.floor.Sound) (housed : db.floor.Housed) :
    line db terminalId = (waiting db terminalId).image (ticketOf db) := by
  ext x
  rw [Finset.mem_image]
  constructor
  · intro mem
    obtain ⟨j, found, here, awaiting, rfl⟩ := mem_line.mp mem
    obtain ⟨-, o, ordered, queued⟩ := awaits_iff.mp awaiting
    obtain ⟨e, placed, at'⟩ := housed _ _ (Db.floor_job found)
    cases (Db.floor_order ordered).symm.trans placed
    have key : o.id = j.orderId := Table.key_of_find? ordered
    have waits : db.Waits terminalId o j :=
      ⟨key ▸ ordered, at'.trans here, queued, found, key.symm⟩
    exact ⟨o.id, (mem_waiting sound).mpr ⟨o, j, waits, rfl⟩, waits.ticket_of sound⟩
  · rintro ⟨y, mem, rfl⟩
    obtain ⟨o, j, waits, rfl⟩ := (mem_waiting sound).mp mem
    rw [waits.ticket_of sound]
    exact waits.inLine sound housed

/-- Positions count the places in the line exactly where orders and jobs were created alike. -/
theorem position_eq_iff (sound : db.floor.Sound) (housed : db.floor.Housed) :
    (∀ o j, db.Waits terminalId o j →
      db.queuePosition o = Line.rank (line db terminalId) (ticket j) + 1) ↔
        db.InTurn terminalId := by
  have counts := Line.counts_iff (w := waiting db terminalId) (c := placedAt db)
    (injOn_ticketOf sound)
  rw [← line_eq_image sound housed] at counts
  constructor
  · intro positions o j q k waits waits'
    have agree := counts.mp (fun x mem => ?_) q.id ((mem_waiting sound).mpr ⟨q, k, waits', rfl⟩)
      o.id ((mem_waiting sound).mpr ⟨o, j, waits, rfl⟩)
    · rwa [waits.placed, waits'.placed, waits.ticket_of sound, waits'.ticket_of sound] at agree
    · obtain ⟨o, j, waits, rfl⟩ := (mem_waiting sound).mp mem
      rw [waits.placed, waits.ticket_of sound, ← waits.position]
      exact positions o j waits
  · intro inTurn o j waits
    have count := counts.mpr (fun x hx y hy => ?_) o.id ((mem_waiting sound).mpr ⟨o, j, waits, rfl⟩)
    · rwa [waits.placed, waits.ticket_of sound, ← waits.position] at count
    · obtain ⟨q, k, waits', rfl⟩ := (mem_waiting sound).mp hx
      obtain ⟨o, j, waits, rfl⟩ := (mem_waiting sound).mp hy
      rw [waits.placed, waits'.placed, waits.ticket_of sound, waits'.ticket_of sound]
      exact inTurn o j q k waits waits'

theorem Db.Shows.of_positions (sound : db.floor.Sound) (housed : db.floor.Housed)
    (positions : ∀ o j, db.Waits terminalId o j →
      db.queuePosition o = Line.rank (line db terminalId) (ticket j) + 1) :
    db.Shows env terminalId where
  view o j waits := by
    have hosted : (db.terminals.find? o.terminalId).isSome = true :=
      sound.hosted _ _ (Db.floor_order waits.order)
    simp [Db.publicViewPosition, Db.queuePosition, waits.order, waits.queued, hosted]
  ahead o j waits := by rw [positions o j waits, waits.ahead sound]
  served o j waits before after db' serving := by
    rw [positions o j waits, waits.served sound serving]
  distinct o j q k waits waits' different same := by
    rw [positions o j waits, positions q k waits'] at same
    have upTo : ticket j ≤ ticket k :=
      Line.le_of_rank_le (waits'.inLine sound housed) (by omega)
    have downTo : ticket k ≤ ticket j :=
      Line.le_of_rank_le (waits.inLine sound housed) (by omega)
    have tickets : ticketOf db o.id = ticketOf db q.id := by
      rw [waits.ticket_of sound, waits'.ticket_of sound]
      exact le_antisymm upTo downTo
    exact different (injOn_ticketOf sound
      ((mem_waiting sound).mpr ⟨o, j, waits, rfl⟩) ((mem_waiting sound).mpr ⟨q, k, waits', rfl⟩)
      tickets)

theorem Db.shows_iff (sound : db.floor.Sound) (housed : db.floor.Housed) :
    db.Shows env terminalId ↔ db.InTurn terminalId := by
  rw [← position_eq_iff sound housed]
  constructor
  · intro shows o j waits
    rw [shows.ahead o j waits, waits.ahead sound]
  · exact fun positions => .of_positions sound housed positions

end Queue

namespace System

theorem run_housed {env : Env} (as : List Action) :
    ((machine env).run {} as).db.floor.Housed := by
  refine (run_refines sound_empty as).housed sound_empty.floor fun j e hj => ?_
  simp [Db.floor, Table.view] at hj

/-- Whatever was done, customers are shown the queue that is served exactly where the orders that
wait were created in the order of their jobs. -/
theorem run_shows_iff (env : Env) (as : List Action) (terminalId : Id) :
    ((machine env).run {} as).db.Shows env terminalId ↔
      ((machine env).run {} as).db.InTurn terminalId :=
  Db.shows_iff (sound_run sound_empty as).floor (run_housed as)

/-- Two customers order, and the second pays first. -/
def crossed : List Action :=
  [ .setTerminal { id := 0, deviceId := "robot" },
    .createOrder
      { identifier := "robot", paymentMode := .online, idempotencyKey := "first"
        requestDigest := "digest", accessToken := "token" }
      .online (.ok espresso) ⟨0, 0, "task"⟩ 1,
    .createOrder
      { identifier := "robot", paymentMode := .online, idempotencyKey := "second"
        requestDigest := "digest", accessToken := "token" }
      .online (.ok espresso) ⟨1, 1, "task"⟩ 2,
    .createPayment
      { orderId := 1, provider := none, accessToken := some "token", idempotencyKey := "early" }
      1 "M1" 3,
    .callback "mock" "early" [("out_trade_no", "M1"), ("amount_minor", "500")] (freshRefund 1) 1 3,
    .outboxBatch [1] (fun _ => false) (fun _ => ⟨1, "task1"⟩) 4,
    .createPayment
      { orderId := 0, provider := none, accessToken := some "token", idempotencyKey := "late" }
      0 "M0" 5,
    .callback "mock" "late" [("out_trade_no", "M0"), ("amount_minor", "500")] (freshRefund 0) 0 5,
    .outboxBatch [0] (fun _ => false) (fun _ => ⟨0, "task0"⟩) 6 ]

/-- The first customer is shown the first place, behind which the second is served. -/
theorem crossed_shows : ¬ ((machine shop).run {} crossed).db.Shows shop 0 := by
  intro shows
  have sound : ((machine shop).run {} crossed).db.floor.Sound := (sound_run sound_empty crossed).floor
  generalize reached : ((machine shop).run {} crossed).db = db at shows sound
  have apart : (db.orders.find? 0).any (fun o => o.terminalId = 0 && o.status = .queued &&
      db.queuePosition o ≠ OrderRepository.queuedAhead db o + 1) = true := by
    subst reached
    decide +kernel
  obtain ⟨o, found, apart⟩ := (Option.any_eq_true _ _).mp apart
  simp only [Bool.and_eq_true, decide_eq_true_eq] at apart
  have waits : 0 ∈ waiting db 0 := by
    simp only [waiting, List.mem_toFinset, Table.mem_keysWhere, Bool.and_eq_true, decide_eq_true_eq]
    exact ⟨o, found, apart.1⟩
  obtain ⟨q, j, waits, key⟩ := (mem_waiting sound).mp waits
  have ordered := waits.order
  rw [key, found] at ordered
  cases ordered
  exact apart.2 (shows.ahead o j waits)

end System

end CoffeeCloud
