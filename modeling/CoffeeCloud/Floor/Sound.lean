import CoffeeCloud.Floor

/-!
The floor stays sound: work assigns one job anew with its order and command,
moves an order that has no job, or moves commands within what their jobs allow.
-/
namespace CoffeeCloud
open Library

namespace Floor

theorem coordinated_refunded : ∀ x, Coordinated .failed (some x) = true →
    Coordinated .refunded (some x) = true := by
  rintro ⟨j, _ | c⟩
  · cases j <;> decide
  · cases j <;> cases c <;> decide

/-- A command on its way to the device belongs to a dispatched job. -/
theorem coordinated_handOver {s : OrderStatus} {j : JobStatus} {c c' : CommandStatus}
    (before : c ∈ [.created, .delivering]) (after : c' ∈ [.delivering, .published])
    (together : Coordinated s (some (j, some c)) = true) :
    Coordinated s (some (j, some c')) = true := by
  simp only [List.mem_cons, List.not_mem_nil, or_false] at before after
  revert together
  rcases before with rfl | rfl <;> rcases after with rfl | rfl <;> cases s <;> cases j <;> decide

/-- Before its dispatch an order has a job only while it is queued. -/
theorem coordinated_start {s : OrderStatus} {j : JobStatus} {c : Option CommandStatus}
    (start : s ∈ [.created, .awaitingPayment, .queued])
    (together : Coordinated s (some (j, c)) = true) : s = .queued ∧ j = .queued ∧ c = none := by
  simp only [List.mem_cons, List.not_mem_nil, or_false] at start
  rcases start with rfl | rfl | rfl
  · simp [Coordinated] at together
  · simp [Coordinated] at together
  · cases c with
    | none => cases j <;> simp [Coordinated] at together ⊢
    | some c => cases j <;> simp [Coordinated] at together

/-- An order is accepted from DISPATCHED or ACCEPTED, and so is its job. -/
theorem coordinated_accepted {s t : OrderStatus} {j : JobStatus} {c : Option CommandStatus}
    {d : CommandStatus} (before : Coordinated s (some (j, c)) = true)
    (legal : t = s ∨ t ∈ orderTransitions s)
    (after : Coordinated t (some (.accepted, some d)) = true) :
    j ∈ [.queued, .dispatched, .accepted] := by
  have accepted : t = .accepted := by
    revert after
    cases t <;> cases d <;> decide
  subst accepted
  have early : s = .accepted ∨ s = .dispatched := by
    revert legal
    cases s <;> decide
  revert before
  rcases early with rfl | rfl <;> cases c <;> cases j <;> simp [Coordinated]

variable {f f' : Floor} {o j : Nat} {s s' : OrderStatus} {oe oe' : OrderPlace} {e e' : JobEntry}
attribute [local grind =] put_apply adjust_apply

@[simp] theorem at_of_some (ho : f.orders o = some oe) : f.At o s ↔ oe.status = s := by
  simp [At, ho]

theorem at_put {orders : Nat → Option OrderPlace} (h : f.orders = put orders o oe) (i : Nat) :
    f.At i s ↔ if i = o then oe.status = s else ∃ e, orders i = some e ∧ e.status = s := by
  rw [At, h]
  by_cases hi : i = o <;> simp [put_apply, hi]

/-- What may change when job `j` of order `o` is assigned anew, its command with it. -/
structure Assign (f f' : Floor) (o j : Nat) (oe' : OrderPlace) (e' : JobEntry) : Prop where
  terminals : f'.terminals = f.terminals
  hosted : f.terminals oe'.terminal
  orders : f'.orders = put f.orders o oe'
  jobs : f'.jobs = put f.jobs j e'
  commands : ∀ c, e'.command ≠ some c → f'.commands c = f.commands c
  mine : e'.order = o
  alone : ∀ k e, f.jobs k = some e → k ≠ j → e.order ≠ o
  unshared : ∀ k e c, f.jobs k = some e → k ≠ j → e'.command = some c → e.command ≠ some c
  moved : ∀ e, f.jobs j = some e → e.order = o

theorem Assign.jobless (w : Assign f f' o j oe' e') {i : Nat} (h : f'.Jobless i) :
    i ≠ o ∧ f.Jobless i := by
  refine ⟨?_, ?_⟩
  · rintro rfl
    exact h j e' (by simp [w.jobs]) w.mine
  · intro k e hk hi
    by_cases hkj : k = j
    · subst hkj
      have := w.moved e hk
      exact h k e' (by simp [w.jobs]) (w.mine.trans (this.symm.trans hi))
    · exact h k e (by rw [w.jobs, put_of_ne hkj, hk]) hi

theorem Sound.assign (h : f.Sound) (w : Assign f f' o j oe' e')
    (together : Coordinated oe'.status (some (e'.status, f'.commandStatus e')))
    (bound : ∀ c, e'.command = some c → ∃ ce, f'.commands c = some ce ∧ ce.production = true ∧
      ce.terminal = e'.terminal ∧ ce.task = some e'.task)
    (neat : e'.Neat) : f'.Sound := by
  have elsewhere (k : Nat) (e : JobEntry) (hk : f'.jobs k = some e) :
      k = j ∧ e = e' ∨ k ≠ j ∧ f.jobs k = some e := by
    rw [w.jobs, put_apply] at hk
    split at hk
    · cases hk
      exact .inl ⟨‹_›, rfl⟩
    · exact .inr ⟨‹_›, hk⟩
  have untouched (k : Nat) (e : JobEntry) (c : Nat) (hk : f.jobs k = some e) (hkj : k ≠ j)
      (hc : e.command = some c) : f'.commands c = f.commands c :=
    w.commands c fun shared => w.unshared k e c hk hkj shared hc
  constructor
  case hosted =>
    have := h.hosted
    have := w.hosted
    simp only [w.orders, w.terminals]
    grind
  case coordinated =>
    intro k e hk
    rcases elsewhere k e hk with ⟨rfl, rfl⟩ | ⟨hkj, hk⟩
    · exact ⟨oe'.status, by simp [at_put w.orders, w.mine], together⟩
    · obtain ⟨s, ho, coordinated⟩ := h.coordinated k e hk
      refine ⟨s, by rwa [at_put w.orders, if_neg (w.alone k e hk hkj)], ?_⟩
      have : f'.commandStatus e = f.commandStatus e := by
        cases hc : e.command with
        | none => simp [commandStatus, hc]
        | some c => simp [commandStatus, hc, untouched k e c hk hkj hc]
      rwa [this]
  case jobless =>
    intro i s hi none
    obtain ⟨hio, none⟩ := w.jobless none
    rw [at_put w.orders, if_neg hio] at hi
    exact h.jobless i s hi none
  case oneJob =>
    intro k k' e₁ e₂ h₁ h₂ same
    have := h.oneJob
    have := w.alone
    have := w.mine
    grind
  case oneBinding =>
    intro k k' e₁ e₂ c h₁ h₂ c₁ c₂
    have := h.oneBinding
    have := w.unshared
    grind
  case bound =>
    intro k e c hk hc
    rcases elsewhere k e hk with ⟨rfl, rfl⟩ | ⟨hkj, hk⟩
    · exact bound c hc
    · rw [untouched k e c hk hkj hc]
      exact h.bound k e c hk hc
  case neat =>
    intro k e hk
    rcases elsewhere k e hk with ⟨rfl, rfl⟩ | ⟨-, hk⟩
    · exact neat
    · exact h.neat k e hk

/-- A job that keeps its order and its command is assigned anew without touching another. -/
theorem Sound.reassign (h : f.Sound) (hj : f.jobs j = some e) (ho : f.orders e.order = some oe)
    (s' : OrderStatus) (f' : Floor) (e' : JobEntry) (terminals : f'.terminals = f.terminals)
    (orders : f'.orders = put f.orders e.order { oe with status := s' })
    (jobs : f'.jobs = put f.jobs j e') (mine : e'.order = e.order)
    (command : e'.command = e.command)
    (commands : ∀ c, e.command ≠ some c → f'.commands c = f.commands c) :
    Assign f f' e.order j { oe with status := s' } e' where
  terminals := terminals
  hosted := h.hosted _ oe ho
  orders := orders
  jobs := jobs
  commands c hc := commands c (command ▸ hc)
  mine := mine
  alone k e₁ hk hkj same := hkj (h.oneJob k j e₁ e hk hj same)
  unshared k e₁ c hk hkj hc hc₁ := hkj (h.oneBinding k j e₁ e c hk hj hc₁ (command ▸ hc))
  moved e₁ h₁ := by
    cases hj.symm.trans h₁
    rfl

theorem Sound.coordinate (h : f.Sound) {c : Nat} {order : OrderStatus} {job : JobStatus}
    {command : CommandStatus} {revision attempt version : Int}
    (hok : f.ok (.coordinate o j c order job command revision attempt version)) :
    (apply (.coordinate o j c order job command revision attempt version) f).Sound := by
  obtain ⟨together, later, s, e, stands, legal, hj, rfl, hcommand, -⟩ := hok
  obtain ⟨oe, ho, -⟩ := id stands
  obtain ⟨ce, hc, production, terminal, task⟩ := h.bound j e c hj hcommand
  have w := h.reassign hj ho order
    (apply (.coordinate e.order j c order job command revision attempt version) f)
    { e with
      status := job, review := job = .hold, revision, attempt, version
      started := e.started || job = .executing } rfl
    (by simp only [apply, setOrder, adjust_of_some ho]) (by simp only [apply, adjust_of_some hj])
    rfl rfl fun c' hc' => by
      simp only [apply, adjust_of_ne fun same : c' = c => hc' (same ▸ hcommand), setOrder]
  refine h.assign w ?_ (fun c' hc' => ?_) ⟨by simp, fun early => absurd early later, ?_⟩
  · simpa [commandStatus, hcommand, apply, adjust_of_some hc] using together
  · cases hcommand.symm.trans hc'
    exact ⟨{ ce with status := command }, by simp [apply, adjust_of_some hc], production, terminal,
      task⟩
  · -- Of these only ACCEPTED is left, and its order came from DISPATCHED or ACCEPTED.
    intro early
    have accepted : job = .accepted := by
      simp only [List.mem_cons, List.not_mem_nil, or_false, not_or] at early later
      rcases early with queued | dispatched | accepted
      · exact absurd queued later.1
      · exact absurd dispatched later.2
      · exact accepted
    subst accepted
    obtain ⟨s', stands', before⟩ := h.coordinated j e hj
    rw [at_of_some ho] at stands stands'
    have early := coordinated_accepted (stands ▸ stands' ▸ before) legal together
    simp [(h.neat j e hj).idle early]

theorem Sound.cancelQueued (h : f.Sound) (hok : f.ok (.cancelQueued o j)) :
    (apply (.cancelQueued o j) f).Sound := by
  obtain ⟨⟨oe, ho, waiting⟩, e, hj, rfl, queued⟩ := hok
  obtain ⟨s, hs, together⟩ := h.coordinated j e hj
  rw [at_of_some ho, waiting] at hs
  subst hs
  have free : e.command = none := by
    rw [queued] at together
    cases hc : e.command with
    | none => rfl
    | some c =>
        obtain ⟨ce, hce, -⟩ := h.bound j e c hj hc
        simp [commandStatus, hc, hce, Coordinated] at together
  have w := h.reassign hj ho .cancelled (apply (.cancelQueued e.order j) f)
    { e with status := .cancelled, version := e.version + 1 } rfl
    (by simp only [apply, setOrder, adjust_of_some ho]) (by simp only [apply, adjust_of_some hj])
    rfl rfl fun _ _ => rfl
  refine h.assign w ?_ (fun c hc => ?_) ⟨?_, by simp, by simp⟩
  · simp [commandStatus, free, Coordinated]
  · simp [free] at hc
  · have := (h.neat j e hj).review
    simpa [queued] using this

/-- A new queued job on an order that had none. -/
theorem Sound.newJob (h : f.Sound) (oe : OrderPlace) (terminal : Nat) (task : String)
    (alone : f.Jobless o)
    (new : f.jobs j = none) (queued : oe.status = .queued)
    (hosted : f.terminals oe.terminal) :
    Sound { f with
      orders := put f.orders o oe
      jobs := put f.jobs j (queuedJob o terminal task) } := by
  refine h.assign ⟨rfl, hosted, rfl, rfl, fun _ _ => rfl, rfl, fun k e hk _ => alone k e hk, ?_, ?_⟩
    ?_ ?_ ⟨by simp [queuedJob], fun _ => ⟨rfl, rfl⟩, fun _ => rfl⟩
  · intro k e c _ _ hc
    simp [queuedJob] at hc
  · intro e he
    simp [new] at he
  · simp [commandStatus, queuedJob, Coordinated, queued]
  · intro c hc
    simp [queuedJob] at hc

theorem Sound.queue (h : f.Sound) {terminal : Nat} {task : String}
    (hok : f.ok (.queue o j terminal task)) : (apply (.queue o j terminal task) f).Sound := by
  obtain ⟨alone, ⟨oe, ho, -⟩, new, -⟩ := hok
  have := h.newJob { oe with status := .queued } terminal task alone new rfl (h.hosted o oe ho)
  simpa only [apply, setOrder, adjust_of_some ho] using this

theorem Sound.dispatch (h : f.Sound) {c terminal : Nat} (hok : f.ok (.dispatch o j c terminal)) :
    (apply (.dispatch o j c terminal) f).Sound := by
  obtain ⟨⟨oe, ho, -⟩, new, e, hj, rfl, queued, rfl⟩ := hok
  have w : Assign f (apply (.dispatch e.order j c e.terminal) f) e.order j
      { oe with status := .dispatched } 
      { e with status := .dispatched, command := some c, version := e.version + 1 } := by
    refine ⟨rfl, h.hosted _ oe ho, ?_, ?_, fun c' hc' => ?_, rfl,
      fun k e₁ hk hkj same => hkj (h.oneJob k j e₁ e hk hj same), fun k e₁ c' hk _ hc' hc₁ => ?_,
      fun e₁ h₁ => ?_⟩
    · simp only [apply, setOrder, adjust_of_some ho]
    · simp only [apply, adjust_of_some hj]
    · simp only [apply, put_of_ne fun same : c' = c => hc' (congrArg some same.symm), setOrder]
    · cases hc'
      obtain ⟨ce, hce, -⟩ := h.bound k e₁ c hk hc₁
      simp [new] at hce
    · cases hj.symm.trans h₁
      rfl
  have neat := h.neat j e hj
  refine h.assign w ?_ (fun c' hc' => ?_)
    ⟨?_, fun _ => neat.fresh (by simp [queued]), fun _ => neat.idle (by simp [queued])⟩
  · simp [commandStatus, apply, Coordinated]
  · cases hc'
    exact ⟨_, put_same _ _ _, rfl, rfl, by simp [hj]⟩
  · simpa [queued] using neat.review

theorem Sound.progress (h : f.Sound) {revision attempt version : Int}
    (hok : f.ok (.progress j revision attempt version)) :
    (apply (.progress j revision attempt version) f).Sound := by
  obtain ⟨e, hj, executing, -⟩ := hok
  obtain ⟨s, ⟨oe, ho, rfl⟩, together⟩ := h.coordinated j e hj
  have w := h.reassign hj ho oe.status (apply (.progress j revision attempt version) f)
    { e with revision, attempt, version } rfl
    (by rw [← adjust_of_some (g := fun s => s) ho, adjust_id]; rfl)
    (by simp only [apply, adjust_of_some hj]) rfl rfl fun _ _ => rfl
  exact h.assign w together (h.bound j e · hj)
    ⟨(h.neat j e hj).review, by simp [executing], by simp [executing]⟩

/-- An order without a job moves among the states that have none. -/
theorem Sound.reorder (h : f.Sound) (oe : OrderPlace) (alone : f.Jobless o) (hosted : f.terminals oe.terminal)
    (single : Coordinated oe.status none) : Sound { f with orders := put f.orders o oe } := by
  have now (i : Nat) (s : OrderStatus) :=
    at_put (f := { f with orders := put f.orders o oe }) (s := s) rfl i
  refine ⟨?_, fun k e hk => ?_, fun i s hi free => ?_, h.oneJob, h.oneBinding, h.bound, h.neat⟩
  · have := h.hosted
    grind
  · obtain ⟨s, hs, together⟩ := h.coordinated k e hk
    exact ⟨s, by rwa [now, if_neg (alone k e hk).symm.symm], together⟩
  · rw [now] at hi
    split at hi
    · exact hi ▸ single
    · exact h.jobless i s hi free

theorem Sound.jobless_work (h : f.Sound) (hok : f.ok (.jobless o s')) :
    (apply (.jobless o s') f).Sound := by
  obtain ⟨alone, s, ⟨oe, ho, -⟩, -, single⟩ := hok
  have still : Coordinated s' none = true := by
    revert single
    cases s' <;> decide
  have := h.reorder { oe with status := s' } alone (h.hosted o oe ho) still
  simpa only [apply, setOrder, adjust_of_some ho] using this

/-- An order that was not queued yet has no job. -/
theorem Sound.jobless_of_early (h : f.Sound) (hs : f.At o s)
    (early : s ∈ [.created, .awaitingPayment, .paid]) : f.Jobless o := by
  rintro k e hk rfl
  obtain ⟨s', hs', together⟩ := h.coordinated k e hk
  obtain ⟨oe, ho, rfl⟩ := hs
  rw [at_of_some ho] at hs'
  subst hs'
  simp only [List.mem_cons, List.not_mem_nil, or_false] at early
  rcases early with early | early | early <;> simp [early, Coordinated] at together

/-- A bound command that was not delivered belongs to a dispatched job. -/
theorem Sound.dispatched_of_created (h : f.Sound) {c : Nat} {ce : CommandEntry}
    (hj : f.jobs j = some e) (bound : e.command = some c) (hc : f.commands c = some ce)
    (created : ce.status = .created) : f.At e.order .dispatched ∧ e.status = .dispatched := by
  obtain ⟨s, hs, together⟩ := h.coordinated j e hj
  have : f.commandStatus e = some .created := by simp [commandStatus, bound, hc, created]
  rw [this] at together
  have : s = .dispatched ∧ e.status = .dispatched := by
    revert together
    cases s <;> cases e.status <;> simp [Coordinated]
  exact ⟨this.1 ▸ hs, this.2⟩

theorem Sound.unknown_jobless (h : f.Sound) (new : f.orders o = none) : f.Jobless o := by
  intro k e hk same
  obtain ⟨s, ⟨oe, ho, -⟩, -⟩ := h.coordinated k e hk
  simp [same, new] at ho

theorem Sound.refunded (h : f.Sound) (hok : f.ok (.refunded o)) :
    (apply (.refunded o) f).Sound := by
  obtain ⟨oe, ho, failed⟩ := hok
  by_cases none : f.Jobless o
  · have := h.jobless o .failed ⟨oe, ho, failed⟩ none
    simp [Coordinated] at this
  · obtain ⟨j, e, hj, rfl⟩ : ∃ j e, f.jobs j = some e ∧ e.order = o := by
      simpa [Jobless] using none
    obtain ⟨s, hs, together⟩ := h.coordinated j e hj
    rw [at_of_some ho, failed] at hs
    subst hs
    have w := h.reassign hj ho .refunded (apply (.refunded e.order) f) e rfl
      (by simp only [apply, setOrder, adjust_of_some ho])
      (by rw [← adjust_of_some (g := fun e => e) hj, adjust_id]; rfl) rfl rfl fun _ _ => rfl
    refine h.assign w ?_ (h.bound j e · hj) (h.neat j e hj)
    exact coordinated_refunded _ together

/-- Commands change where every bound one still fits its job. -/
theorem Sound.recommand (h : f.Sound) {commands : Nat → Option CommandEntry}
    (fits : ∀ j e c ce s, f.jobs j = some e → e.command = some c → f.commands c = some ce →
      f.At e.order s → Coordinated s (some (e.status, some ce.status)) →
      ∃ ce', commands c = some ce' ∧ ce'.production = ce.production ∧ ce'.terminal = ce.terminal ∧
        ce'.task = ce.task ∧ Coordinated s (some (e.status, some ce'.status))) :
    Sound { f with commands } := by
  have kept (j : Nat) (e : JobEntry) (c : Nat) (hj : f.jobs j = some e) (hc : e.command = some c) :
      ∃ ce ce' s, f.commands c = some ce ∧ commands c = some ce' ∧ f.At e.order s ∧
        ce'.production = ce.production ∧ ce'.terminal = ce.terminal ∧ ce'.task = ce.task ∧
        Coordinated s (some (e.status, some ce'.status)) := by
    obtain ⟨s, ho, together⟩ := h.coordinated j e hj
    obtain ⟨ce, hce, -⟩ := h.bound j e c hj hc
    have : f.commandStatus e = some ce.status := by simp [commandStatus, hc, hce]
    rw [this] at together
    obtain ⟨ce', hce', production, terminal, task, together'⟩ := fits j e c ce s hj hc hce ho together
    exact ⟨ce, ce', s, hce, hce', ho, production, terminal, task, together'⟩
  refine ⟨h.hosted, fun j e hj => ?_, h.jobless, h.oneJob, h.oneBinding, fun j e c hj hc => ?_, h.neat⟩
  · cases hc : e.command with
    | none =>
        obtain ⟨s, ho, together⟩ := h.coordinated j e hj
        exact ⟨s, ho, by simpa [commandStatus, hc] using together⟩
    | some c =>
        obtain ⟨-, ce', s, -, hce', ho, -, -, -, together⟩ := kept j e c hj hc
        exact ⟨s, ho, by simpa [commandStatus, hc, hce'] using together⟩
  · obtain ⟨ce, ce', s, hce, hce', -, production, terminal, task, -⟩ := kept j e c hj hc
    obtain ⟨ce₀, hce₀, facts⟩ := h.bound j e c hj hc
    cases hce.symm.trans hce₀
    exact ⟨ce', hce', production ▸ facts.1, terminal ▸ facts.2.1, task ▸ facts.2.2⟩

theorem Sound.handOver (h : f.Sound) {c : Nat} {status : CommandStatus}
    (hok : f.ok (.handOver c status)) : (apply (.handOver c status) f).Sound := by
  obtain ⟨ce, hc, before, after⟩ := hok
  refine h.recommand fun j e c' ce' s hj hc' hce' ho together => ?_
  by_cases same : c' = c
  · subst same
    cases hc.symm.trans hce'
    refine ⟨{ ce with status }, by rw [adjust_of_some hc, put_same], rfl, rfl, rfl, ?_⟩
    exact coordinated_handOver before after together
  · exact ⟨ce', by rw [adjust_of_ne same, hce'], rfl, rfl, rfl, together⟩

theorem Sound.free (h : f.Sound) {c : Nat} {status : CommandStatus} (hok : f.ok (.free c status)) :
    (apply (.free c status) f).Sound := by
  have unbound : f.Free c := hok.1
  refine h.recommand fun j e c' ce' s hj hc' hce' ho together => ?_
  have other : c' ≠ c := fun same => unbound j e hj (same ▸ hc')
  exact ⟨ce', by rw [adjust_of_ne other, hce'], rfl, rfl, rfl, together⟩

theorem Sound.issue (h : f.Sound) {c : Nat} {e : CommandEntry} (hok : f.ok (.issue c e)) :
    (apply (.issue c e) f).Sound := by
  have new : f.commands c = none := hok
  refine h.recommand fun j e c' ce' s hj hc' hce' ho together => ?_
  have other : c' ≠ c := fun same => by simp [same, new] at hce'
  exact ⟨ce', by rw [put_of_ne other, hce'], rfl, rfl, rfl, together⟩

theorem Sound.take (h : f.Sound) {terminal : Nat} (hok : f.ok (.take o terminal)) :
    (apply (.take o terminal) f).Sound :=
  h.reorder _ (h.unknown_jobless hok.1) hok.2 rfl

theorem Sound.takeQueued (h : f.Sound) {terminal : Nat} {task : String}
    (hok : f.ok (.takeQueued o j terminal task)) :
    (apply (.takeQueued o j terminal task) f).Sound :=
  h.newJob _ _ _ (h.unknown_jobless hok.1) hok.2.1 rfl hok.2.2

theorem Sound.register (h : f.Sound) {t : Nat} : (apply (.register t) f).Sound :=
  ⟨fun o e ho => by simp [apply, h.hosted o e ho], h.coordinated, h.jobless, h.oneJob, h.oneBinding,
    h.bound, h.neat⟩

/-- Neither slips nor rulings bind orders and jobs. -/
theorem Sound.papers (h : f.Sound) (slips : Nat → Option Slip)
    (rulings : Nat × String → Option Ruling) : Sound { f with slips, rulings } :=
  ⟨h.hosted, h.coordinated, h.jobless, h.oneJob, h.oneBinding, h.bound, h.neat⟩

/-- Every piece of work the floor admits keeps it sound. -/
theorem Sound.apply (h : f.Sound) {w : Work} (hok : f.ok w) : (apply w f).Sound := by
  cases w with
  | register t => exact h.register
  | take o terminal => exact h.take hok
  | takeQueued o j terminal task => exact h.takeQueued hok
  | jobless o status => exact h.jobless_work hok
  | queue o j terminal task => exact h.queue hok
  | cancelQueued o j => exact h.cancelQueued hok
  | dispatch o j c terminal => exact h.dispatch hok
  | coordinate o j c order job command revision attempt version => exact h.coordinate hok
  | handOver c status => exact h.handOver hok
  | free c status => exact h.free hok
  | issue c e => exact h.issue hok
  | progress j revision attempt version => exact h.progress hok
  | refunded o => exact h.refunded hok
  | enclose | claim | publish | retry | revoke | discard | rule => exact h.papers _ _

end Floor
end CoffeeCloud
