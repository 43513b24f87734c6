import CoffeeCloud.Gateway.Session

/-!
What holds of the connection in every interleaving. A PUBACK goes out on the connection
its message came over; the gateway counts as connected only when the three subscriptions
of its connection are granted; and what shutdown has taken down stays down.
-/
namespace CoffeeCloud
open Library

namespace LoopAt

/-- The callback has fenced and not accepted a connection since. -/
def fenced : LoopAt → Bool
  | .connecting _ | .accepting | .reconnecting => true
  | _ => false

def subscribes : LoopAt → Bool
  | .subscribing _ | .noting _ _ => true
  | _ => false

/-- How many topics of the connection are still to be asked for, unless it is being dropped. -/
def left : LoopAt → Option Nat
  | .waiting | .granting _ => some 0
  | .subscribing topics => some topics
  | .noting _ topics => some (topics + 1)
  | _ => none

end LoopAt

namespace Session

/-- The messages and the PUBACKs belong to their connections. -/
structure Tagged (s : Session) : Prop where
  current : s.valid → s.acceptedOn = s.socket
  past : ∀ m ∈ s.received, m.generation ≤ s.generation
  ours : s.valid → ∀ m ∈ s.received, m.generation = s.generation → m.socket = s.socket
  sent : ∀ a ∈ s.pubacks, a.item.socket = a.socket

/-- What a connection has asked for and been granted. -/
structure Granted (s : Session) : Prop where
  answered : s.valid → ∀ mid ∈ s.asked, mid ∈ s.pending ∨ mid ∈ s.granted
  three : s.valid → s.alive → ∀ n, s.loop.left = some n → s.asked.length + n = 3
  linked : s.connected → s.valid
  complete : s.connected → s.asked.length = 3 ∧ ∀ mid ∈ s.asked, mid ∈ s.granted
  quiet : s.connected → s.loop.subscribes = false

/-- Where the threads may stand beside one another. -/
structure Placed (s : Session) : Prop where
  fenced : s.loop.fenced → s.valid = false
  granting : ∀ mid, s.loop = .granting mid → s.valid ∧ s.shutdown.step ≤ 1
  dead : s.alive = false → s.loop = .waiting
  recovers : s.supervisor.locks → s.alive = false
  refenced : s.supervisor.fenced → s.valid = false
  stopped : s.stop = true ↔ 1 ≤ s.shutdown.step
  down : 2 ≤ s.shutdown.step → s.connected = false
  alone : 3 ≤ s.shutdown.step → s.supervisor.locks = false
  joined : 5 ≤ s.shutdown.step → s.alive = false
  severed : 6 ≤ s.shutdown.step → s.valid = false

structure Sound (s : Session) : Prop extends Tagged s, Granted s, Placed s

theorem sound_init : Sound {} := by
  refine ⟨⟨?_, ?_, ?_, ?_⟩, ⟨?_, ?_, ?_, ?_, ?_⟩, ⟨?_, ?_, ?_, ?_, ?_, ?_, ?_, ?_, ?_, ?_⟩⟩ <;>
    simp [LoopAt.fenced, SupervisorAt.locks, SupervisorAt.fenced, ShutdownAt.step]

variable {s : Session}

section Fences

/-- A fence, where no step has stopped in the lock. -/
theorem Sound.invalidate (sound : Sound s) (unlocked : s.unlocked) : Sound s.invalidate where
  current live := nomatch live
  past := sound.past
  ours live := nomatch live
  sent := sound.sent
  answered live := nomatch live
  three live := nomatch live
  linked live := nomatch live
  complete live := nomatch live
  quiet live := nomatch live
  fenced _ := rfl
  granting mid held := absurd unlocked (by
    simp [Session.unlocked, show s.loop = .granting mid from held])
  dead := sound.dead
  recovers := sound.recovers
  refenced _ := rfl
  stopped := sound.stopped
  down _ := rfl
  alone := sound.alone
  joined := sound.joined
  severed _ := rfl

/-- The loop moves on. -/
theorem Sound.loopTo {l : LoopAt} (sound : Sound s) (alive : s.alive)
    (fenced : l.fenced → s.valid = false)
    (three : s.valid → ∀ n, l.left = some n → s.asked.length + n = 3)
    (quiet : s.connected → l.subscribes = false)
    (granting : ∀ mid, l = .granting mid → s.valid ∧ s.shutdown.step ≤ 1) :
    Sound { s with loop := l } where
  toTagged := ⟨sound.current, sound.past, sound.ours, sound.sent⟩
  answered := sound.answered
  three valid _ := three valid
  linked := sound.linked
  complete := sound.complete
  quiet := quiet
  fenced := fenced
  granting := granting
  dead dead := absurd alive (by simp [show s.alive = false from dead])
  recovers := sound.recovers
  refenced := sound.refenced
  stopped := sound.stopped
  down := sound.down
  alone := sound.alone
  joined := sound.joined
  severed := sound.severed

theorem Sound.disconnected (sound : Sound s) (severed : s.valid = false) : s.connected = false := by
  cases connected : s.connected with
  | false => rfl
  | true => exact absurd (sound.linked connected) (by simp [severed])

/-- Without a valid connection the loop may stand anywhere but in the lock. -/
theorem Sound.severedTo {l : LoopAt} (sound : Sound s) (alive : s.alive) (severed : s.valid = false)
    (outside : ∀ mid, l ≠ .granting mid) : Sound { s with loop := l } := by
  refine sound.loopTo alive (fun _ => severed) (fun live => ?_) (fun connected => ?_) fun mid held => ?_
  · rw [severed] at live
    cases live
  · rw [sound.disconnected severed] at connected
    cases connected
  · exact absurd held (outside mid)

theorem Sound.fencedTo {l : LoopAt} (sound : Sound s) (alive : s.alive) (unlocked : s.unlocked)
    (outside : ∀ mid, l ≠ .granting mid) : Sound { s.invalidate with loop := l } :=
  (sound.invalidate unlocked).severedTo alive rfl outside

end Fences

section Loop

theorem Sound.readStop {refused : Bool} (sound : Sound s) (alive : s.alive)
    (here : s.loop = .connecting refused) : Sound (s.readStop refused) := by
  have severed : s.valid = false := sound.fenced (by rw [here]; rfl)
  unfold Session.readStop
  split
  · exact sound.severedTo alive severed fun _ held => nomatch held
  · split
    · exact sound.severedTo alive severed fun _ held => nomatch held
    · exact sound.severedTo alive severed fun _ held => nomatch held

/-- No other thread stands where a dead loop is needed. -/
theorem Sound.living (sound : Sound s) (alive : s.alive) :
    s.supervisor.locks = false ∧ s.shutdown.step ≤ 4 := by
  constructor
  · cases locks : s.supervisor.locks with
    | false => rfl
    | true =>
        rw [sound.recovers locks] at alive
        cases alive
  · by_contra beyond
    rw [sound.joined (by omega)] at alive
    cases alive

theorem unfenced {a : SupervisorAt} (open' : a.locks = false) : a.fenced = false := by
  cases a with
  | waiting | dropping => rfl
  | recovering | reconnecting | replacing | restored _ | discarding => cases open'

/-- Where a connection is accepted, no message bears its generation yet. -/
theorem Sound.accept (sound : Sound s) (alive : s.alive) (here : s.loop = .accepting) :
    Sound s.accept := by
  have severed : s.valid = false := sound.fenced (by rw [here]; rfl)
  have apart := sound.disconnected severed
  obtain ⟨unlocked, early⟩ := sound.living alive
  refine ⟨⟨fun _ => rfl, fun m mem => ?_, fun _ m mem same => ?_, sound.sent⟩,
    ⟨fun _ mid mem => absurd mem List.not_mem_nil, fun _ _ n left => ?_, fun _ => rfl, ?_, ?_⟩,
    ⟨fun bad => (nomatch bad), fun mid held => (nomatch held), fun dead => ?_, sound.recovers, ?_,
      sound.stopped, sound.down, sound.alone, sound.joined, fun far => ?_⟩⟩
  · exact Nat.le_succ_of_le (sound.past m mem)
  · have old := sound.past m mem
    change m.generation = s.generation + 1 at same
    omega
  · cases left
    rfl
  · intro connected
    exact absurd connected (by simp [Session.accept, apart])
  · intro connected
    exact absurd connected (by simp [Session.accept, apart])
  · exact absurd alive (by simp [show s.alive = false from dead])
  · intro fenced
    exact absurd fenced (by simp [Session.accept, unfenced unlocked])
  · change 6 ≤ s.shutdown.step at far
    omega

theorem Sound.subscribe {topics : Nat} {l : LoopAt} (sound : Sound s) (alive : s.alive)
    (here : s.loop = .subscribing topics) (unfenced : l.fenced = false)
    (left : ∀ n, l.left = some n → n = topics) (outside : ∀ mid, l ≠ .granting mid) :
    Sound { s with loop := l } := by
  refine sound.loopTo alive (fun fenced => ?_) (fun live n eq => ?_) (fun connected => ?_)
    fun mid held => absurd held (outside mid)
  · rw [unfenced] at fenced
    cases fenced
  · rw [left n eq]
    exact sound.three live alive topics (by rw [here]; rfl)
  · have quiet := sound.quiet connected
    rw [here] at quiet
    cases quiet

theorem Sound.note {mid topics : Nat} (sound : Sound s) (alive : s.alive)
    (here : s.loop = .noting mid topics) : Sound (s.note mid topics) := by
  have apart : s.connected = false := by
    cases connected : s.connected with
    | false => rfl
    | true =>
        have quiet := sound.quiet connected
        rw [here] at quiet
        cases quiet
  have three : s.valid → s.asked.length + (topics + 1) = 3 := fun live =>
    sound.three live alive (topics + 1) (by rw [here]; rfl)
  obtain ⟨unlocked, early⟩ := sound.living alive
  refine ⟨⟨sound.current, sound.past, sound.ours, sound.sent⟩,
    ⟨fun live id mem => ?_, fun live _ n left => ?_, sound.linked, ?_, ?_⟩,
    ⟨fun fenced => ?_, fun id held => ?_, fun dead => ?_, sound.recovers, sound.refenced,
      sound.stopped, sound.down, sound.alone, sound.joined, sound.severed⟩⟩
  · have keeps : id = mid ∨ id ∈ s.pending → id ∈ (s.note mid topics).pending := by
      unfold Session.note
      by_cases there : mid ∈ s.pending
      · simp only [there, if_true]
        intro mem
        cases mem with
        | inl same => rwa [same]
        | inr old => exact old
      · simp only [there, if_false]
        exact List.mem_cons.mpr
    cases List.mem_cons.mp mem with
    | inl here => exact .inl (keeps (.inl here))
    | inr old => exact (sound.answered live id old).imp (fun pending => keeps (.inr pending)) fun h => h
  · have sum := three live
    unfold Session.note at left ⊢
    simp only [List.length_cons]
    by_cases last : topics = 0
    · simp only [last, if_true, LoopAt.left, Option.some.injEq] at left
      omega
    · simp only [last, if_false, LoopAt.left, Option.some.injEq] at left
      omega
  · intro connected
    exact absurd connected (by simp [Session.note, apart])
  · intro connected
    exact absurd connected (by simp [Session.note, apart])
  · unfold Session.note at fenced
    by_cases last : topics = 0 <;> simp [last, LoopAt.fenced] at fenced
  · unfold Session.note at held
    by_cases last : topics = 0 <;> simp [last] at held
  · exact absurd alive (by simp [show s.alive = false from dead])

/-- The gateway looks for a pending identifier, and for a stop, before it takes the answer. -/
theorem Sound.suback {mid : Nat} {granted : Bool} (sound : Sound s) (alive : s.alive)
    (here : s.loop = .waiting) : Sound (s.suback mid granted) := by
  have asked : s.valid → s.asked.length = 3 := fun live =>
    sound.three live alive 0 (by rw [here]; rfl)
  unfold Session.suback
  split
  · exact sound
  · rename_i goes
    simp only [not_or, Bool.not_eq_true, not_not, Bool.not_eq_false] at goes
    obtain ⟨live, -, running⟩ := goes
    have early : ¬ 1 ≤ s.shutdown.step := fun stopped => by
      rw [sound.stopped.mpr stopped] at running
      cases running
    cases granted with
    | true =>
        refine sound.loopTo alive (fun bad => nomatch bad) (fun live n left => ?_) (fun _ => rfl)
          fun _ _ => ⟨live, by omega⟩
        cases left
        exact asked live
    | false =>
        exact sound.loopTo alive (fun bad => nomatch bad) (fun _ _ left => nomatch left)
          (fun _ => rfl) fun _ held => nomatch held

/-- The last grant makes the gateway connected: all it asked for has been granted. -/
theorem Sound.grant {mid : Nat} (sound : Sound s) (alive : s.alive)
    (here : s.loop = .granting mid) : Sound (s.grant mid) := by
  obtain ⟨live, early⟩ := sound.granting mid here
  have three : s.asked.length = 3 := sound.three live alive 0 (by rw [here]; rfl)
  have answered : ∀ id ∈ s.asked, id ∈ s.pending.filter (· ≠ mid) ∨ id ∈ mid :: s.granted := by
    intro id mem
    by_cases same : id = mid
    · exact .inr (same ▸ List.mem_cons_self)
    · refine (sound.answered live id mem).imp (fun pending => ?_) (List.mem_cons_of_mem mid)
      exact List.mem_filter.mpr ⟨pending, decide_eq_true same⟩
  have taken : Sound { s with
      pending := s.pending.filter (· ≠ mid), granted := mid :: s.granted, loop := .waiting } := by
    refine ⟨⟨sound.current, sound.past, sound.ours, sound.sent⟩,
      ⟨fun _ => answered, fun _ _ n left => ?_, sound.linked, fun connected => ?_, fun _ => rfl⟩,
      ⟨fun bad => (nomatch bad), fun _ held => (nomatch held), fun _ => rfl, sound.recovers,
        sound.refenced, sound.stopped, sound.down, sound.alone, sound.joined, sound.severed⟩⟩
    · cases left
      exact three
    · exact ⟨three, fun id mem => List.mem_cons_of_mem mid ((sound.complete connected).2 id mem)⟩
  unfold Session.grant
  simp only
  split
  · rename_i last
    refine ⟨⟨taken.current, taken.past, taken.ours, taken.sent⟩,
      ⟨taken.answered, taken.three, fun _ => live, fun _ => ⟨three, fun id mem => ?_⟩, fun _ => rfl⟩,
      ⟨taken.fenced, taken.granting, taken.dead, taken.recovers, taken.refenced, taken.stopped,
        fun far => ?_, taken.alone, taken.joined, taken.severed⟩⟩
    · refine (answered id mem).resolve_left fun pending => ?_
      rw [last] at pending
      cases pending
    · change 2 ≤ s.shutdown.step at far
      omega
  · exact taken

theorem Sound.replace (sound : Sound s) (unlocked : s.unlocked) :
    Sound { s.invalidate with socket := s.socket + 1 } := by
  have fenced := sound.invalidate unlocked
  exact ⟨⟨fun live => (nomatch live), fenced.past, fun live => (nomatch live), fenced.sent⟩,
    ⟨fenced.answered, fenced.three, fenced.linked, fenced.complete, fenced.quiet⟩,
    ⟨fenced.fenced, fenced.granting, fenced.dead, fenced.recovers, fenced.refenced, fenced.stopped,
      fenced.down, fenced.alone, fenced.joined, fenced.severed⟩⟩

theorem Sound.message {mid qos : Nat} {fits : Bool} (sound : Sound s) (alive : s.alive) :
    Sound (s.message mid qos fits) := by
  unfold Session.message
  split
  · refine ⟨⟨sound.current, fun m mem => ?_, fun live m mem same => ?_, sound.sent⟩,
      ⟨sound.answered, sound.three, sound.linked, sound.complete, sound.quiet⟩,
      ⟨sound.fenced, sound.granting, sound.dead, sound.recovers, sound.refenced, sound.stopped,
        sound.down, sound.alone, sound.joined, sound.severed⟩⟩
    · cases List.mem_cons.mp mem with
      | inl new => exact Nat.le_of_eq (congrArg UplinkItem.generation new)
      | inr old => exact sound.past m old
    · cases List.mem_cons.mp mem with
      | inl new => rw [new]
      | inr old => exact sound.ours live m old same
  · exact sound.loopTo alive (fun bad => nomatch bad) (fun _ _ left => nomatch left)
      (fun _ => rfl) fun _ held => nomatch held

theorem Sound.die (sound : Sound s) :
    Sound { s with alive := false, loop := .waiting } := by
  refine ⟨⟨sound.current, sound.past, sound.ours, sound.sent⟩,
    ⟨sound.answered, fun _ bad => (nomatch bad), sound.linked, sound.complete, fun _ => rfl⟩,
    ⟨fun bad => (nomatch bad), fun _ held => (nomatch held), fun _ => rfl, fun _ => rfl,
      sound.refenced, sound.stopped, sound.down, sound.alone, fun _ => rfl, sound.severed⟩⟩

theorem Sound.loopStep (sound : Sound s) (alive : s.alive) (step : LoopStep) :
    Sound (s.loopStep step) := by
  have outside : ∀ l : LoopAt, s.loop = l → (∀ mid, l ≠ .granting mid) → s.unlocked := by
    intro l here free
    unfold Session.unlocked
    split
    · rename_i mid held
      exact absurd (here.symm.trans held) (free mid)
    · rfl
  have waits : s.loop = .waiting → s.unlocked := fun here =>
    outside .waiting here fun _ held => nomatch held
  cases step with
  | connack refused =>
      simp only [Session.loopStep]
      split
      · rename_i here
        exact sound.fencedTo alive (waits here) fun _ held => nomatch held
      · exact sound
  | readStop =>
      simp only [Session.loopStep]
      split
      · rename_i here
        exact sound.readStop alive here
      · exact sound
  | accept =>
      simp only [Session.loopStep]
      split
      · rename_i here
        exact sound.accept alive here
      · exact sound
  | subscribe mid =>
      simp only [Session.loopStep]
      split
      · rename_i here
        exact sound.subscribe alive here rfl (fun n left => by cases left; rfl)
          fun _ held => nomatch held
      · rename_i here
        exact sound.subscribe alive here rfl (fun n left => nomatch left) fun _ held => nomatch held
      · exact sound
  | note =>
      simp only [Session.loopStep]
      split
      · rename_i here
        exact sound.note alive here
      · exact sound
  | suback mid granted =>
      simp only [Session.loopStep]
      split
      · rename_i here
        exact sound.suback alive here
      · exact sound
  | grant =>
      simp only [Session.loopStep]
      split
      · rename_i here
        exact sound.grant alive here
      · exact sound
  | disconnect =>
      simp only [Session.loopStep]
      split
      · rename_i here
        exact sound.invalidate (waits here)
      · exact sound
  | drop =>
      simp only [Session.loopStep]
      split
      · rename_i here
        exact sound.fencedTo alive (outside .dropping here fun _ held => nomatch held)
          fun _ held => nomatch held
      · exact sound
  | preReconnect =>
      simp only [Session.loopStep]
      split
      · rename_i here
        exact sound.fencedTo alive (waits here) fun _ held => nomatch held
      · exact sound
  | replace =>
      simp only [Session.loopStep]
      split
      · rename_i here
        have replaced := sound.replace (outside .reconnecting here fun _ held => nomatch held)
        exact replaced.severedTo alive rfl fun _ held => nomatch held
      · exact sound
  | message mid qos fits =>
      simp only [Session.loopStep]
      split
      · exact sound.message alive
      · exact sound
  | die =>
      simp only [Session.loopStep]
      split
      · exact sound.die
      · exact sound

end Loop

section Workers

/-- An acknowledgement goes out while the connection of its message is the valid one. -/
theorem Sound.ack {item : UplinkItem} {written : Bool} (sound : Sound s) (unlocked : s.unlocked)
    (mem : item ∈ s.received) : Sound (s.ack item written) := by
  unfold Session.ack
  split
  · exact sound
  · rename_i goes
    simp only [not_or, not_not, ne_eq] at goes
    obtain ⟨live, same⟩ := goes
    split
    · exact sound
    · have logged : Sound { s with pubacks := ⟨item, s.socket⟩ :: s.pubacks } := by
        refine ⟨⟨sound.current, sound.past, sound.ours, fun a sent => ?_⟩,
          ⟨sound.answered, sound.three, sound.linked, sound.complete, sound.quiet⟩,
          ⟨sound.fenced, sound.granting, sound.dead, sound.recovers, sound.refenced, sound.stopped,
            sound.down, sound.alone, sound.joined, sound.severed⟩⟩
        cases List.mem_cons.mp sent with
        | inl new =>
            rw [new]
            exact sound.ours live item mem same
        | inr old => exact sound.sent a old
      simp only
      split
      · exact logged
      · exact logged.invalidate unlocked

end Workers

section Supervisor

/-- The supervisor moves on, without the lock or over a dead loop. -/
theorem Sound.supervisorTo {a : SupervisorAt} (sound : Sound s) (dead : a.locks → s.alive = false)
    (refenced : a.fenced → s.valid = false) (alone : 3 ≤ s.shutdown.step → a.locks = false) :
    Sound { s with supervisor := a } :=
  ⟨⟨sound.current, sound.past, sound.ours, sound.sent⟩,
    ⟨sound.answered, sound.three, sound.linked, sound.complete, sound.quiet⟩,
    ⟨sound.fenced, sound.granting, sound.dead, dead, refenced, sound.stopped, sound.down, alone,
      sound.joined, sound.severed⟩⟩

theorem Sound.freed {a : SupervisorAt} (sound : Sound s) (free : a.locks = false) :
    Sound { s with supervisor := a } := by
  refine sound.supervisorTo (fun locks => ?_) (fun fenced => ?_) fun _ => free
  · rw [free] at locks
    cases locks
  · rw [unfenced free] at fenced
    cases fenced

/-- It stays in `_recover_once`, where it has fenced. -/
theorem Sound.recovering {a : SupervisorAt} (sound : Sound s) (locks : s.supervisor.locks)
    (severed : s.valid = false) : Sound { s with supervisor := a } := by
  refine sound.supervisorTo (fun _ => sound.recovers locks) (fun _ => severed) fun far => ?_
  rw [sound.alone far] at locks
  cases locks

theorem Sound.goOn {succeeded : Bool} (sound : Sound s) (unlocked : s.unlocked) :
    Sound (s.goOn succeeded) := by
  unfold Session.goOn
  split
  · exact sound
  · exact (sound.invalidate unlocked).freed rfl
  · rename_i here
    exact (sound.invalidate unlocked).recovering (by rw [Session.invalidate, here]; rfl) rfl
  · rename_i here
    exact (sound.invalidate unlocked).recovering (by rw [Session.invalidate, here]; rfl) rfl
  · rename_i here
    exact (sound.replace unlocked).recovering (by rw [Session.invalidate, here]; rfl) rfl
  · rename_i succeeded here
    have locks : s.supervisor.locks := by rw [here]; rfl
    have severed := sound.refenced (by rw [here]; rfl)
    have dead := sound.recovers locks
    split
    · exact sound.recovering locks severed
    · have early : ¬ 3 ≤ s.shutdown.step := fun far => by
        rw [sound.alone far] at locks
        cases locks
      refine ⟨⟨sound.current, sound.past, sound.ours, sound.sent⟩,
        ⟨sound.answered, fun live => ?_, sound.linked, sound.complete, sound.quiet⟩,
        ⟨sound.fenced, sound.granting, fun _ => sound.dead dead, fun bad => (nomatch bad),
          fun bad => (nomatch bad), sound.stopped, sound.down, fun _ => rfl, fun far => ?_,
          sound.severed⟩⟩
      · rw [severed] at live
        cases live
      · exact absurd far (by
          change ¬ 5 ≤ s.shutdown.step
          omega)
  · exact (sound.invalidate unlocked).freed rfl

theorem Sound.supervisorStep (sound : Sound s) (unlocked : s.unlocked) (step : SupervisorStep) :
    Sound (s.supervisorStep step) := by
  cases step with
  | checkTimeout late =>
      simp only [Session.supervisorStep]
      split
      · exact sound.freed rfl
      · exact sound
  | recover =>
      simp only [Session.supervisorStep]
      split
      · rename_i goes
        obtain ⟨-, dead, -, running⟩ := goes
        refine sound.supervisorTo (fun _ => by simpa using dead) (fun bad => nomatch bad) fun far => ?_
        exact absurd (sound.stopped.mpr (Nat.le_trans (by decide) far)) running
      · exact sound
  | goOn succeeded => exact sound.goOn unlocked

end Supervisor

section Shutdown

/-- Shutdown moves on, past what it has made sure of. -/
theorem Sound.shutdownTo {k : ShutdownAt} (sound : Sound s)
    (granting : 2 ≤ k.step → s.unlocked) (stopped : s.stop = true ↔ 1 ≤ k.step)
    (down : 2 ≤ k.step → s.connected = false) (alone : 3 ≤ k.step → s.supervisor.locks = false)
    (joined : 5 ≤ k.step → s.alive = false) (severed : 6 ≤ k.step → s.valid = false) :
    Sound { s with shutdown := k } := by
  refine ⟨⟨sound.current, sound.past, sound.ours, sound.sent⟩,
    ⟨sound.answered, sound.three, sound.linked, sound.complete, sound.quiet⟩,
    ⟨sound.fenced, fun mid held => ⟨(sound.granting mid held).1, ?_⟩, sound.dead, sound.recovers,
      sound.refenced, stopped, down, alone, joined, severed⟩⟩
  by_contra far
  have unlocked := granting (by change ¬ k.step ≤ 1 at far; omega)
  simp [Session.unlocked, show s.loop = .granting mid from held] at unlocked

/-- Once shutdown has fenced, no step stops in the lock. -/
theorem Sound.released (sound : Sound s) (far : 2 ≤ s.shutdown.step) : s.unlocked := by
  unfold Session.unlocked
  split
  · rename_i mid held
    have early := (sound.granting mid held).2
    omega
  · rfl

theorem Sound.shutdownStep (sound : Sound s) : Sound s.shutdownStep := by
  have stopped : 1 ≤ s.shutdown.step → s.stop = true := sound.stopped.mpr
  unfold Session.shutdownStep
  cases here : s.shutdown with
  | running =>
      refine ⟨⟨sound.current, sound.past, sound.ours, sound.sent⟩,
        ⟨sound.answered, sound.three, sound.linked, sound.complete, sound.quiet⟩,
        ⟨sound.fenced, fun mid held => ⟨(sound.granting mid held).1, Nat.le_refl 1⟩, sound.dead,
          sound.recovers, sound.refenced, ?_, ?_, ?_, ?_, ?_⟩⟩ <;>
        simp [ShutdownAt.step]
  | stopping =>
      rw [here] at stopped
      simp only
      split
      · rename_i unlocked
        refine (sound.invalidate unlocked).shutdownTo (fun _ => unlocked)
          ⟨fun _ => by decide, fun _ => stopped (by decide)⟩ (fun _ => rfl) ?_ ?_ ?_ <;>
          simp [ShutdownAt.step]
      · exact sound
  | fenced =>
      have down : s.connected = false := sound.down (by rw [here]; decide)
      have unlocked := sound.released (by rw [here]; decide)
      rw [here] at stopped
      simp only
      split
      · exact sound
      · rename_i free
        refine sound.shutdownTo (fun _ => unlocked) ⟨fun _ => by decide, fun _ => stopped (by decide)⟩
          (fun _ => down) (fun _ => by simpa using free) ?_ ?_ <;>
          simp [ShutdownAt.step]
  | closing =>
      have alone := sound.alone (by rw [here]; decide)
      rw [here] at stopped
      simp only
      split
      · rename_i unlocked
        refine (sound.invalidate unlocked).shutdownTo (fun _ => unlocked)
          ⟨fun _ => by decide, fun _ => stopped (by decide)⟩ (fun _ => rfl) (fun _ => alone) ?_ ?_ <;>
          simp [ShutdownAt.step]
      · exact sound
  | disconnected =>
      have down : s.connected = false := sound.down (by rw [here]; decide)
      have alone := sound.alone (by rw [here]; decide)
      rw [here] at stopped
      simp only
      split
      · rename_i waits
        have ended := sound.die.shutdownTo (k := .joined) (fun _ => rfl)
          ⟨fun _ => by decide, fun _ => stopped (by decide)⟩ (fun _ => down) (fun _ => alone)
          (fun _ => rfl) (by simp [ShutdownAt.step])
        rw [← waits] at ended
        exact ended
      · exact sound
  | joined =>
      have dead : s.alive = false := sound.joined (by rw [here]; decide)
      have down : s.connected = false := sound.down (by rw [here]; decide)
      have alone := sound.alone (by rw [here]; decide)
      have unlocked := sound.released (by rw [here]; decide)
      rw [here] at stopped
      have ended : Sound { s with valid := false } := by
        refine ⟨⟨fun bad => (nomatch bad), sound.past, fun bad => (nomatch bad), sound.sent⟩,
          ⟨fun bad => (nomatch bad), fun bad => (nomatch bad), fun connected => ?_, sound.complete,
            sound.quiet⟩,
          ⟨fun _ => rfl, fun mid held => ?_, sound.dead, sound.recovers, fun _ => rfl,
            sound.stopped, sound.down, sound.alone, sound.joined, fun _ => rfl⟩⟩
        · rw [show s.connected = true from connected] at down
          cases down
        · simp [Session.unlocked, show s.loop = .granting mid from held] at unlocked
      exact ended.shutdownTo (fun _ => unlocked) ⟨fun _ => by decide, fun _ => stopped (by decide)⟩
        (fun _ => down) (fun _ => alone) (fun _ => dead) fun _ => rfl
  | invalid =>
      have dead : s.alive = false := sound.joined (by rw [here]; decide)
      have down : s.connected = false := sound.down (by rw [here]; decide)
      have alone := sound.alone (by rw [here]; decide)
      have severed : s.valid = false := sound.severed (by rw [here]; decide)
      have unlocked := sound.released (by rw [here]; decide)
      rw [here] at stopped
      have ended := sound.shutdownTo (k := .done) (fun _ => unlocked)
        ⟨fun _ => by decide, fun _ => stopped (by decide)⟩ (fun _ => down) (fun _ => alone)
        (fun _ => dead) fun _ => severed
      rw [← down]
      exact ended
  | done => exact sound

end Shutdown

section Runs

theorem Sound.next (sound : Sound s) (step : SessionStep) : Sound (s.next step) := by
  cases step with
  | loop step =>
      simp only [Session.next]
      split
      · rename_i alive
        exact sound.loopStep alive step
      · exact sound
  | ack index written =>
      simp only [Session.next]
      split
      · rename_i unlocked
        cases item : s.received[index]? with
        | none => exact sound
        | some item => exact sound.ack unlocked (List.mem_of_getElem? ‹_›)
      · exact sound
  | requeueFull =>
      simp only [Session.next]
      split
      · rename_i unlocked
        exact sound.invalidate unlocked
      · exact sound
  | supervisor step =>
      simp only [Session.next]
      split
      · rename_i unlocked
        exact sound.supervisorStep unlocked step
      · exact sound
  | shutdown => exact sound.shutdownStep

theorem Sound.run (steps : List SessionStep) : Sound (machine.run {} steps) :=
  Machine.Reachable.invariant (M := machine) ⟨steps, rfl⟩ sound_init fun _ step sound => sound.next step

/-- However the threads interleave, every PUBACK went out on the connection its message came over,
whatever packet identifiers later connections use again. -/
theorem pubacks_current (steps : List SessionStep) :
    ∀ a ∈ (machine.run {} steps).pubacks, a.item.socket = a.socket :=
  (Sound.run steps).sent

/-- A connection is accepted and subscribed on, and its first message acknowledged. -/
def firstPuback : List SessionStep :=
  [.loop (.connack false), .loop .readStop, .loop .accept, .loop (.subscribe (some 1)), .loop .note,
    .loop (.subscribe (some 2)), .loop .note, .loop (.subscribe (some 3)), .loop .note,
    .loop (.message 7 1 true), .ack 0 true]

theorem pubacks_current_first :
    ∃ a ∈ (machine.run {} firstPuback).pubacks, a.item.mid = 7 ∧ a.item.socket = a.socket :=
  ⟨⟨⟨7, 1, 1, 0⟩, 0⟩, .head _, rfl, pubacks_current firstPuback _ (.head _)⟩

/-- The present connection is accepted, and its three subscriptions are granted on it. -/
structure Ready (s : Session) : Prop where
  valid : s.valid
  current : s.acceptedOn = s.socket
  three : s.asked.length = 3
  granted : ∀ mid ∈ s.asked, mid ∈ s.granted

/-- However the threads interleave, the gateway counts as connected only where it is ready; and where
it does while `stop_event` is set, shutdown has not come to its first fence. -/
theorem connected_ready (steps : List SessionStep) :
    (machine.run {} steps).connected = false ∨ Ready (machine.run {} steps) ∧
      ((machine.run {} steps).stop = true → (machine.run {} steps).shutdown = .stopping) := by
  have sound := Sound.run steps
  cases connected : (machine.run {} steps).connected with
  | false => exact .inl rfl
  | true =>
      have live := sound.linked connected
      refine .inr ⟨⟨live, sound.current live, (sound.complete connected).1,
        (sound.complete connected).2⟩, fun stopped => ?_⟩
      have set := sound.stopped.mp stopped
      have early : ¬ 2 ≤ (machine.run {} steps).shutdown.step := fun far => by
        rw [sound.down far] at connected
        cases connected
      generalize (machine.run {} steps).shutdown = k at set early
      cases k with
      | stopping => rfl
      | running | fenced | closing | disconnected | joined | invalid | done =>
          simp [ShutdownAt.step] at set early

/-- The last answer is taken while `stop_event` is being set: connected, for a moment. -/
example :
    let s := machine.run {} ([.loop .preReconnect, .loop .replace, .loop (.connack false),
      .loop .readStop, .loop .accept, .loop (.subscribe (some 1)), .loop .note,
      .loop (.subscribe (some 2)), .loop .note, .loop (.subscribe (some 3)), .loop .note,
      .loop (.suback 1 true), .loop .grant, .loop (.suback 2 true), .loop .grant,
      .loop (.suback 3 true), .shutdown, .loop .grant])
    s.connected ∧ s.stop := by
  decide

theorem shutdown_loopStep (s : Session) (step : LoopStep) :
    (s.loopStep step).shutdown = s.shutdown := by
  cases step with
  | connack _ | disconnect | drop | preReconnect | replace | die | accept =>
      simp only [Session.loopStep]
      split <;> rfl
  | readStop =>
      simp only [Session.loopStep, Session.readStop]
      split
      · split
        · rfl
        · split <;> rfl
      · rfl
  | subscribe _ | note =>
      simp only [Session.loopStep, Session.note]
      split <;> rfl
  | suback _ _ | message _ _ _ =>
      simp only [Session.loopStep, Session.suback, Session.message]
      split
      · split <;> rfl
      · rfl
  | grant =>
      simp only [Session.loopStep, Session.grant]
      split
      · split <;> rfl
      · rfl

theorem shutdown_ack (s : Session) (item : UplinkItem) (written : Bool) :
    (s.ack item written).shutdown = s.shutdown := by
  unfold Session.ack
  split
  · rfl
  · split
    · rfl
    · cases written <;> rfl

theorem shutdown_supervisorStep (s : Session) (step : SupervisorStep) :
    (s.supervisorStep step).shutdown = s.shutdown := by
  cases step with
  | checkTimeout _ | recover =>
      simp only [Session.supervisorStep]
      split <;> rfl
  | goOn _ =>
      simp only [Session.supervisorStep, Session.goOn]
      split <;> first | rfl | (split <;> rfl)

/-- Shutdown never goes back. -/
theorem step_le_next (s : Session) (step : SessionStep) :
    s.shutdown.step ≤ (s.next step).shutdown.step := by
  cases step with
  | loop step =>
      simp only [Session.next]
      split
      · exact Nat.le_of_eq (congrArg _ (shutdown_loopStep s step).symm)
      · exact Nat.le_refl _
  | ack index written =>
      simp only [Session.next]
      split
      · cases s.received[index]? with
        | none => exact Nat.le_refl _
        | some item => exact Nat.le_of_eq (congrArg _ (shutdown_ack s item written).symm)
      · exact Nat.le_refl _
  | requeueFull =>
      simp only [Session.next]
      split <;> exact Nat.le_refl _
  | supervisor step =>
      simp only [Session.next]
      split
      · exact Nat.le_of_eq (congrArg _ (shutdown_supervisorStep s step).symm)
      · exact Nat.le_refl _
  | shutdown =>
      simp only [Session.next, Session.shutdownStep]
      cases here : s.shutdown with
      | running | joined | invalid => simp [ShutdownAt.step]
      | stopping | fenced | closing | disconnected =>
          simp only
          split <;> simp [here, ShutdownAt.step]
      | done => simp [here]

/-- What shutdown leaves behind: it has fenced, and no connection and no loop outlives it. -/
structure Down (s : Session) : Prop where
  connected : s.connected = false
  dead : 5 ≤ s.shutdown.step → s.alive = false
  severed : 6 ≤ s.shutdown.step → s.valid = false
  alone : 3 ≤ s.shutdown.step → s.supervisor.locks = false

/-- From the first fence of shutdown on, whatever the other threads still do, the gateway never counts
as connected again, no recovery is under way once shutdown holds its lock, and neither a loop nor a
valid connection is there once the loop is joined. -/
theorem down_for_good (steps more : List SessionStep)
    (fenced : 2 ≤ (machine.run {} steps).shutdown.step) :
    machine.Always Down (machine.run {} steps) more := by
  have always := Machine.invariant_always (M := machine) (P := fun _ _ => True)
    (I := fun s => Sound s ∧ 2 ≤ s.shutdown.step)
    (fun s step held _ => ⟨held.1.next step, Nat.le_trans held.2 (step_le_next s step)⟩)
    ⟨Sound.run steps, fenced⟩ (machine.along_true _ more)
  exact machine.always_mono (fun s held =>
    ⟨held.1.down held.2, held.1.joined, held.1.severed, held.1.alone⟩) always

theorem down_for_good_stopped :
    machine.Always Down (machine.run {} [.loop .preReconnect, .shutdown, .shutdown])
      [.loop .replace, .loop (.connack false), .loop .readStop] :=
  down_for_good _ _ (by decide)

end Runs

end Session
end CoffeeCloud
