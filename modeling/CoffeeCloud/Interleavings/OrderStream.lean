import CoffeeCloud.Library.Machine
import CoffeeCloud.Services.OrderStream
import Mathlib.Data.Nat.Bitwise

/-!
One stream among notifications from other threads and among other streams. A thread
reads the registries and leaves callbacks to the event loop, which runs them one at a
time between the steps of the stream. Flags are merged, never dropped; and a change
that a read has not seen is still in the queue or in the stream's hand.
-/
namespace CoffeeCloud
open Library

structure StreamSystem where
  stream : OrderStream
  /-- The callbacks that wait for the event loop. -/
  scheduled : List Nat := []

inductive StreamAction where
  | publish (orderId : String)
  | publishProgress (key : String)
  | resync (flags : Nat)
  | callback
  | consume (event : StreamEvent)
  /-- Another stream of this process. -/
  | subscribeOther (orderId : String) (queue : QueueId)
  | watchOther (queue : QueueId) (deviceId taskId : String)
  | unsubscribeOther (orderId : String) (queue : QueueId)

namespace StreamSystem

def send (s : StreamSystem) (subscribed : Bool) (flags : Nat) : StreamSystem :=
  if subscribed then { s with scheduled := s.scheduled ++ [flags] } else s

def registries (s : StreamSystem) (queue : QueueId) (b : OrderEventBroker) : StreamSystem :=
  if queue = s.stream.id then s else { s with stream := { s.stream with broker := b } }

def next (s : StreamSystem) : StreamAction → StreamSystem
  | .publish orderId =>
      s.send (s.stream.id ∈ s.stream.broker.subscribers orderId) orderChanged
  | .publishProgress key =>
      s.send (s.stream.id ∈ s.stream.broker.progressSubscribers key) progressChanged
  | .resync flags => s.send (s.stream.id ∈ s.stream.broker.subscribers s.stream.orderId) flags
  | .callback =>
      match s.scheduled with
      | [] => s
      | flags :: rest => { stream := s.stream.receive flags, scheduled := rest }
  | .consume event => { s with stream := s.stream.consume event }
  | .subscribeOther orderId queue =>
      s.registries queue (s.stream.broker.subscribe orderId queue)
  | .watchOther queue deviceId taskId =>
      s.registries queue (s.stream.broker.watchProgress queue deviceId taskId)
  | .unsubscribeOther orderId queue =>
      s.registries queue (s.stream.broker.unsubscribe orderId queue)

def machine : Machine StreamSystem StreamAction Unit where
  next s a := (s.next a, ())

/-- A stream that has just subscribed. -/
def opened (broker : OrderEventBroker) (orderId : String) (queue : QueueId) : StreamSystem :=
  { stream := { orderId, id := queue, broker := broker.subscribe orderId queue } }

end StreamSystem

namespace OrderEventBroker

/-- The registries agree on a queue, which is subscribed for one order at most. -/
structure Knows (b : OrderEventBroker) (orderId : String) (queue : QueueId) : Prop where
  order : ∀ o, queue ∈ b.subscribers o → o = orderId
  progress : ∀ k, queue ∈ b.progressSubscribers k → b.progressKeys queue = some k

/-- The queue is in no registry. -/
def Forgot (b : OrderEventBroker) (queue : QueueId) : Prop :=
  (∀ o, queue ∉ b.subscribers o) ∧ (∀ k, queue ∉ b.progressSubscribers k) ∧
    b.progressKeys queue = none

variable {b : OrderEventBroker} {orderId o : String} {queue other : QueueId}
  {deviceId taskId : String}

theorem Forgot.knows (h : b.Forgot queue) : b.Knows orderId queue :=
  ⟨fun o mem => absurd mem (h.1 o), fun k mem => absurd mem (h.2.1 k)⟩

theorem subscribers_removeProgress : (b.removeProgress other).subscribers = b.subscribers := by
  simp only [removeProgress]
  split <;> rfl

theorem removeProgress_own (h : b.Knows orderId queue) :
    (∀ k, queue ∉ (b.removeProgress queue).progressSubscribers k) ∧
      (b.removeProgress queue).progressKeys queue = none := by
  simp only [removeProgress]
  cases watched : b.progressKeys queue with
  | none =>
      refine ⟨fun k mem => ?_, watched⟩
      have key := h.progress k mem
      rw [watched] at key
      cases key
  | some key =>
      refine ⟨fun k mem => ?_, by simp [drop]⟩
      dsimp only at mem
      split at mem
      · exact Finset.notMem_erase _ _ mem
      · rename_i ne
        have same := h.progress k mem
        rw [watched] at same
        exact ne (Option.some.inj same).symm

/-- What another stream does leaves the registries of a queue alone. -/
structure Spares (queue : QueueId) (b b' : OrderEventBroker) : Prop where
  subscribers : ∀ o, queue ∈ b'.subscribers o ↔ queue ∈ b.subscribers o
  progressSubscribers : ∀ k, queue ∈ b'.progressSubscribers k ↔ queue ∈ b.progressSubscribers k
  progressKeys : b'.progressKeys queue = b.progressKeys queue

theorem Spares.knows {b' : OrderEventBroker} (h : Spares queue b b') (knows : b.Knows orderId queue) :
    b'.Knows orderId queue := by
  refine ⟨fun o mem => knows.order o ((h.subscribers o).mp mem), fun k mem => ?_⟩
  rw [h.progressKeys]
  exact knows.progress k ((h.progressSubscribers k).mp mem)

theorem Spares.forgot {b' : OrderEventBroker} (h : Spares queue b b') (forgot : b.Forgot queue) :
    b'.Forgot queue :=
  ⟨fun o mem => forgot.1 o ((h.subscribers o).mp mem),
    fun k mem => forgot.2.1 k ((h.progressSubscribers k).mp mem),
    h.progressKeys.trans forgot.2.2⟩

theorem removeProgress_spares (ne : other ≠ queue) : Spares queue b (b.removeProgress other) := by
  simp only [removeProgress]
  split
  · exact ⟨fun _ => Iff.rfl, fun _ => Iff.rfl, rfl⟩
  · refine ⟨fun _ => Iff.rfl, fun k => ?_, by simp [drop, ne.symm]⟩
    dsimp only
    split
    · simp [ne.symm]
    · exact Iff.rfl

theorem Spares.trans {b' b'' : OrderEventBroker} (h : Spares queue b b') (k : Spares queue b' b'') :
    Spares queue b b'' :=
  ⟨fun o => (k.subscribers o).trans (h.subscribers o),
    fun o => (k.progressSubscribers o).trans (h.progressSubscribers o),
    k.progressKeys.trans h.progressKeys⟩

theorem subscribe_spares (ne : other ≠ queue) : Spares queue b (b.subscribe o other) := by
  refine ⟨fun p => ?_, fun _ => Iff.rfl, rfl⟩
  simp only [subscribe]
  split
  · simp [ne.symm]
  · exact Iff.rfl

theorem unsubscribe_spares (ne : other ≠ queue) : Spares queue b (b.unsubscribe o other) := by
  have erased : Spares queue b { b with
      subscribers := fun p => if p = o then (b.subscribers p).erase other else b.subscribers p } := by
    refine ⟨fun p => ?_, fun _ => Iff.rfl, rfl⟩
    dsimp only
    split
    · simp [ne.symm]
    · exact Iff.rfl
  exact erased.trans (removeProgress_spares ne)

theorem watchProgress_spares (ne : other ≠ queue) :
    Spares queue b (b.watchProgress other deviceId taskId) := by
  simp only [watchProgress]
  split
  · exact ⟨fun _ => Iff.rfl, fun _ => Iff.rfl, rfl⟩
  · refine (removeProgress_spares ne).trans ⟨fun _ => Iff.rfl, fun k => ?_, put_of_ne ne.symm⟩
    dsimp only
    split
    · simp [ne.symm]
    · exact Iff.rfl

theorem Knows.watchProgress (h : b.Knows orderId queue) :
    (b.watchProgress queue deviceId taskId).Knows orderId queue := by
  simp only [OrderEventBroker.watchProgress]
  split
  · exact h
  · obtain ⟨gone, -⟩ := removeProgress_own h
    refine ⟨fun o mem => h.order o ?_, fun k mem => ?_⟩
    · rwa [subscribers_removeProgress] at mem
    · dsimp only at mem ⊢
      split at mem
      · rename_i key
        rw [put_same, key]
      · exact absurd mem (gone k)

theorem Knows.unsubscribe (h : b.Knows orderId queue) : (b.unsubscribe orderId queue).Forgot queue := by
  have rest : Knows { b with
      subscribers := fun o =>
        if o = orderId then (b.subscribers o).erase queue else b.subscribers o } orderId queue := by
    refine ⟨fun o mem => ?_, h.progress⟩
    dsimp only at mem
    split at mem
    · exact absurd mem (Finset.notMem_erase _ _)
    · exact h.order o mem
  obtain ⟨progress, key⟩ := removeProgress_own rest
  refine ⟨fun o mem => ?_, progress, key⟩
  rw [OrderEventBroker.unsubscribe, subscribers_removeProgress] at mem
  dsimp only at mem
  split at mem
  · exact absurd mem (Finset.notMem_erase _ _)
  · rename_i ne
    exact ne (h.order o mem)

theorem Knows.subscribe (h : b.Forgot queue) : (b.subscribe orderId queue).Knows orderId queue := by
  refine ⟨fun o mem => ?_, fun k mem => absurd mem (h.2.1 k)⟩
  simp only [OrderEventBroker.subscribe] at mem
  split at mem
  · assumption
  · exact absurd mem (h.1 o)

end OrderEventBroker

namespace OrderStream
open OrderEventBroker

/-- The flags speak of an order change. -/
def Flagged (flags : Nat) : Prop := flags &&& orderChanged ≠ 0

theorem flagged_iff {flags : Nat} : Flagged flags ↔ flags.testBit 1 = true := by
  have bit : flags &&& orderChanged = (flags.testBit 1).toNat * 2 ^ 1 := Nat.and_two_pow flags 1
  rw [Flagged, bit]
  cases flags.testBit 1 <;> simp

theorem flagged_or {a b : Nat} : Flagged (a ||| b) ↔ Flagged a ∨ Flagged b := by
  rw [flagged_iff, flagged_iff, flagged_iff, Nat.testBit_or, Bool.or_eq_true]

theorem not_flagged_zero : ¬ Flagged 0 := by
  simp [Flagged]

/-- The last read saw every order change offered, or the queue still speaks of one. -/
def Seen (s : OrderStream) : Prop := s.changes ≤ s.read ∨ Flagged (s.queue.getD 0)

/-- What the stage of a stream says of what it has seen. -/
def Fresh (s : OrderStream) : StreamStage → Prop
  | .refreshing | .ended => True
  | .reading => s.Seen
  | .composing _ asOf | .sending _ asOf | .waiting _ asOf | .keepalive _ asOf =>
      asOf = s.read ∧ s.Seen
  | .pausing _ asOf flags => asOf = s.read ∧ (s.Seen ∨ Flagged flags)

structure Sound (s : OrderStream) : Prop where
  union : s.offered = s.taken ||| s.queue.getD 0
  counted : s.read ≤ s.changes
  fresh : s.Fresh s.stage
  known : s.broker.Knows s.orderId s.id
  forgot : s.stage = .ended → s.broker.Forgot s.id

variable {s : OrderStream} {snapshot : StreamSnapshot} {asOf flags : Nat}

theorem offer_getD (queue : Option Nat) (flags : Nat) :
    (offer queue flags).getD 0 = flags ||| queue.getD 0 := by
  cases queue <;> simp [offer]

theorem Seen.receive (h : s.Seen ∨ Flagged flags) : (s.receive flags).Seen := by
  simp only [Seen, OrderStream.receive, offer_getD, flagged_or]
  split
  · rename_i flagged
    exact .inr (.inl flagged)
  · rename_i quiet
    rcases h with (seen | queued) | flagged
    · exact .inl seen
    · exact .inr (.inr queued)
    · exact absurd flagged quiet

theorem Fresh.receive {stage : StreamStage} (h : s.Fresh stage) : (s.receive flags).Fresh stage := by
  cases stage with
  | refreshing => trivial
  | ended => trivial
  | reading => exact Seen.receive (.inl h)
  | composing _ _ | sending _ _ | waiting _ _ | keepalive _ _ => exact ⟨h.1, Seen.receive (.inl h.2)⟩
  | pausing _ _ _ => exact ⟨h.1, h.2.imp_left fun seen => Seen.receive (.inl seen)⟩

theorem Fresh.of_same {t : OrderStream} {stage : StreamStage} (h : s.Fresh stage)
    (read : t.read = s.read) (changes : t.changes = s.changes) (queue : t.queue = s.queue) :
    t.Fresh stage := by
  have seen : t.Seen = s.Seen := by rw [Seen, Seen, read, changes, queue]
  cases stage <;> simp only [Fresh, seen, read] at h ⊢ <;> exact h

theorem Sound.receive (sound : s.Sound) : (s.receive flags).Sound where
  union := by
    simp only [OrderStream.receive, offer_getD, sound.union]
    rw [Nat.or_assoc, Nat.or_comm (s.queue.getD 0)]
  counted := by
    have := sound.counted
    simp only [OrderStream.receive]
    split <;> omega
  fresh := sound.fresh.receive
  known := sound.known
  forgot := sound.forgot

/-- A stream that goes on to a stage that has not ended. -/
theorem Sound.goOn (sound : s.Sound) {stage : StreamStage} (fresh : s.Fresh stage)
    (goes : stage ≠ .ended) : (s.goOn stage).Sound :=
  ⟨sound.union, sound.counted, by cases stage <;> exact fresh, sound.known,
    fun ended => absurd ended goes⟩

theorem Sound.finish (sound : s.Sound) : s.finish.Sound :=
  ⟨sound.union, sound.counted, trivial, sound.known.unsubscribe.knows,
    fun _ => sound.known.unsubscribe⟩

theorem Sound.get (sound : s.Sound) (own : asOf = s.read) (seen : s.Seen) :
    (s.get snapshot asOf).Sound := by
  simp only [OrderStream.get]
  cases queued : s.queue with
  | none => exact sound.goOn ⟨own, seen⟩ (by simp)
  | some flags =>
      refine ⟨?_, sound.counted, ⟨own, ?_⟩, sound.known, fun ended => by cases ended⟩
      · have union := sound.union
        rw [queued] at union
        exact union.trans (Nat.or_zero _).symm
      · simp only [Seen, queued, Option.getD_some] at seen
        exact seen.imp_left .inl

theorem Sound.drain (sound : s.Sound) (own : asOf = s.read) (seen : s.Seen ∨ Flagged flags) :
    (s.drain snapshot asOf flags).Sound := by
  have union : s.offered = (s.taken ||| s.queue.getD 0) ||| 0 := by rw [Nat.or_zero, sound.union]
  simp only [OrderStream.drain]
  split
  · exact ⟨union, sound.counted, trivial, sound.known, fun ended => by cases ended⟩
  · rename_i quiet
    refine ⟨union, sound.counted, ⟨own, ?_⟩, sound.known, fun ended => by cases ended⟩
    have unflagged : ¬ Flagged (flags ||| s.queue.getD 0) := quiet
    rw [flagged_or] at unflagged
    rcases seen with (seen | queued) | flagged
    · exact .inl seen
    · exact absurd (.inr queued) unflagged
    · exact absurd (.inl flagged) unflagged

theorem Sound.consume (sound : s.Sound) (event : StreamEvent) : (s.consume event).Sound := by
  have fresh := sound.fresh
  simp only [OrderStream.consume]
  split
  · exact ⟨sound.union, le_rfl, .inl le_rfl, sound.known, fun ended => by cases ended⟩
  · exact sound.finish
  · rename_i snapshot stage
    rw [stage] at fresh
    refine ⟨sound.union, sound.counted, ⟨rfl, fresh⟩, ?_, fun ended => by cases ended⟩
    cases task : snapshot.taskId with
    | none => exact sound.known
    | some taskId => exact sound.known.watchProgress
  · rename_i stage
    rw [stage] at fresh
    exact sound.goOn fresh (by simp)
  · rename_i stage
    rw [stage] at fresh
    split
    · exact sound.finish
    · exact sound.get fresh.1 fresh.2
  · rename_i stage
    rw [stage] at fresh
    exact sound.get fresh.1 fresh.2
  · rename_i stage
    rw [stage] at fresh
    split
    · exact sound.get fresh.1 fresh.2
    · exact sound
  · rename_i stage
    rw [stage] at fresh
    split
    · exact sound.goOn ⟨fresh.1, .inl fresh.2⟩ (by simp)
    · exact sound.goOn fresh (by simp)
  · rename_i stage
    rw [stage] at fresh
    exact sound.drain fresh.1 fresh.2
  · exact sound
  · exact sound.finish
  · exact sound

/-- How many steps a stream that has not seen a change is from its next read. -/
def distance : StreamStage → Nat
  | .ended => 0
  | .refreshing => 1
  | .pausing _ _ _ => 2
  | .sending _ _ | .keepalive _ _ => 3
  | .composing _ _ | .waiting _ _ => 4
  | .reading => 5

theorem distance_le (stage : StreamStage) : distance stage ≤ 5 := by
  cases stage <;> simp [distance]

theorem distance_pos {stage : StreamStage} (goes : stage ≠ .ended) : 0 < distance stage := by
  cases stage with
  | ended => exact absurd rfl goes
  | _ => simp [distance]

/-- A stream that has to see a change goes towards its read, reads, or ends. -/
def Nears (n : Nat) (s t : OrderStream) : Prop :=
  t.stage = .ended ∨ n ≤ t.read ∨
    t.read = s.read ∧ t.turns + distance t.stage ≤ s.turns + distance s.stage

section Nearing
variable {n : Nat} {t u : OrderStream}

theorem consume_ended (ended : s.stage = .ended) (event : StreamEvent) : s.consume event = s := by
  simp only [OrderStream.consume, ended]

theorem read_get : (s.get snapshot asOf).read = s.read := by
  simp only [OrderStream.get]
  split <;> rfl

theorem Sound.read_le (sound : s.Sound) (event : StreamEvent) : s.read ≤ (s.consume event).read := by
  simp only [OrderStream.consume]
  split
  · exact sound.counted
  · exact le_rfl
  · exact le_rfl
  · exact le_rfl
  · split
    · exact le_rfl
    · exact read_get.ge
  · exact read_get.ge
  · split
    · exact read_get.ge
    · exact le_rfl
  · split <;> exact le_rfl
  · exact le_rfl
  · exact le_rfl
  · exact le_rfl
  · exact le_rfl

theorem nears_refl (n : Nat) (s : OrderStream) : Nears n s s := .inr (.inr ⟨rfl, le_rfl⟩)

/-- A change that was not seen is in the queue, and is taken from it. -/
theorem Seen.get (seen : s.Seen) (stale : s.read < s.changes) :
    ∃ flags, (s.get snapshot asOf).stage = .pausing snapshot asOf flags ∧
      (s.get snapshot asOf).turns = s.turns + 1 := by
  have queued : Flagged (s.queue.getD 0) := seen.resolve_left (by omega)
  simp only [OrderStream.get]
  cases there : s.queue with
  | none =>
      rw [there] at queued
      exact absurd queued not_flagged_zero
  | some flags => exact ⟨flags, rfl, rfl⟩

theorem Seen.get_nears (seen : s.Seen) (stale : s.read < s.changes)
    (far : 3 ≤ distance s.stage) : Nears n s (s.get snapshot asOf) := by
  obtain ⟨flags, stage, turns⟩ : ∃ flags,
      (s.get snapshot asOf).stage = .pausing snapshot asOf flags ∧
        (s.get snapshot asOf).turns = s.turns + 1 := seen.get stale
  refine .inr (.inr ⟨read_get, ?_⟩)
  rw [stage, turns, distance]
  omega

theorem Sound.nears (sound : s.Sound) (offered : n ≤ s.changes) (event : StreamEvent) :
    Nears n s (s.consume event) := by
  by_cases seen : n ≤ s.read
  · exact .inr (.inl (seen.trans (sound.read_le event)))
  have stale : s.read < s.changes := by omega
  have fresh := sound.fresh
  simp only [OrderStream.consume]
  split
  · exact .inr (.inl offered)
  · exact .inl rfl
  · rename_i stage
    refine .inr (.inr ⟨rfl, ?_⟩)
    rw [stage]
    exact le_rfl
  · rename_i stage
    refine .inr (.inr ⟨rfl, ?_⟩)
    rw [stage]
    exact le_rfl
  · rename_i stage
    rw [stage] at fresh
    split
    · exact .inl rfl
    · exact fresh.2.get_nears stale (by simp [stage, distance])
  · rename_i stage
    rw [stage] at fresh
    exact fresh.2.get_nears stale (by simp [stage, distance])
  · rename_i stage
    rw [stage] at fresh
    split
    · exact fresh.2.get_nears stale (by simp [stage, distance])
    · exact nears_refl n s
  · rename_i stage
    split
    · refine .inr (.inr ⟨rfl, ?_⟩)
      rw [stage]
      simp [OrderStream.goOn, distance]
    · refine .inr (.inr ⟨rfl, ?_⟩)
      rw [stage]
      exact le_rfl
  · rename_i flags stage
    rw [stage] at fresh
    have flagged : (flags ||| s.queue.getD 0) &&& orderChanged ≠ 0 := by
      refine flagged_or.mpr ?_
      rcases fresh.2 with (seen | queued) | flagged
      · omega
      · exact .inr queued
      · exact .inl flagged
    simp only [OrderStream.drain, if_pos flagged]
    refine .inr (.inr ⟨rfl, ?_⟩)
    rw [stage]
    exact le_rfl
  · exact nears_refl n s
  · exact .inl rfl
  · exact nears_refl n s

end Nearing

/-- Where a stream stands, as long as it goes on. -/
structure Current (s : OrderStream) : Prop where
  /-- Whenever the queue is empty, all that was offered was taken. -/
  union : s.queue = none → s.taken = s.offered
  /-- A stream that waits on an empty queue shows all that was offered. -/
  upToDate : ∀ snapshot asOf, s.stage = .waiting snapshot asOf → s.queue = none → asOf = s.changes
  /-- A stream that ended is in no registry. -/
  released : s.stage = .ended → s.broker.Forgot s.id
  /-- A stream that has not ended can go on, unless it waits on an empty queue. -/
  lively : s.stage = .ended ∨ (∃ snapshot asOf, s.stage = .waiting snapshot asOf ∧ s.queue = none) ∨
    ∃ event, (s.consume event).turns = s.turns + 1

theorem turns_get : (s.get snapshot asOf).turns = s.turns + 1 := by
  simp only [OrderStream.get]
  split <;> rfl

theorem Sound.current (sound : s.Sound) : s.Current where
  union empty := by
    have union := sound.union
    rw [empty] at union
    exact (Nat.or_zero _).symm.trans union.symm
  upToDate snapshot asOf stage empty := by
    have fresh := sound.fresh
    rw [stage] at fresh
    obtain ⟨own, seen⟩ := fresh
    have read := sound.counted
    simp only [Seen, empty, Option.getD_none, not_flagged_zero, or_false] at seen
    omega
  released := sound.forgot
  lively := by
    cases stage : s.stage with
    | ended => exact .inl rfl
    | refreshing => exact .inr (.inr ⟨.sqlStart, by simp only [OrderStream.consume, stage]; rfl⟩)
    | reading =>
        exact .inr (.inr ⟨.sqlDone none, by simp only [OrderStream.consume, stage]; rfl⟩)
    | composing snapshot asOf =>
        exact .inr (.inr ⟨.progressDone, by simp only [OrderStream.consume, stage]; rfl⟩)
    | sending snapshot asOf =>
        refine .inr (.inr ⟨.resume, ?_⟩)
        simp only [OrderStream.consume, stage]
        split
        · rfl
        · exact turns_get
    | keepalive snapshot asOf =>
        refine .inr (.inr ⟨.resume, ?_⟩)
        simp only [OrderStream.consume, stage]
        exact turns_get
    | pausing snapshot asOf flags =>
        exact .inr (.inr ⟨.awake, by simp only [OrderStream.consume, stage]; rfl⟩)
    | waiting snapshot asOf =>
        cases queued : s.queue with
        | none => exact .inr (.inl ⟨snapshot, asOf, rfl, rfl⟩)
        | some flags =>
            refine .inr (.inr ⟨.wake, ?_⟩)
            simp only [OrderStream.consume, stage, queued, Option.isSome_some, if_true]
            exact turns_get

/-- A stream that keeps its stage, its read and its turns. -/
theorem Nears.of_same {n : Nat} {s t u : OrderStream} (h : Nears n s t) (stage : u.stage = t.stage)
    (read : u.read = t.read) (turns : u.turns = t.turns) : Nears n s u := by
  rw [Nears, stage, read, turns]
  exact h

theorem Nears.consume {n : Nat} {s t : OrderStream} (h : Nears n s t) (sound : t.Sound)
    (offered : n ≤ t.changes) (event : StreamEvent) : Nears n s (t.consume event) := by
  rcases h with ended | seen | ⟨read, near⟩
  · rw [consume_ended ended]
    exact .inl ended
  · exact .inr (.inl (seen.trans (sound.read_le event)))
  · rcases sound.nears offered event with ended | seen | ⟨read', near'⟩
    · exact .inl ended
    · exact .inr (.inl seen)
    · exact .inr (.inr ⟨read'.trans read, near'.trans near⟩)

end OrderStream

namespace StreamSystem
open OrderStream OrderEventBroker

/-- The stream keeps its invariant, and what was offered to it stays offered. -/
structure Follows (n : Nat) (s t : OrderStream) : Prop where
  sound : t.Sound
  id : t.id = s.id
  offered : n ≤ t.changes
  near : Nears n s t

variable {n : Nat} {s : OrderStream} {t : StreamSystem}

theorem changes_consume (s : OrderStream) (event : StreamEvent) :
    (s.consume event).changes = s.changes ∧ (s.consume event).id = s.id := by
  have get (snapshot : StreamSnapshot) (asOf : Nat) :
      (s.get snapshot asOf).changes = s.changes ∧ (s.get snapshot asOf).id = s.id := by
    simp only [OrderStream.get]
    split <;> exact ⟨rfl, rfl⟩
  simp only [OrderStream.consume]
  split <;> (try split) <;> first | exact ⟨rfl, rfl⟩ | exact get _ _

theorem Follows.send (h : Follows n s t.stream) (subscribed : Bool) (flags : Nat) :
    Follows n s (t.send subscribed flags).stream := by
  simp only [StreamSystem.send]
  split <;> exact h

theorem Follows.registries (h : Follows n s t.stream) {queue : QueueId} {b : OrderEventBroker}
    (spares : queue ≠ t.stream.id → Spares t.stream.id t.stream.broker b) :
    Follows n s (t.registries queue b).stream := by
  simp only [StreamSystem.registries]
  split
  · exact h
  · rename_i other
    have spares := spares other
    have sound := h.sound
    exact ⟨⟨sound.union, sound.counted, sound.fresh.of_same rfl rfl rfl,
      spares.knows sound.known, fun ended => spares.forgot (sound.forgot ended)⟩,
      h.id, h.offered, h.near⟩

theorem Follows.step (h : Follows n s t.stream) (a : StreamAction) :
    Follows n s (machine.step t a).stream := by
  change Follows n s (t.next a).stream
  cases a with
  | publish orderId => exact h.send _ _
  | publishProgress key => exact h.send _ _
  | resync flags => exact h.send _ _
  | callback =>
      simp only [next]
      split
      · exact h
      · refine ⟨h.sound.receive, h.id, h.offered.trans ?_, h.near.of_same rfl rfl rfl⟩
        simp only [OrderStream.receive]
        split
        · exact Nat.le_succ _
        · exact le_rfl
  | consume event =>
      obtain ⟨changes, id⟩ := changes_consume t.stream event
      exact ⟨h.sound.consume event, id.trans h.id, h.offered.trans changes.ge,
        h.near.consume h.sound h.offered event⟩
  | subscribeOther orderId queue => exact h.registries subscribe_spares
  | watchOther queue deviceId taskId => exact h.registries watchProgress_spares
  | unsubscribeOther orderId queue => exact h.registries unsubscribe_spares

theorem follows_run (sound : s.Sound) {t : StreamSystem} (h : t.stream = s)
    (as : List StreamAction) : Follows s.changes s (machine.run t as).stream :=
  Machine.invariant_run (I := fun u => Follows s.changes s u.stream) (fun _ a h _ => h.step a)
    (by rw [h]; exact ⟨sound, rfl, le_rfl, nears_refl _ s⟩) (Machine.along_true machine t as)

/-- A change offered while the first read is under way. -/
def changedEarly : List StreamAction := [.consume .sqlStart, .publish "order", .callback]

/-- The stream goes on to its next read. -/
def readAgain : List StreamAction :=
  [.consume (.sqlDone (some { status := .queued, deviceId := "robot" })), .consume .progressDone,
    .consume .resume, .consume .awake, .consume .sqlStart]

end StreamSystem
end CoffeeCloud
