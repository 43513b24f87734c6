import CoffeeCloud.Gateway.Api
import CoffeeCloud.Library.Machine

/-!
The workers of the gateway. One pass takes a message from its inbox, and where that is
telemetry more of it for a batch; it acknowledges what the intake took or will never
take, puts back what it may still take, and settles every item with the inbox.
-/
namespace CoffeeCloud
open Library

/-- A message in an inbox; `payload` is what its bytes decode to. -/
structure InboxItem where
  mid : Nat
  topic : String
  payload : Decoded
  attempt : Nat
  generation : Nat

/-- What becomes of an item a pass has taken. -/
inductive UplinkOutcome where
  | acknowledged | putBack | unacknowledged
deriving DecidableEq

/-- What a request of a pass meets: the answer, whether the gateway stops while it waits to retry,
and how many items the inbox has room for then. -/
structure Sending where
  reply : HttpReply
  stopped : Bool := false
  room : Nat := 0

namespace Gateway

/-- `_message_body`: the envelope, where it is an object; a `RecursionError` goes through. -/
def messageBody (item : InboxItem) : Except Failure Json :=
  match item.payload with
  | .value envelope =>
      if envelope.isObj then .ok envelope else .error (.exception "ValueError")
  | .invalid => .error (.exception "ValueError")
  | .tooDeep => .error (.exception "RecursionError")

/-- `value in {"task.progress"}`; lists and objects have no hash. -/
def isProgressType : Json → Except Failure Bool
  | .arr _ | .obj _ => .error (.exception "TypeError")
  | .str text => .ok (text = "task.progress")
  | _ => .ok false

def isBatchableTelemetry (topic : String) (envelope : Json) : Except Failure Bool :=
  if topic.endsWith "/presence" ∨ topic.endsWith "/state" ∨
      (envelope.getD "type").asStr? = some "heartbeat" then .ok true
  else if (envelope.getD "type").asStr? = some "event" ∧ (envelope.getD "payload").isObj then
    isProgressType ((envelope.getD "payload").getD "type")
  else .ok false

/-- What a pass makes of an item it has taken. -/
inductive Sorted where
  | undecodable | batchable | single
  /-- Its decoding or its test raises what nobody catches. -/
  | raising
deriving DecidableEq

def sort (item : InboxItem) : Sorted :=
  match messageBody item with
  | .error failure => if failure = .exception "ValueError" then .undecodable else .raising
  | .ok envelope =>
      match isBatchableTelemetry item.topic envelope with
      | .ok true => .batchable
      | .ok false => .single
      | .error _ => .raising

abbrev Settled := List (InboxItem × UplinkOutcome)

def all (outcome : UplinkOutcome) (items : List InboxItem) : Settled :=
  items.map fun item => (item, outcome)

/-- `_requeue_after_retry`; where the inbox is full, the connection is dropped. -/
def requeueAfterRetry : Nat → List InboxItem → Settled
  | _, [] => []
  | 0, items => all .unacknowledged items
  | room + 1, item :: items => (item, .putBack) :: requeueAfterRetry room items

/-- `_retry`. -/
def retry (sending : Sending) (items : List InboxItem) : Settled :=
  if sending.stopped then all .unacknowledged items else requeueAfterRetry sending.room items

/-- What becomes of the items of one request, unless it raises what nobody catches. -/
def settle {α : Type} (sending : Sending) (result : Except ClientError α)
    (items : List InboxItem) : Option Settled :=
  match result with
  | .error .uncaught => none
  | .error .transient => some (retry sending items)
  | _ => some (all .acknowledged items)

/-- `_process_one`. -/
def processOne (sending : Sending) (item : InboxItem) : Option Settled :=
  settle sending (GatewayApiClient.request sending.reply) [item]

/-- A micro-batch: what it has gathered, what could not be decoded on the way, and why it ended. -/
structure Drained where
  batch : List InboxItem
  undecodable : List InboxItem := []
  deferred : Option InboxItem := none
  /-- The item over which an exception has left the loop. -/
  raising : Option InboxItem := none
  /-- How many items were taken from the inbox. -/
  taken : Nat := 0

/-- The inner loop, over the items that arrive in time. -/
def drain (size : Nat) (batch : List InboxItem) : List InboxItem → Drained
  | [] => { batch }
  | item :: items =>
      if size ≤ batch.length then { batch }
      else
        match sort item with
        | .undecodable =>
            let drained := drain size batch items
            { drained with
              undecodable := item :: drained.undecodable, taken := drained.taken + 1 }
        | .raising => { batch, raising := some item, taken := 1 }
        | .single => { batch, deferred := some item, taken := 1 }
        | .batchable =>
            let drained := drain size (batch ++ [item]) items
            { drained with taken := drained.taken + 1 }

/-- What a pass has done: the items it settled, those it has forgotten because an exception left it,
how often it told the inbox that a task is done, and how many items it took. -/
structure Pass where
  settled : Settled := []
  forgotten : List InboxItem := []
  done : Nat
  taken : Nat
  raised : Bool := false

/-- A single item, the last of its pass; its task is done either way. -/
def lastOne (sending : Sending) (item : InboxItem) (p : Pass) : Pass :=
  match processOne sending item with
  | some settled => { p with settled := p.settled ++ settled, done := p.done + 1 }
  | none => { p with forgotten := [item], done := p.done + 1, raised := true }

def passBatch (size : Nat) (first second : Sending) (item : InboxItem) (items : List InboxItem) :
    Pass :=
  let drained := drain size [item] items
  let refused := all .acknowledged drained.undecodable
  -- Of the batch only the first item is marked done by the outer `finally`.
  let done := drained.undecodable.length + 1
  let taken := drained.taken + 1
  match drained.raising with
  | some culprit =>
      { settled := refused, forgotten := drained.batch ++ [culprit], done, taken, raised := true }
  | none =>
      let done := done + (drained.batch.length - 1)
      match settle first (processBatch drained.batch.length (GatewayApiClient.request first.reply))
          drained.batch with
      | none =>
          { settled := refused, forgotten := drained.batch ++ drained.deferred.toList, done, taken
            raised := true }
      | some sent =>
          let p : Pass := { settled := refused ++ sent, done, taken }
          match drained.deferred with
          | none => p
          | some last => lastOne second last p

/-- One pass of `_worker_loop` over the items that are there in time. -/
def pass (size : Nat) (first second : Sending) : List InboxItem → Pass
  | [] => { done := 0, taken := 0 }
  | item :: items =>
      match sort item with
      | .undecodable => { settled := [(item, .acknowledged)], done := 1, taken := 1 }
      | .raising => { forgotten := [item], done := 1, taken := 1, raised := true }
      | .single => lastOne first item { done := 0, taken := 1 }
      | .batchable => passBatch size first second item items

section Draining
variable (size : Nat)

/-- What a micro-batch has taken is gathered, undecodable or deferred. -/
structure Drains (batch items : List InboxItem) (drained : Drained) : Prop where
  short : drained.taken ≤ items.length
  full : drained.batch.length ≤ max size batch.length
  gathers : ∃ added, drained.batch = batch ++ added ∧ added.Sublist items ∧
    (∀ item ∈ added, sort item = .batchable) ∧
    (items.take drained.taken).Perm
      (added ++ drained.undecodable ++ drained.deferred.toList ++ drained.raising.toList)
  undecodable : ∀ item ∈ drained.undecodable, sort item = .undecodable
  deferred : ∀ item ∈ drained.deferred.toList, sort item = .single
  apart : drained.raising.isSome = true → drained.deferred = none

/-- Where the micro-batch ends before it takes anything into it. -/
theorem drains_here {batch items : List InboxItem} {drained : Drained} (same : drained.batch = batch)
    (short : drained.taken ≤ items.length)
    (taken : (items.take drained.taken).Perm
      (drained.undecodable ++ drained.deferred.toList ++ drained.raising.toList))
    (undecodable : drained.undecodable = [])
    (deferred : ∀ item ∈ drained.deferred.toList, sort item = .single)
    (apart : drained.raising.isSome = true → drained.deferred = none) :
    Drains size batch items drained where
  short := short
  full := by rw [same]; exact Nat.le_max_right _ _
  gathers := ⟨[], by rw [same, List.append_nil], List.nil_sublist _,
    fun _ mem => absurd mem List.not_mem_nil, taken⟩
  undecodable := by simp [undecodable]
  deferred := deferred
  apart := apart

theorem drains (batch items : List InboxItem) :
    Drains size batch items (drain size batch items) := by
  induction items generalizing batch with
  | nil => exact drains_here size rfl (Nat.le_refl 0) .nil rfl (by simp [drain]) (by simp [drain])
  | cons item items ih =>
      have one : 1 ≤ (item :: items).length := Nat.succ_le_succ (Nat.zero_le _)
      unfold drain
      split
      · exact drains_here size rfl (Nat.zero_le _) .nil rfl (by simp) (by simp)
      · rename_i free
        split
        · rename_i sorted
          obtain ⟨short, full, ⟨added, gathered, part, batchable, taken⟩, undecodable, deferred,
            apart⟩ := ih batch
          refine ⟨Nat.succ_le_succ short, full,
            ⟨added, gathered, part.cons item, batchable, ?_⟩, ?_, deferred, apart⟩
          · refine (taken.cons item).trans ?_
            simp only [List.append_assoc, List.cons_append]
            exact List.perm_middle.symm
          · exact List.forall_mem_cons.mpr ⟨sorted, undecodable⟩
        · exact drains_here size rfl one (.refl _) rfl (by simp) (by simp)
        · rename_i sorted
          exact drains_here size rfl one (.refl _) rfl (by simpa using sorted) (by simp)
        · rename_i sorted
          obtain ⟨short, full, ⟨added, gathered, part, batchable, taken⟩, undecodable, deferred,
            apart⟩ := ih (batch ++ [item])
          refine ⟨Nat.succ_le_succ short, ?_,
            ⟨item :: added, ?_, part.cons_cons item, ?_, ?_⟩, undecodable, deferred, apart⟩
          · rw [List.length_append, List.length_singleton] at full
            exact full.trans (by omega)
          · rw [gathered, List.append_assoc, List.singleton_append]
          · exact List.forall_mem_cons.mpr ⟨sorted, batchable⟩
          · exact taken.cons item

end Draining

section Settling

theorem map_all (outcome : UplinkOutcome) (items : List InboxItem) :
    (all outcome items).map Prod.fst = items := by
  induction items with
  | nil => rfl
  | cons item items ih => exact congrArg (item :: ·) ih

theorem map_requeueAfterRetry (room : Nat) (items : List InboxItem) :
    (requeueAfterRetry room items).map Prod.fst = items := by
  induction items generalizing room with
  | nil => cases room <;> rfl
  | cons item items ih =>
      cases room with
      | zero => exact map_all _ _
      | succ room => exact congrArg (item :: ·) (ih room)

theorem map_settle {α : Type} {sending : Sending} {result : Except ClientError α}
    {items : List InboxItem} {settled : Settled} (h : settle sending result items = some settled) :
    settled.map Prod.fst = items := by
  unfold settle retry at h
  split at h
  · cases h
  · cases h
    split
    · exact map_all _ _
    · exact map_requeueAfterRetry _ _
  · cases h
    exact map_all _ _

theorem settle_none {α : Type} (sending : Sending) {result : Except ClientError α}
    (items : List InboxItem) : settle sending result items = none ↔ result = .error .uncaught := by
  unfold settle
  split <;> simp_all

end Settling

section Passes
variable {size : Nat} {first second : Sending}

/-- A pass settles or forgets each item it took. It forgets none unless an exception leaves it, and
then tells the inbox so once for each. -/
structure Settles (items : List InboxItem) (p : Pass) : Prop where
  short : p.taken ≤ items.length
  each : (items.take p.taken).Perm (p.settled.map Prod.fst ++ p.forgotten)
  forgotten : p.forgotten ≠ [] ↔ p.raised = true
  done : p.raised = false → p.done = p.taken

/-- Where all but the last item are settled. -/
theorem settles_lastOne {items : List InboxItem} {sending : Sending} {item : InboxItem} {p : Pass}
    (short : p.taken ≤ items.length)
    (each : (items.take p.taken).Perm (p.settled.map Prod.fst ++ [item]))
    (none : p.forgotten = []) (quiet : p.raised = false) (done : p.done + 1 = p.taken) :
    Settles items (lastOne sending item p) := by
  unfold lastOne
  split
  · rename_i settled sent
    refine ⟨short, ?_, by simp [none, quiet], fun _ => done⟩
    rw [List.map_append, map_settle sent, none, List.append_nil]
    exact each
  · exact ⟨short, each, by simp, fun bad => (nomatch bad)⟩

theorem settles_passBatch (size : Nat) (first second : Sending) (item : InboxItem)
    (items : List InboxItem) :
    Settles (item :: items) (passBatch size first second item items) := by
  obtain ⟨short, -, ⟨added, gathered, -, -, taken⟩, -, -, apart⟩ := drains size [item] items
  have count := taken.length_eq
  rw [List.length_take, Nat.min_eq_left short] at count
  have short : (drain size [item] items).taken + 1 ≤ (item :: items).length := Nat.succ_le_succ short
  have front (rest : List InboxItem) :
      (item :: (added ++ (drain size [item] items).undecodable ++ rest)).Perm
        ((drain size [item] items).undecodable ++ (drain size [item] items).batch ++ rest) := by
    rw [gathered, ← List.cons_append, ← List.cons_append]
    exact List.perm_append_comm.append_right _
  have each := (taken.cons item).trans (by simpa only [List.append_assoc] using front _)
  unfold passBatch
  simp only
  split
  · rename_i culprit stopped
    have last : (drain size [item] items).deferred = none := apart (by simp [stopped])
    refine ⟨short, ?_, by simp, fun bad => (nomatch bad)⟩
    rw [map_all]
    simpa [last, stopped] using each
  · rename_i through
    split
    · refine ⟨short, ?_, by simp [gathered], fun bad => (nomatch bad)⟩
      rw [map_all]
      simpa [through] using each
    · rename_i sent ok
      have settled : (all .acknowledged (drain size [item] items).undecodable ++ sent).map Prod.fst =
          (drain size [item] items).undecodable ++ (drain size [item] items).batch := by
        rw [List.map_append, map_all, map_settle ok]
      simp only [List.length_append, List.length_nil, through, Option.toList_none] at count
      split
      · rename_i last
        refine ⟨short, ?_, by simp, fun _ => ?_⟩
        · simpa [settled, through, last] using each
        · simp only [last, Option.toList_none, List.length_nil] at count
          simp only [gathered, List.length_append, List.length_cons, List.length_nil]
          omega
      · rename_i last deferred
        refine settles_lastOne short ?_ rfl rfl ?_
        · simpa [settled, through, deferred] using each
        · simp only [deferred, Option.toList_some, List.length_cons, List.length_nil] at count
          simp only [gathered, List.length_append, List.length_cons, List.length_nil]
          omega

theorem settles_pass (size : Nat) (first second : Sending) (items : List InboxItem) :
    Settles items (pass size first second items) := by
  cases items with
  | nil => exact ⟨Nat.le_refl 0, .nil, by simp [pass], fun _ => rfl⟩
  | cons item items =>
      have one : 1 ≤ (item :: items).length := Nat.succ_le_succ (Nat.zero_le _)
      simp only [pass]
      split
      · exact ⟨one, by simp, by simp, fun _ => rfl⟩
      · exact ⟨one, by simp, by simp, fun bad => (nomatch bad)⟩
      · exact settles_lastOne one (by simp) rfl rfl rfl
      · exact settles_passBatch size first second item items

/-- Why an item of a request for `n` ended as it did, given what the request came to: it went through,
or it raised a `ValueError`, and the item is acknowledged; on a `ConnectionError` it is put back,
unless the gateway stops or the inbox has no room for them all. -/
inductive Disposed {α : Type} (sending : Sending) (n : Nat) (result : Except ClientError α) :
    UplinkOutcome → Prop
  | through {a : α} (ok : result = .ok a) : Disposed sending n result .acknowledged
  | final {e : ClientError} (raised : result = .error e) (value : e.IsValueError) :
      Disposed sending n result .acknowledged
  | putBack (failed : result = .error .transient) (goes : sending.stopped = false)
      (room : 0 < sending.room) : Disposed sending n result .putBack
  | unacknowledged (failed : result = .error .transient)
      (why : sending.stopped = true ∨ sending.room < n) : Disposed sending n result .unacknowledged

/-- By induction over what is still to be put back, with the room that is left for it. -/
theorem disposed_requeue {α : Type} {sending : Sending} {n : Nat} {result : Except ClientError α}
    (failed : result = .error .transient) (goes : sending.stopped = false) (room : Nat)
    (items : List InboxItem) (less : room ≤ sending.room)
    (rest : sending.room + items.length ≤ n + room) :
    ∀ e ∈ requeueAfterRetry room items, Disposed sending n result e.2 := by
  induction items generalizing room with
  | nil => cases room <;> simp [requeueAfterRetry]
  | cons item items ih =>
      rw [List.length_cons] at rest
      cases room with
      | zero =>
          intro e mem
          obtain ⟨item, -, rfl⟩ := List.mem_map.mp mem
          exact .unacknowledged failed (.inr (by omega))
      | succ room =>
          exact List.forall_mem_cons.mpr
            ⟨.putBack failed goes (by omega), ih room (by omega) (by omega)⟩

theorem disposed_settle {α : Type} {sending : Sending} {result : Except ClientError α}
    {items : List InboxItem} {settled : Settled} (sent : settle sending result items = some settled) :
    ∀ e ∈ settled, e.1 ∈ items ∧ Disposed sending items.length result e.2 := by
  intro e mem
  have own : e.1 ∈ items := by
    rw [← map_settle sent]
    exact List.mem_map_of_mem mem
  refine ⟨own, ?_⟩
  unfold settle retry at sent
  split at sent
  · cases sent
  · cases sent
    split at mem
    · rename_i stops
      obtain ⟨item, -, rfl⟩ := List.mem_map.mp mem
      exact .unacknowledged rfl (.inl stops)
    · rename_i goes
      exact disposed_requeue rfl (by simpa using goes) _ items le_rfl (by omega) e mem
  · rename_i caught lasting
    cases sent
    obtain ⟨item, -, rfl⟩ := List.mem_map.mp mem
    cases result with
    | ok a => exact .through rfl
    | error e =>
        cases e with
        | rejected | unsent | unreadable => exact .final rfl (by decide)
        | transient => exact absurd rfl lasting
        | uncaught => exact absurd rfl caught

/-- An item of a pass and what became of it: it was undecodable, or the request it went in decided,
alone or with a micro-batch of the items of the pass. -/
inductive Handled (size : Nat) (first second : Sending) (items : List InboxItem) :
    InboxItem → UplinkOutcome → Prop
  | undecodable {item : InboxItem} (sorted : sort item = .undecodable) :
      Handled size first second items item .acknowledged
  | single {item : InboxItem} {o : UplinkOutcome} (sorted : sort item = .single) {sending : Sending}
      (sent : sending = first ∨ sending = second)
      (disposed : Disposed sending 1 (GatewayApiClient.request sending.reply) o) :
      Handled size first second items item o
  | batched {item : InboxItem} {o : UplinkOutcome} (batch : List InboxItem) (own : item ∈ batch)
      (part : batch.Sublist items) (short : batch.length ≤ max size 1)
      (telemetry : ∀ other ∈ batch, sort other = .batchable)
      (disposed : Disposed first batch.length
        (processBatch batch.length (GatewayApiClient.request first.reply)) o) :
      Handled size first second items item o

variable {items : List InboxItem}

theorem handled_undecodable {refused : List InboxItem}
    (sorted : ∀ item ∈ refused, sort item = .undecodable) :
    ∀ e ∈ all .acknowledged refused, Handled size first second items e.1 e.2 := by
  intro e mem
  obtain ⟨item, own, rfl⟩ := List.mem_map.mp mem
  exact .undecodable (sorted item own)

theorem handled_one {sending : Sending} (sent : sending = first ∨ sending = second)
    {item : InboxItem} (sorted : sort item = .single) {p : Pass}
    (before : ∀ e ∈ p.settled, Handled size first second items e.1 e.2) :
    ∀ e ∈ (lastOne sending item p).settled, Handled size first second items e.1 e.2 := by
  unfold lastOne
  split
  · rename_i settled ok
    refine List.forall_mem_append.mpr ⟨before, fun e mem => ?_⟩
    obtain ⟨own, disposed⟩ := disposed_settle ok e mem
    rw [List.mem_singleton.mp own]
    exact .single sorted sent disposed
  · exact before

theorem handled_batch {item : InboxItem} (sorted : sort item = .batchable) {drained : Drained}
    (drains : Drains size [item] items drained) {sent : Settled}
    (ok : settle first
      (processBatch drained.batch.length (GatewayApiClient.request first.reply)) drained.batch =
        some sent) :
    ∀ e ∈ sent, Handled size first second (item :: items) e.1 e.2 := by
  intro e mem
  obtain ⟨added, gathered, part, batchable, -⟩ := drains.gathers
  obtain ⟨own, disposed⟩ := disposed_settle ok e mem
  refine .batched drained.batch own ?_ drains.full ?_ disposed
  · rw [gathered]
    exact part.cons_cons item
  · rw [gathered]
    exact List.forall_mem_cons.mpr ⟨sorted, batchable⟩

theorem handled_passBatch {item : InboxItem} (sorted : sort item = .batchable) :
    ∀ e ∈ (passBatch size first second item items).settled,
      Handled size first second (item :: items) e.1 e.2 := by
  have drains := drains size [item] items
  unfold passBatch
  simp only
  split
  · exact handled_undecodable drains.undecodable
  · split
    · exact handled_undecodable drains.undecodable
    · rename_i sent ok
      have settled : ∀ e ∈ (_ : Settled), Handled size first second (item :: items) e.1 e.2 :=
        List.forall_mem_append.mpr
          ⟨handled_undecodable drains.undecodable, handled_batch sorted drains ok⟩
      split
      · exact settled
      · rename_i last deferred
        exact handled_one (.inr rfl) (drains.deferred last (by simp [deferred])) settled

/-- Each item a pass takes is settled or, where an exception leaves the pass, forgotten; and those
that are settled are handled, whatever the requests meet. -/
theorem handled_pass (items : List InboxItem) :
    Settles items (pass size first second items) ∧
      ∀ e ∈ (pass size first second items).settled, Handled size first second items e.1 e.2 := by
  refine ⟨settles_pass size first second items, ?_⟩
  cases items with
  | nil => simp [pass]
  | cons item items =>
      simp only [pass]
      split
      · rename_i sorted
        exact handled_undecodable (List.forall_mem_singleton.mpr sorted)
      · simp
      · rename_i sorted
        exact handled_one (.inl rfl) sorted (by simp)
      · rename_i sorted
        exact handled_passBatch sorted

/-- Two heartbeats with an undecodable message between them, and a message of its own. -/
def mixed : List InboxItem :=
  [⟨1, "t", .value (.obj [("type", .str "heartbeat")]), 0, 1⟩, ⟨2, "t", .invalid, 0, 1⟩,
   ⟨3, "t", .value (.obj [("type", .str "heartbeat")]), 0, 1⟩, ⟨4, "t", .value (.obj []), 0, 1⟩]

/-- The intake is out of reach for the batch, and the last message cannot be written. -/
theorem handled_pass_mixed :
    ((pass 3 { reply := .unreachable, room := 1 } { reply := .unencodable } mixed).settled.map
        fun e => (e.1.mid, e.2)) =
      [(2, .acknowledged), (1, .putBack), (3, .unacknowledged), (4, .acknowledged)] ∧
    Settles mixed (pass 3 { reply := .unreachable, room := 1 } { reply := .unencodable } mixed) ∧
    ∀ e ∈ (pass 3 { reply := .unreachable, room := 1 } { reply := .unencodable } mixed).settled,
      Handled 3 { reply := .unreachable, room := 1 } { reply := .unencodable } mixed e.1 e.2 :=
  ⟨by decide +kernel, handled_pass mixed⟩

end Passes

section Raising
variable {size : Nat} {first second : Sending}

/-- A request that raises what nobody catches: it cannot be written or sent at all, or its answer is
nested too deep to be read. -/
inductive RequestRaises : HttpReply → Prop
  | broken : RequestRaises .broken
  | tooDeep {status : Nat} (fine : status < 400) : RequestRaises (.answered status (some .tooDeep))

/-- A batch raises so, too, where its answer is no object. -/
inductive BatchRaises : HttpReply → Prop
  | request {reply : HttpReply} (raises : RequestRaises reply) : BatchRaises reply
  | noObject {status : Nat} {v : Json} (fine : status < 400) (other : v.isObj = false) :
      BatchRaises (.answered status (some (.value v)))

theorem request_uncaught {reply : HttpReply} :
    GatewayApiClient.request reply = .error .uncaught ↔ RequestRaises reply := by
  constructor
  · intro raised
    cases reply with
    | answered status body =>
        simp only [GatewayApiClient.request] at raised
        split at raised
        · split at raised <;> cases raised
        · rename_i fine
          split at raised
          case h_4 => exact .tooDeep (not_le.mp fine)
          all_goals cases raised
    | unreachable | unencodable => cases raised
    | broken => exact .broken
  · intro raises
    cases raises with
    | broken => rfl
    | tooDeep fine => simp [GatewayApiClient.request, not_le.mpr fine]

theorem request_value {reply : HttpReply} {v : Json} (sent : GatewayApiClient.request reply = .ok v)
    (other : v.isObj = false) : ∃ status, reply = .answered status (some (.value v)) ∧ status < 400 := by
  cases reply with
  | answered status body =>
      simp only [GatewayApiClient.request] at sent
      split at sent
      · split at sent <;> cases sent
      · rename_i fine
        split at sent
        · cases sent
          cases other
        · cases sent
          exact ⟨status, rfl, not_le.mp fine⟩
        all_goals cases sent
  | unreachable | unencodable | broken => cases sent

theorem processBatch_uncaught {n : Nat} {reply : HttpReply} :
    processBatch n (GatewayApiClient.request reply) = .error .uncaught ↔ BatchRaises reply := by
  constructor
  · intro raised
    cases sent : GatewayApiClient.request reply with
    | error e =>
        rw [sent] at raised
        cases raised
        exact .request (request_uncaught.mp sent)
    | ok v =>
        rw [sent] at raised
        simp only [processBatch] at raised
        split at raised
        · split at raised
          · split at raised <;> cases raised
          · cases raised
        · rename_i other
          rw [Bool.not_eq_true] at other
          obtain ⟨status, rfl, fine⟩ := request_value sent other
          exact .noObject fine other
  · intro raises
    cases raises with
    | request raises =>
        rw [request_uncaught.mpr raises]
        rfl
    | noObject fine other => simp [GatewayApiClient.request, not_le.mpr fine, processBatch, other]

def batchables (items : List InboxItem) : Nat :=
  (items.filter fun item => sort item = .batchable).length

/-- An item of some kind, behind items the micro-batch takes up before it is full. -/
structure Reaches (kind : Sorted) (size gathered : Nat) (before : List InboxItem) (item : InboxItem) :
    Prop where
  sorted : sort item = kind
  passes : ∀ other ∈ before, sort other = .undecodable ∨ sort other = .batchable
  room : gathered + batchables before < size

/-- Some item of the kind is reached. -/
def SomeReached (kind : Sorted) (size gathered : Nat) (behind items : List InboxItem) : Prop :=
  ∃ before item after, items = before ++ item :: after ∧
    Reaches kind size gathered (behind ++ before) item

variable {kind : Sorted}

theorem someReached_cons (gathered : Nat) (item : InboxItem) (items : List InboxItem) :
    SomeReached kind size gathered [] (item :: items) ↔
      Reaches kind size gathered [] item ∨ SomeReached kind size gathered [item] items := by
  constructor
  · intro some
    obtain ⟨before, other, after, split, reaches⟩ := some
    cases before with
    | nil =>
        cases split
        exact .inl reaches
    | cons first before =>
        cases split
        exact .inr ⟨before, other, after, rfl, reaches⟩
  · intro cases'
    cases cases' with
    | inl here => exact ⟨[], item, items, rfl, here⟩
    | inr later =>
        obtain ⟨before, other, after, split, reaches⟩ := later
        exact ⟨item :: before, other, after, congrArg (item :: ·) split, reaches⟩

/-- An item before is passed, and counts where it is gathered. -/
theorem reaches_cons {gathered : Nat} {first item : InboxItem} {before : List InboxItem} :
    Reaches kind size gathered (first :: before) item ↔
      (sort first = .undecodable ∧ Reaches kind size gathered before item) ∨
        (sort first = .batchable ∧ Reaches kind size (gathered + 1) before item) := by
  constructor
  · intro reaches
    obtain ⟨kind, passes, room⟩ := reaches
    obtain ⟨own, passes⟩ := List.forall_mem_cons.mp passes
    cases own with
    | inl sorted => exact .inl ⟨sorted, kind, passes, by simpa [batchables, sorted] using room⟩
    | inr sorted =>
        refine .inr ⟨sorted, kind, passes, ?_⟩
        simp only [batchables, sorted, List.filter_cons, decide_true, if_true, List.length_cons] at room ⊢
        omega
  · intro cases'
    cases cases' with
    | inl h =>
        obtain ⟨sorted, kind, passes, room⟩ := h
        exact ⟨kind, List.forall_mem_cons.mpr ⟨.inl sorted, passes⟩,
          by simpa [batchables, sorted] using room⟩
    | inr h =>
        obtain ⟨sorted, kind, passes, room⟩ := h
        refine ⟨kind, List.forall_mem_cons.mpr ⟨.inr sorted, passes⟩, ?_⟩
        simp only [batchables, sorted, List.filter_cons, decide_true, if_true, List.length_cons] at room ⊢
        omega

theorem someReached_behind {gathered : Nat} {item : InboxItem} {items : List InboxItem} :
    SomeReached kind size gathered [item] items ↔
      (sort item = .undecodable ∧ SomeReached kind size gathered [] items) ∨
        (sort item = .batchable ∧ SomeReached kind size (gathered + 1) [] items) := by
  unfold SomeReached
  simp only [List.singleton_append, List.nil_append, reaches_cons]
  grind

/-- A micro-batch ends over an item that raises, and before a single one, exactly where it reaches it. -/
theorem drain_ends (size : Nat) (batch items : List InboxItem) :
    ((drain size batch items).raising.isSome = true ↔
      SomeReached .raising size batch.length [] items) ∧
    ((drain size batch items).deferred.isSome = true ↔
      SomeReached .single size batch.length [] items) := by
  induction items generalizing batch with
  | nil => simp [drain, SomeReached]
  | cons item items ih =>
      rw [someReached_cons, someReached_behind, someReached_cons, someReached_behind]
      unfold drain
      split
      · rename_i full
        have none : ∀ kind before other, ¬ Reaches kind size batch.length before other :=
          fun _ _ _ reaches => by
            have room := reaches.room
            omega
        have none' : ∀ kind before other, ¬ Reaches kind size (batch.length + 1) before other :=
          fun _ _ _ reaches => by
            have room := reaches.room
            omega
        simp [SomeReached, none, none']
      · rename_i free
        have here (kind : Sorted) : Reaches kind size batch.length [] item ↔ sort item = kind :=
          ⟨Reaches.sorted, fun sorted => ⟨sorted, fun _ mem => absurd mem List.not_mem_nil,
            by simpa [batchables] using free⟩⟩
        rw [here, here]
        split
        · rename_i sorted
          simp [sorted, ih]
        · rename_i sorted
          simp [sorted]
        · rename_i sorted
          simp [sorted]
        · rename_i sorted
          simp [sorted, ih, List.length_append]

theorem lastOne_raises {sending : Sending} {item : InboxItem} {p : Pass} (quiet : p.raised = false) :
    (lastOne sending item p).raised = true ↔ RequestRaises sending.reply := by
  rw [← request_uncaught, ← settle_none sending [item]]
  unfold lastOne processOne
  split
  · rename_i settled sent
    simp [sent, quiet]
  · rename_i raised
    simp [raised]

theorem passBatch_raises (item : InboxItem) (items : List InboxItem) :
    (passBatch size first second item items).raised = true ↔
      SomeReached .raising size 1 [] items ∨ BatchRaises first.reply ∨
        SomeReached .single size 1 [] items ∧ RequestRaises second.reply := by
  obtain ⟨raises, defers⟩ := drain_ends size [item] items
  rw [← List.length_singleton (a := item), ← raises, ← defers,
    ← processBatch_uncaught (n := (drain size [item] items).batch.length),
    ← settle_none first (drain size [item] items).batch]
  unfold passBatch
  simp only
  split
  · rename_i culprit stopped
    simp [stopped]
  · rename_i through
    split
    · rename_i raised
      simp [raised]
    · rename_i sent ok
      split
      · rename_i last
        simp [through, ok, last]
      · rename_i last deferred
        simp [through, ok, deferred, lastOne_raises]

/-- When an exception leaves a pass: over the first item, whose own decoding or test raises, or
which is sent alone in a request that raises; or the first goes into a batch, and an item is taken up
whose decoding or test raises, the request of the batch raises, or that of the item that ended it. -/
theorem pass_raises_iff (items : List InboxItem) :
    (pass size first second items).raised = true ↔
      ∃ item rest, items = item :: rest ∧
        (sort item = .raising ∨ sort item = .single ∧ RequestRaises first.reply ∨
          sort item = .batchable ∧ (SomeReached .raising size 1 [] rest ∨ BatchRaises first.reply ∨
            SomeReached .single size 1 [] rest ∧ RequestRaises second.reply)) := by
  cases items with
  | nil => simp [pass]
  | cons item items =>
      simp only [List.cons.injEq, ↓existsAndEq, and_true, true_and, pass]
      split
      · rename_i sorted
        simp [sorted]
      · rename_i sorted
        simp [sorted]
      · rename_i sorted
        simp [sorted, lastOne_raises]
      · rename_i sorted
        simp [sorted, passBatch_raises]

theorem isProgressType_raises (type : Json) :
    (∃ e, isProgressType type = .error e) ↔ type.isArr ∨ type.isObj := by
  cases type <;> simp [isProgressType, Json.isArr, Json.isObj]

/-- A message whose test raises: an event, under no topic of telemetry, whose payload has a type
without a hash. -/
structure Unhashable (topic : String) (envelope : Json) : Prop where
  up : ¬ (topic.endsWith "/presence" ∨ topic.endsWith "/state")
  event : (envelope.getD "type").asStr? = some "event"
  payload : (envelope.getD "payload").isObj
  type : ((envelope.getD "payload").getD "type").isArr ∨ ((envelope.getD "payload").getD "type").isObj

theorem isBatchableTelemetry_raises (topic : String) (envelope : Json) :
    (∃ e, isBatchableTelemetry topic envelope = .error e) ↔ Unhashable topic envelope := by
  unfold isBatchableTelemetry
  constructor
  · intro raises
    split at raises
    · obtain ⟨e, bad⟩ := raises
      cases bad
    · rename_i plain
      simp only [not_or] at plain
      split at raises
      · rename_i event
        exact ⟨not_or.mpr ⟨plain.1, plain.2.1⟩, event.1, event.2, (isProgressType_raises _).mp raises⟩
      · obtain ⟨e, bad⟩ := raises
        cases bad
  · intro unhashable
    obtain ⟨up, event, payload, type⟩ := unhashable
    have plain : ¬ (topic.endsWith "/presence" ∨ topic.endsWith "/state" ∨
        (envelope.getD "type").asStr? = some "heartbeat") := by
      rw [event]
      simpa using up
    rw [if_neg plain, if_pos ⟨event, payload⟩]
    exact (isProgressType_raises _).mpr type

/-- An item raises where it is nested too deep to be decoded, or where its test does. -/
theorem sort_raising (item : InboxItem) :
    sort item = .raising ↔ item.payload = .tooDeep ∨
      ∃ envelope, messageBody item = .ok envelope ∧ Unhashable item.topic envelope := by
  unfold sort
  cases decoded : item.payload with
  | tooDeep => simp [messageBody, decoded]
  | invalid => simp [messageBody, decoded]
  | value envelope =>
      cases object : envelope.isObj with
      | false => simp [messageBody, decoded, object]
      | true =>
          simp only [messageBody, decoded, object, if_true, Except.ok.injEq, exists_eq_left',
            ← isBatchableTelemetry_raises, reduceCtorEq, false_or]
          cases isBatchableTelemetry item.topic envelope with
          | error e => simp
          | ok b => cases b <;> simp

end Raising

section Runs

/-- An inbox with its worker: how many tasks it has not been told are done, the messages that
arrived, and those acknowledged, left to the broker, or forgotten when the loop broke off. -/
structure Inbox where
  queue : List InboxItem := []
  unfinished : Int := 0
  arrived : List InboxItem := []
  acknowledged : List InboxItem := []
  left : List InboxItem := []
  forgotten : List InboxItem := []
  /-- An exception has left the loop, and the thread is gone. -/
  dead : Bool := false

/-- A message arrives, or the worker makes a pass over the items that come in time. -/
inductive InboxStep where
  | arrive (mid : Nat) (topic : String) (payload : Decoded) (generation : Nat)
  | work (size inTime : Nat) (first second : Sending)

def again (item : InboxItem) : InboxItem := { item with attempt := item.attempt + 1 }

def those (o : UplinkOutcome) (settled : Settled) : List InboxItem :=
  (settled.filter fun e => e.2 = o).map Prod.fst

namespace Inbox

def next (s : Inbox) : InboxStep → Inbox
  | .arrive mid topic payload generation =>
      let item : InboxItem := ⟨mid, topic, payload, 0, generation⟩
      { s with
        queue := s.queue ++ [item], unfinished := s.unfinished + 1, arrived := item :: s.arrived }
  | .work size inTime first second =>
      if s.dead then s
      else
        let p := pass size first second (s.queue.take inTime)
        { s with
          queue := s.queue.drop p.taken ++ (those .putBack p.settled).map again
          unfinished := s.unfinished - p.done + (those .putBack p.settled).length
          acknowledged := those .acknowledged p.settled ++ s.acknowledged
          left := those .unacknowledged p.settled ++ s.left
          forgotten := p.forgotten ++ s.forgotten
          dead := p.raised }

def machine : Machine Inbox InboxStep Unit where
  next s step := (s.next step, ())

/-- A message as it arrived. -/
def letter (item : InboxItem) : InboxItem := { item with attempt := 0 }

/-- Every message that arrived is in the queue, acknowledged, left or forgotten, each once. None is
forgotten while the worker lives, and the inbox then waits for as many tasks as there are in the
queue. -/
structure Accounts (s : Inbox) : Prop where
  each : s.arrived.Perm ((s.queue ++ s.acknowledged ++ s.left ++ s.forgotten).map letter)
  forgotten : s.forgotten ≠ [] ↔ s.dead = true
  unfinished : s.dead = false → s.unfinished = s.queue.length

theorem those_perm (settled : Settled) :
    (settled.map Prod.fst).Perm
      (those .putBack settled ++ those .acknowledged settled ++ those .unacknowledged settled) := by
  induction settled with
  | nil => exact .nil
  | cons e settled ih =>
      obtain ⟨item, o⟩ := e
      cases o with
      | putBack => exact ih.cons item
      | acknowledged =>
          refine (ih.cons item).trans ?_
          simp only [those, List.filter_cons, reduceCtorEq, decide_false, decide_true, if_true,
            List.map_cons, Bool.false_eq_true, if_false]
          exact List.perm_middle.symm.append_right _ |>.trans (by simp)
      | unacknowledged =>
          refine (ih.cons item).trans ?_
          simp only [those, List.filter_cons, reduceCtorEq, decide_false, decide_true, if_true,
            List.map_cons, Bool.false_eq_true, if_false]
          exact List.perm_middle.symm

theorem map_letter_again (items : List InboxItem) :
    (items.map again).map letter = items.map letter := by
  rw [List.map_map]
  rfl

/-- What a pass takes from the queue is put back, acknowledged, left or forgotten. -/
theorem each_work {s : Inbox} {p : Pass}
    (each : s.arrived.Perm ((s.queue ++ s.acknowledged ++ s.left ++ s.forgotten).map letter))
    (settled : (s.queue.take p.taken).Perm (p.settled.map Prod.fst ++ p.forgotten)) :
    s.arrived.Perm ((s.queue.drop p.taken ++ (those .putBack p.settled).map again ++
      (those .acknowledged p.settled ++ s.acknowledged) ++
      (those .unacknowledged p.settled ++ s.left) ++ (p.forgotten ++ s.forgotten)).map letter) := by
  classical
  have moved := (settled.trans ((those_perm p.settled).append_right _)).map letter
  have whole : s.queue.map letter =
      (s.queue.take p.taken).map letter ++ (s.queue.drop p.taken).map letter := by
    rw [← List.map_append, List.take_append_drop]
  refine each.trans (List.perm_iff_count.mpr fun item => ?_)
  have count := moved.count_eq item
  simp only [List.map_append, map_letter_again, whole, List.count_append] at count ⊢
  omega

theorem Accounts.work {s : Inbox} (accounts : Accounts s) (running : s.dead = false)
    (size inTime : Nat) (first second : Sending) :
    Accounts (s.next (.work size inTime first second)) := by
  obtain ⟨short, settled, forgotten, done⟩ :=
    settles_pass size first second (s.queue.take inTime)
  have none : s.forgotten = [] := by
    by_contra some
    rw [accounts.forgotten.mp some] at running
    cases running
  have unfinished := accounts.unfinished running
  have each := accounts.each
  simp only [next, running, Bool.false_eq_true, if_false]
  generalize Gateway.pass size first second (s.queue.take inTime) = p at *
  rw [List.length_take] at short
  rw [List.take_take, Nat.min_eq_left (by omega)] at settled
  refine ⟨each_work each settled, ?_, fun good => ?_⟩
  · simpa [none] using forgotten
  · have done := done good
    have count := settled.length_eq
    simp only [List.length_append, List.length_drop, List.length_map]
    omega

theorem Accounts.next {s : Inbox} (accounts : Accounts s) (step : InboxStep) :
    Accounts (s.next step) := by
  cases step with
  | arrive mid topic payload generation =>
      refine ⟨(accounts.each.cons _).trans ?_, accounts.forgotten, fun running => ?_⟩
      · simp only [Inbox.next, List.map_append, List.append_assoc, List.map_cons,
          List.singleton_append]
        exact List.perm_middle.symm
      · have unfinished := accounts.unfinished running
        simp only [Inbox.next, List.length_append, List.length_singleton]
        omega
  | work size inTime first second =>
      cases running : s.dead with
      | false => exact accounts.work running size inTime first second
      | true =>
          have same : s.next (.work size inTime first second) = s := by simp [Inbox.next, running]
          rw [same]
          exact accounts

/-- Over any arrivals and passes, whatever the requests meet, every message that arrived is in the
queue, acknowledged, left to the broker or forgotten by the pass an exception left, each once and of
its generation. -/
theorem inbox_accounts (steps : List InboxStep) : Accounts (machine.run {} steps) :=
  Machine.Reachable.invariant (M := machine) ⟨steps, rfl⟩ ⟨.nil, by simp, fun _ => rfl⟩
    fun _ step accounts => accounts.next step

end Inbox

end Runs

end Gateway
end CoffeeCloud
