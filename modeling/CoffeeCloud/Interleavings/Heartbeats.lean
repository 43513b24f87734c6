import CoffeeCloud.Library.Machine
import CoffeeCloud.Library.PartialMap
import CoffeeCloud.ProductionState
import CoffeeCloud.Services.Heartbeats

/-!
Heartbeats of one boot that overlap. A call learns the identity in one
transaction and applies its heartbeat in another, and other calls fall between.
What the dispatcher reads is the report the row is left with.
-/
namespace CoffeeCloud
open Library

/-- What the row says of the heartbeat it was last left by. -/
structure HeartbeatReport where
  bootId : Option String
  sequence : Option Nat
  status : Json

def HeartbeatTerminal.report (t : HeartbeatTerminal) : HeartbeatReport :=
  ⟨t.activeBootId, t.lastSequence, t.reportedStatus⟩

namespace HeartbeatService
open HeartbeatRepository Tx
variable {env : Env} {driver : Driver} {deviceId : String} {payload : Heartbeat}
  {identity : HeartbeatIdentity} {persist : Bool} {rows : HeartbeatRows} {receivedAt : Time}

/-- The heartbeat is for the device, the database takes what it would write, and it is new to the
history where one is kept. -/
def Admitted (env : Env) (deviceId : String) (payload : Heartbeat) (persist : Bool)
    (rows : HeartbeatRows) : Prop :=
  payload.deviceId = deviceId ∧ Taken env.driver payload.rowParameters ∧
    (persist = true → Taken env.driver (payload.historyParameters (messageId env payload)) ∧
      ∀ r ∈ rows.inbox, r.messageId ≠ messageId env payload ∧
        ¬ r.Conflicts payload.bootId payload.sequence)

instance (env : Env) (deviceId : String) (payload : Heartbeat) (persist : Bool)
    (rows : HeartbeatRows) : Decidable (Admitted env deviceId payload persist rows) :=
  inferInstanceAs (Decidable (_ ∧ _))

/-- The heartbeat is admitted, and in order by what the caller knows. -/
def Applies (env : Env) (deviceId : String) (payload : Heartbeat)
    (identity : HeartbeatIdentity) (persist : Bool) (rows : HeartbeatRows) : Prop :=
  Admitted env deviceId payload persist rows ∧ ¬ OutOfOrder identity payload

theorem onlyIf_requestDispatch (rows : HeartbeatRows) (c : Prop) [Decidable c] (reason : String) :
    ∃ rows', onlyIf c (requestDispatch reason) rows = .ok ((), rows') ∧
      rows'.terminal = rows.terminal := by
  by_cases asked : c
  · simp only [onlyIf, if_pos asked]
    exact ⟨_, rfl, rfl⟩
  · simp only [onlyIf, if_neg asked]
    exact ⟨rows, rfl, rfl⟩

/-- The history takes a row that the database takes and that clashes with none; any other raises. -/
theorem insertHeartbeat_spec (row : HeartbeatRow) :
    ((persist = true → Taken driver (payload.historyParameters row.messageId) ∧
        ∀ r ∈ rows.inbox, ¬ r.Conflicts row.bootId row.sequence) ∧
      ∃ rows', onlyIf (persist = true) (insertHeartbeat driver payload row) rows =
        .ok ((), rows') ∧ rows'.terminal = rows.terminal) ∨
    (persist = true ∧ ¬ (Taken driver (payload.historyParameters row.messageId) ∧
        ∀ r ∈ rows.inbox, ¬ r.Conflicts row.bootId row.sequence) ∧
      ∃ e, onlyIf (persist = true) (insertHeartbeat driver payload row) rows = .error e) := by
  by_cases kept : persist = true
  · simp only [onlyIf, if_pos kept, insertHeartbeat, bindParameters]
    by_cases taken : Taken driver (payload.historyParameters row.messageId)
    · simp only [apply_ensure_bind taken, apply_read_bind]
      by_cases free : (rows.inbox.any fun r => r.Conflicts row.bootId row.sequence) = false
      · simp only [apply_ensure_bind free]
        exact .inl ⟨fun _ => ⟨taken, by simpa using free⟩, _, rfl, rfl⟩
      · refine .inr ⟨kept, fun both => free (by simpa using both.2), ?_⟩
        exact ⟨_, apply_bind_of_error (ensure_refused free _) _⟩
    · refine .inr ⟨kept, fun both => taken both.1, ?_⟩
      exact ⟨_, apply_bind_of_error (ensure_refused taken _) _⟩
  · simp only [onlyIf, if_neg kept]
    exact .inl ⟨fun on => absurd on kept, rows, rfl, rfl⟩

/-- A heartbeat new to the history leaves its report where it is in order and the database takes it;
otherwise it leaves the report there is, or raises. -/
theorem recordHeartbeat_spec (own : rows.terminal.id = identity.id) (messageId digest : String)
    (payload : Heartbeat) (persist : Bool) (receivedAt : Time) :
    (Taken driver payload.rowParameters ∧ ¬ OutOfOrder identity payload ∧
      (persist = true → Taken driver (payload.historyParameters messageId) ∧
        ∀ r ∈ rows.inbox, ¬ r.Conflicts payload.bootId payload.sequence) ∧
      ∃ rows', recordHeartbeat driver messageId digest payload identity persist receivedAt rows =
          .ok ({ duplicate := false, disposition := "ACCEPTED", receivedAt }, rows') ∧
        rows'.terminal.id = identity.id ∧
        rows'.terminal.report = ⟨payload.bootId, payload.sequence, payload.reportedStatus⟩) ∨
    (¬ (Taken driver payload.rowParameters ∧ ¬ OutOfOrder identity payload ∧
        (persist = true → Taken driver (payload.historyParameters messageId) ∧
          ∀ r ∈ rows.inbox, ¬ r.Conflicts payload.bootId payload.sequence)) ∧
      ((∃ answer rows', recordHeartbeat driver messageId digest payload identity persist receivedAt
            rows = .ok (answer, rows') ∧ answer.disposition ≠ "ACCEPTED" ∧
          rows'.terminal.id = identity.id ∧ rows'.terminal.report = rows.terminal.report) ∨
        ∃ e, recordHeartbeat driver messageId digest payload identity persist receivedAt rows =
          .error e)) := by
  simp only [recordHeartbeat]
  rcases @insertHeartbeat_spec driver payload persist rows
    ⟨messageId, digest, payload.bootId, payload.sequence, _⟩ with
    ⟨keeps, rows₁, ran, terminal₁⟩ | ⟨kept, not, e, raised⟩
  · rw [apply_bind_of_ok ran]
    by_cases late : OutOfOrder identity payload
    · refine .inr ⟨fun all => all.2.1 late, .inl ?_⟩
      simp only [late, decide_true, if_true, touchOnline, update, apply_write_bind, terminal₁,
        if_pos own]
      obtain ⟨rows', asked, terminal⟩ := onlyIf_requestDispatch _
        (decide (identity.connectionStatus ≠ some "online") = true) "heartbeat-online"
      rw [apply_bind_of_ok asked]
      exact ⟨_, rows', rfl, by simp, by rw [terminal]; exact own, by rw [terminal]; rfl⟩
    · by_cases taken : Taken driver payload.rowParameters
      · refine .inl ⟨taken, late, keeps, ?_⟩
        simp only [late, decide_false, Bool.false_eq_true, if_false, updateFromHeartbeat,
          bindParameters, bind_assoc, apply_ensure_bind taken, update, apply_write_bind, terminal₁,
          if_pos own]
        obtain ⟨rows', asked, terminal⟩ := onlyIf_requestDispatch _
          (decide (identity.connectionStatus ≠ some "online") = true) "heartbeat-online"
        rw [apply_bind_of_ok asked]
        exact ⟨rows', rfl, by rw [terminal]; exact own, by rw [terminal]; rfl⟩
      · refine .inr ⟨fun all => taken all.1, .inr ?_⟩
        simp only [late, decide_false, Bool.false_eq_true, if_false, updateFromHeartbeat,
          bindParameters, bind_assoc]
        exact ⟨_, apply_bind_of_error (ensure_refused taken _) _⟩
  · exact .inr ⟨fun all => not (all.2.2 kept), .inr ⟨e, apply_bind_of_error raised _⟩⟩

/-- The look-up of the message goes through where the database takes its id. -/
theorem lookup_ran {parameters : List Parameter}
    (named : persist = true → Taken env.driver parameters) :
    onlyIf (persist = true) (bindParameters env.driver parameters) rows = .ok ((), rows) := by
  by_cases kept : persist = true
  · simp only [onlyIf, if_pos kept, bindParameters, ensure, if_pos (named kept)]
    rfl
  · simp only [onlyIf, if_neg kept]
    rfl

/-- A heartbeat the history has is answered from it, or raises where it says something else. -/
theorem repeat_spec (own : rows.terminal.id = identity.id) (device : payload.deviceId = deviceId)
    (named : persist = true → Taken env.driver [.text (.str (messageId env payload))])
    {existing : HeartbeatRow} (known : (if persist then rows.inbox.find? fun r =>
      r.messageId = messageId env payload else none) = some existing) :
    (∃ answer rows', heartbeat env deviceId payload identity persist receivedAt rows =
        .ok (answer, rows') ∧ answer.duplicate = true ∧
        rows'.terminal.id = identity.id ∧ rows'.terminal.report = rows.terminal.report) ∨
      ∃ e, heartbeat env deviceId payload identity persist receivedAt rows = .error e := by
  simp only [heartbeat, apply_ensure_bind device, apply_bind_of_ok (lookup_ran named),
    apply_read_bind, known]
  by_cases agrees : existing.payloadDigest = env.canonicalDigest payload.body
  · left
    simp only [apply_ensure_bind agrees, touchOnline, update, apply_write_bind, if_pos own]
    obtain ⟨rows', asked, terminal⟩ := onlyIf_requestDispatch _
      (identity.connectionStatus ≠ some "online") "heartbeat-online"
    rw [apply_bind_of_ok asked]
    exact ⟨_, rows', rfl, rfl, by rw [terminal]; exact own, by rw [terminal]; rfl⟩
  · exact .inr ⟨_, apply_bind_of_error (ensure_refused agrees _) _⟩

/-- A heartbeat that applies leaves its own report; any other leaves the report there is. -/
theorem heartbeat_spec (own : rows.terminal.id = identity.id) :
    (Applies env deviceId payload identity persist rows ∧
      ∃ rows', heartbeat env deviceId payload identity persist receivedAt rows =
          .ok ({ duplicate := false, disposition := "ACCEPTED", receivedAt }, rows') ∧
        rows'.terminal.id = identity.id ∧
        rows'.terminal.report = ⟨payload.bootId, payload.sequence, payload.reportedStatus⟩) ∨
    (¬ Applies env deviceId payload identity persist rows ∧
      ((∃ answer rows', heartbeat env deviceId payload identity persist receivedAt rows =
          .ok (answer, rows') ∧ (answer.duplicate = true ∨ answer.disposition ≠ "ACCEPTED") ∧
          rows'.terminal.id = identity.id ∧ rows'.terminal.report = rows.terminal.report) ∨
        ∃ e, heartbeat env deviceId payload identity persist receivedAt rows = .error e)) := by
  by_cases device : payload.deviceId = deviceId
  · by_cases named : persist = true → Taken env.driver [.text (.str (messageId env payload))]
    · cases known : (if persist then rows.inbox.find? fun r =>
          r.messageId = messageId env payload else none) with
      | some existing =>
          have answered := @repeat_spec env deviceId payload identity persist rows receivedAt own device named
            existing known
          have kept : persist = true := by
            by_contra off
            simp [off] at known
          rw [if_pos kept] at known
          have there := List.mem_of_find?_eq_some known
          have same : existing.messageId = messageId env payload := by
            simpa using List.find?_some known
          refine .inr ⟨fun applies => ((applies.1.2.2 kept).2 existing there).1 same, ?_⟩
          cases answered with
          | inl replied =>
              obtain ⟨answer, rows', ran, again, rest⟩ := replied
              exact .inl ⟨answer, rows', ran, .inl again, rest⟩
          | inr raised => exact .inr raised
      | none =>
          have new : persist = true → ∀ r ∈ rows.inbox, r.messageId ≠ messageId env payload := by
            intro kept r there same
            rw [if_pos kept, List.find?_eq_none] at known
            exact known r there (by simpa using same)
          simp only [heartbeat, apply_ensure_bind device, apply_bind_of_ok (lookup_ran named),
            apply_read_bind, known]
          rcases @recordHeartbeat_spec env.driver identity rows own (messageId env payload)
            (env.canonicalDigest payload.body) payload persist receivedAt with
            ⟨taken, ordered, keeps, done⟩ | ⟨not, left⟩
          · exact .inl ⟨⟨⟨device, taken, fun kept => ⟨(keeps kept).1, fun r there =>
              ⟨new kept r there, (keeps kept).2 r there⟩⟩⟩, ordered⟩, done⟩
          · refine .inr ⟨fun applies => not ⟨applies.1.2.1, applies.2, fun kept =>
              ⟨(applies.1.2.2 kept).1, fun r there => ((applies.1.2.2 kept).2 r there).2⟩⟩, ?_⟩
            cases left with
            | inl passed =>
                obtain ⟨answer, rows', ran, other, rest⟩ := passed
                exact .inl ⟨answer, rows', ran, .inr other, rest⟩
            | inr raised => exact .inr raised
    · obtain ⟨kept, unnamed⟩ := Classical.not_imp.mp named
      refine .inr ⟨fun applies => unnamed ?_, .inr ⟨.exception "DataError", ?_⟩⟩
      · have taken := (applies.1.2.2 kept).1
        simp only [Taken, Heartbeat.historyParameters, List.all_append, List.all_cons,
          Bool.and_eq_true] at taken ⊢
        exact ⟨taken.1.1.1, rfl⟩
      · simp only [heartbeat, apply_ensure_bind device]
        refine apply_bind_of_error ?_ _
        simp only [onlyIf, if_pos kept, bindParameters]
        exact ensure_refused unnamed _
  · exact .inr ⟨fun applies => device applies.1.1,
      .inr ⟨_, apply_bind_of_error (ensure_refused device _) _⟩⟩

end HeartbeatService

/-- A call between its two transactions. -/
structure HeartbeatCall where
  identity : HeartbeatIdentity
  payload : Heartbeat
  persistHistory : Bool
  /-- How many heartbeats had left their report when the row was read for it; a cached identity
  comes of no such reading. -/
  read : Nat

structure HeartbeatSystem where
  rows : HeartbeatRows
  calls : Nat → Option HeartbeatCall := fun _ => none
  opened : Nat := 0
  /-- The heartbeats that have left their report, in turn. -/
  applied : List Heartbeat := []

/-- A call begins with the row as it is or with the cached id; it finishes when its own transaction
commits. A boot has a name. -/
inductive HeartbeatAction (boot : String) where
  | begin (cached : Bool) (payload : { h : Heartbeat // h.bootId = some boot ∧ boot ≠ "" })
      (persistHistory : Bool)
  | finish (call : Nat) (receivedAt : Time)

namespace HeartbeatSystem
variable {env : Env} {boot : String} {s : HeartbeatSystem}
open HeartbeatService

def next (env : Env) (s : HeartbeatSystem) : HeartbeatAction boot → HeartbeatSystem
  | .begin cached payload persistHistory =>
      let terminal := s.rows.terminal
      let identity := if cached then terminal.cached else terminal.identity
      { s with
        calls := put s.calls s.opened
          ⟨identity, payload, persistHistory, if cached then 0 else s.applied.length⟩
        opened := s.opened + 1 }
  | .finish call receivedAt =>
      match s.calls call with
      | none => s
      | some c =>
          match heartbeat env s.rows.terminal.deviceId c.payload c.identity c.persistHistory
              receivedAt s.rows with
          | .ok (answer, rows) => { s with
              rows
              calls := drop s.calls call
              applied :=
                if answer.duplicate = false ∧ answer.disposition = "ACCEPTED" then
                  s.applied ++ [c.payload]
                else s.applied }
          | .error _ => { s with calls := drop s.calls call }

def machine (env : Env) (boot : String) :
    Machine HeartbeatSystem (HeartbeatAction boot) Unit where
  next s a := (next env s a, ())

/-- `m` is a sequence number at or beyond `n`; none at all comes before every one. -/
def UpTo (n m : Option Nat) : Prop := n.all (fun i => m.any (i ≤ ·)) = true

instance (n m : Option Nat) : Decidable (UpTo n m) :=
  inferInstanceAs (Decidable (_ = _))

/-- The step does not take the sequence number back while the boot stays. -/
def Forward (env : Env) (s : HeartbeatSystem) (a : HeartbeatAction boot) : Prop :=
  (s.next env a).rows.terminal.activeBootId = s.rows.terminal.activeBootId →
    UpTo s.rows.terminal.lastSequence (s.next env a).rows.terminal.lastSequence

/-- Where heartbeats of the boot have been applied, the row reports the one of them with the
greatest sequence number. -/
def Latest (s : HeartbeatSystem) : Prop :=
  s.applied = [] ∨ ∃ h ∈ s.applied, s.rows.terminal.reportedStatus = h.reportedStatus ∧
    ∀ h' ∈ s.applied, UpTo h'.sequence h.sequence

/-- The order of the heartbeats is respected all along a run. -/
def Respected (env : Env) (s : HeartbeatSystem) (as : List (HeartbeatAction boot)) :
    Prop :=
  (machine env boot).Along (Forward env) s as ∧ (machine env boot).Always Latest s as

/-- The number `n` is there and has not passed `m`. -/
def Within (n m : Option Nat) : Prop := n.any (fun i => m.any (i ≤ ·)) = true

instance (n m : Option Nat) : Decidable (Within n m) :=
  inferInstanceAs (Decidable (_ = _))

/-- An admitted heartbeat was overtaken: one beyond it has left its report by now, and none that it
was not beyond had done so when the row was read for it. -/
def Passed (env : Env) (s : HeartbeatSystem) (c : HeartbeatCall) : Prop :=
  Admitted env s.rows.terminal.deviceId c.payload c.persistHistory s.rows ∧
    (∃ h ∈ s.applied, ¬ UpTo h.sequence c.payload.sequence) ∧
    ∀ h ∈ s.applied.take c.read, ¬ Within c.payload.sequence h.sequence

instance (env : Env) (s : HeartbeatSystem) (c : HeartbeatCall) :
    Decidable (Passed env s c) :=
  inferInstanceAs (Decidable (_ ∧ _))

/-- The step ends a call that was overtaken. -/
def Overtaken (env : Env) (s : HeartbeatSystem) : HeartbeatAction boot → Prop
  | .begin .. => False
  | .finish call _ => ∃ c ∈ s.calls call, Passed env s c

instance (env : Env) (s : HeartbeatSystem) :
    ∀ a : HeartbeatAction boot, Decidable (Overtaken env s a)
  | .begin .. => inferInstanceAs (Decidable False)
  | .finish call _ => inferInstanceAs (Decidable (∃ c ∈ s.calls call, Passed env s c))

theorem UpTo.refl (n : Option Nat) : UpTo n n := by
  cases n <;> simp [UpTo]

theorem UpTo.trans {n m k : Option Nat} (h : UpTo n m) (h' : UpTo m k) : UpTo n k := by
  cases n with
  | none => simp [UpTo]
  | some i =>
      cases m with
      | none => simp [UpTo] at h
      | some j =>
          cases k with
          | none => simp [UpTo] at h'
          | some l =>
              simp only [UpTo, Option.all_some, Option.any_some, decide_eq_true_eq] at h h' ⊢
              exact Nat.le_trans h h'

theorem Within.trans {n m k : Option Nat} (h : Within n m) (h' : UpTo m k) : Within n k := by
  cases n with
  | none => simp [Within] at h
  | some i =>
      have upTo : UpTo (some i) m := h
      exact upTo.trans h'

/-- The boot and the number are those of the latest of the heartbeats, where there are any. -/
def Tells (boot : String) (hs : List Heartbeat) (bootId : Option String) (last : Option Nat) :
    Prop :=
  (hs = [] ∧ bootId ≠ some boot) ∨
    (bootId = some boot ∧ ∃ h ∈ hs, last = h.sequence ∧ ∀ h' ∈ hs, UpTo h'.sequence h.sequence)

section Tells
variable {hs : List Heartbeat}

/-- What the check sees of the heartbeats behind an identity. -/
theorem Tells.outOfOrder_iff {identity : HeartbeatIdentity} {payload : Heartbeat}
    (tells : Tells boot hs identity.activeBootId identity.lastSequence)
    (booted : payload.bootId = some boot) (named : boot ≠ "") :
    OutOfOrder identity payload ↔ ∃ h ∈ hs, Within payload.sequence h.sequence := by
  rcases tells with ⟨rfl, other⟩ | ⟨same, h, mem, last, greatest⟩
  · refine iff_of_false (fun late => ?_) (by simp)
    exact other (late.2.1.trans booted)
  · constructor
    · intro late
      exact ⟨h, mem, last ▸ late.2.2⟩
    · rintro ⟨h', mem', within⟩
      refine ⟨?_, same.trans booted.symm, ?_⟩
      · simpa [booted] using named
      · rw [last]
        exact within.trans (greatest h' mem')

theorem Tells.past_iff {bootId : Option String} {last : Option Nat}
    (tells : Tells boot hs bootId last) (n : Option Nat) :
    (∃ h ∈ hs, ¬ UpTo h.sequence n) ↔ bootId = some boot ∧ ¬ UpTo last n := by
  rcases tells with ⟨rfl, other⟩ | ⟨same, h, mem, rfl, greatest⟩
  · exact iff_of_false (by simp) fun past => other past.1
  · constructor
    · rintro ⟨h', mem', past⟩
      exact ⟨same, fun upTo => past ((greatest h' mem').trans upTo)⟩
    · exact fun past => ⟨h, mem, past.2⟩

end Tells

/-- The calls are about the terminal and the boot, and each knows the heartbeats applied by the time
the row was read for it; and either no heartbeat of the boot has been applied yet, or the row stands
at the latest of them. -/
structure Sound (boot : String) (s : HeartbeatSystem) : Prop where
  own : ∀ call c, s.calls call = some c →
    s.rows.terminal.id = c.identity.id ∧ c.payload.bootId = some boot ∧ boot ≠ ""
  known : ∀ call c, s.calls call = some c → c.read ≤ s.applied.length ∧
    Tells boot (s.applied.take c.read) c.identity.activeBootId c.identity.lastSequence
  stands : (s.applied = [] ∧ s.rows.terminal.activeBootId ≠ some boot) ∨
    (s.rows.terminal.activeBootId = some boot ∧ ∃ h ∈ s.applied,
      s.rows.terminal.reportedStatus = h.reportedStatus ∧
      s.rows.terminal.lastSequence = h.sequence ∧
      ∀ h' ∈ s.applied, UpTo h'.sequence h.sequence)

theorem Sound.latest (sound : s.Sound boot) : s.Latest := by
  rcases sound.stands with ⟨none, -⟩ | ⟨-, h, here, status, -, greatest⟩
  · exact .inl none
  · exact .inr ⟨h, here, status, greatest⟩

theorem Sound.tells (sound : s.Sound boot) :
    Tells boot s.applied s.rows.terminal.activeBootId s.rows.terminal.lastSequence := by
  rcases sound.stands with none | ⟨booted, h, here, -, last, greatest⟩
  · exact .inl none
  · exact .inr ⟨booted, h, here, last, greatest⟩

/-- A call is overtaken where its heartbeat will apply to a row that is past it. -/
theorem overtaken_iff (sound : s.Sound boot) {call : Nat} {c : HeartbeatCall}
    (there : s.calls call = some c) (receivedAt : Time) :
    Overtaken env s (@HeartbeatAction.finish boot call receivedAt) ↔
      Applies env s.rows.terminal.deviceId c.payload c.identity c.persistHistory s.rows ∧
        s.rows.terminal.activeBootId = some boot ∧
        ¬ UpTo s.rows.terminal.lastSequence c.payload.sequence := by
  have booted := (sound.own call c there).2
  have order := (sound.known call c there).2.outOfOrder_iff booted.1 booted.2
  simp only [Overtaken, Passed, there, Option.mem_def, Option.some.injEq,
    exists_eq_left', sound.tells.past_iff, Applies, order, not_exists, not_and]
  constructor
  · exact fun ⟨admitted, past, unseen⟩ => ⟨⟨admitted, unseen⟩, past⟩
  · exact fun ⟨⟨admitted, unseen⟩, past⟩ => ⟨admitted, past, unseen⟩

/-- What finishing a call comes to. -/
theorem finish_cases (sound : s.Sound boot) {call : Nat} {c : HeartbeatCall}
    (there : s.calls call = some c) (receivedAt : Time) :
    ∃ rows', rows'.terminal.id = s.rows.terminal.id ∧
      ((Applies env s.rows.terminal.deviceId c.payload c.identity c.persistHistory s.rows ∧
        s.next env (@HeartbeatAction.finish boot call receivedAt) =
          { s with rows := rows', calls := drop s.calls call, applied := s.applied ++ [c.payload] } ∧
        rows'.terminal.report =
          ⟨c.payload.bootId, c.payload.sequence, c.payload.reportedStatus⟩) ∨
      (¬ Applies env s.rows.terminal.deviceId c.payload c.identity c.persistHistory s.rows ∧
        s.next env (@HeartbeatAction.finish boot call receivedAt) =
          { s with rows := rows', calls := drop s.calls call } ∧
        rows'.terminal.report = s.rows.terminal.report)) := by
  have own := (sound.own call c there).1
  simp only [next, there]
  rcases @heartbeat_spec env s.rows.terminal.deviceId c.payload c.identity c.persistHistory
    s.rows receivedAt own with ⟨applies, rows', ran, id, report⟩ |
    ⟨passed, ⟨answer, rows', ran, unaccepted, id, report⟩ | ⟨e, raised⟩⟩
  · refine ⟨rows', id.trans own.symm, .inl ⟨applies, ?_, report⟩⟩
    simp [ran]
  · refine ⟨rows', id.trans own.symm, .inr ⟨passed, ?_, report⟩⟩
    have unapplied : ¬ (answer.duplicate = false ∧ answer.disposition = "ACCEPTED") := by
      intro accepted
      cases unaccepted with
      | inl again => simp [again] at accepted
      | inr other => exact other accepted.2
    simp only [ran, if_neg unapplied]
  · exact ⟨s.rows, rfl, .inr ⟨passed, by simp only [raised], rfl⟩⟩

theorem Sound.step (sound : s.Sound boot) (a : HeartbeatAction boot)
    (ordered : ¬ Overtaken env s a) : (s.next env a).Sound boot := by
  cases a with
  | begin cached payload persistHistory =>
      refine ⟨fun call c there => ?_, fun call c there => ?_, sound.stands⟩
      · by_cases new : call = s.opened
        · subst new
          simp only [next, put_same, Option.some.injEq] at there
          subst there
          exact ⟨by cases cached <;> rfl, payload.2⟩
        · exact sound.own call c ((put_of_ne new).symm.trans there)
      · by_cases new : call = s.opened
        · subst new
          simp only [next, put_same, Option.some.injEq] at there
          subst there
          cases cached with
          | true => exact ⟨Nat.zero_le _, .inl ⟨rfl, by simp [HeartbeatTerminal.cached]⟩⟩
          | false =>
              refine ⟨le_refl _, ?_⟩
              simp only [Bool.false_eq_true, if_false, next, List.take_length]
              exact sound.tells
        · exact sound.known call c ((put_of_ne new).symm.trans there)
  | finish call receivedAt =>
      cases there : s.calls call with
      | none => simpa only [next, there] using sound
      | some c =>
          rw [overtaken_iff sound there] at ordered
          obtain ⟨rows', id, ⟨applies, after, report⟩ | ⟨-, after, report⟩⟩ :=
            @finish_cases env _ _ sound _ _ there receivedAt
          · rw [after]
            simp only [HeartbeatTerminal.report, HeartbeatReport.mk.injEq] at report
            refine ⟨fun other c' found => ?_, fun other c' found => ?_,
              .inr ⟨report.1.trans (sound.own call c there).2.1, c.payload, by simp, report.2.2,
                report.2.1, ?_⟩⟩
            · simp only [id]
              exact sound.own other c' (drop_some found)
            · obtain ⟨bound, tells⟩ := sound.known other c' (drop_some found)
              refine ⟨bound.trans (by simp), ?_⟩
              -- What was applied when the row was read stays the beginning of the log.
              rwa [List.take_append_of_le_length bound]
            · intro h' mem
              simp only [List.mem_append, List.mem_singleton] at mem
              cases mem with
              | inr same => exact same ▸ UpTo.refl _
              | inl before =>
                  rcases sound.stands with ⟨none, -⟩ | ⟨booted, h, -, -, last, greatest⟩
                  · simp [none] at before
                  · have upTo : UpTo s.rows.terminal.lastSequence c.payload.sequence := by
                      by_contra beyond
                      exact ordered ⟨applies, booted, beyond⟩
                    exact (greatest h' before).trans (last ▸ upTo)
          · rw [after]
            simp only [HeartbeatTerminal.report, HeartbeatReport.mk.injEq] at report
            refine ⟨fun other c' found => ?_, fun other c' found => ?_, ?_⟩
            · simp only [id]
              exact sound.own other c' (drop_some found)
            · exact sound.known other c' (drop_some found)
            · simp only [report]
              exact sound.stands

/-- A step goes back exactly where it ends an overtaken call. -/
theorem forward_iff (sound : s.Sound boot) (a : HeartbeatAction boot) :
    Forward env s a ↔ ¬ Overtaken env s a := by
  cases a with
  | begin cached payload persistHistory =>
      exact iff_of_true (fun _ => UpTo.refl _) (fun overtaken => overtaken)
  | finish call receivedAt =>
      cases there : s.calls call with
      | none =>
          refine iff_of_true ?_ (by simp [Overtaken, there])
          simp only [Forward, next, there]
          exact fun _ => UpTo.refl _
      | some c =>
          rw [overtaken_iff sound there]
          obtain ⟨rows', -, ⟨applies, after, report⟩ | ⟨passed, after, report⟩⟩ :=
            @finish_cases env _ _ sound _ _ there receivedAt
          · simp only [HeartbeatTerminal.report, HeartbeatReport.mk.injEq] at report
            simp only [Forward, after, report.1, report.2.1, (sound.own call c there).2.1]
            constructor
            · exact fun forward overtaken => overtaken.2.2 (forward overtaken.2.1.symm)
            · intro ordered booted
              by_contra beyond
              exact ordered ⟨applies, booted.symm, beyond⟩
          · simp only [HeartbeatTerminal.report, HeartbeatReport.mk.injEq] at report
            simp only [Forward, after, report.2.1]
            exact iff_of_true (fun _ => UpTo.refl _) fun overtaken => passed overtaken.1

/-- Heartbeats of one boot, on a terminal that has not reported it before, are respected exactly in
the runs in which no call is overtaken before it ends. -/
theorem respected_iff (row : HeartbeatTerminal) (inbox : List HeartbeatRow)
    (other : row.activeBootId ≠ some boot) (as : List (HeartbeatAction boot)) :
    Respected env ⟨⟨row, inbox, []⟩, fun _ => none, 0, []⟩ as ↔
      (machine env boot).Along (fun s a => ¬ Overtaken env s a)
        ⟨⟨row, inbox, []⟩, fun _ => none, 0, []⟩ as := by
  have sound : Sound boot ⟨⟨row, inbox, []⟩, fun _ => none, 0, []⟩ :=
    ⟨by simp, by simp, .inl ⟨rfl, other⟩⟩
  generalize (⟨⟨row, inbox, []⟩, fun _ => none, 0, []⟩ : HeartbeatSystem) = s at sound
  constructor
  · intro respected
    have forward := respected.1
    clear respected
    induction as generalizing s with
    | nil => trivial
    | cons a as ih =>
        have ordered := (forward_iff sound a).mp forward.1
        exact ⟨ordered, ih _ (sound.step a ordered) forward.2⟩
  · intro ordered
    have keep : ∀ t a, Sound boot t → ¬ Overtaken env t a →
        Sound boot ((machine env boot).step t a) := fun _ a here kept => here.step a kept
    have along := Machine.along_of_invariant keep sound ordered
    have always := Machine.invariant_always keep sound ordered
    exact ⟨Machine.along_mono _ (fun t a here => (forward_iff here.1 a).mpr here.2) along,
      Machine.always_mono (fun t here => here.latest) always⟩

/-- A terminal that has not reported anything yet. -/
def silentTerminal : HeartbeatTerminal := { id := 0, deviceId := "device" }

/-- A deployment whose database takes no text with a NUL in it. -/
def beatEnv : Env where
  canonicalDigest := fun _ => ""
  hashToken := id
  driver := { text := fun value => value.asStr?.all fun text => !text.toList.contains (Char.ofNat 0) }

def beat (sequence : Nat) (deviceStatus : String) :
    { h : Heartbeat // h.bootId = some "boot" ∧ "boot" ≠ "" } :=
  ⟨{ deviceId := "device", messageId := some s!"{deviceStatus}-{sequence}", bootId := some "boot"
     sequence := some sequence, deviceStatus }, rfl, by decide⟩

/-- A device starts again. Two of its heartbeats overlap and end in their order, one comes with the
cached id, an old one is read after it and told by its number, one is sent twice, and the number of
one is more than the database takes. -/
def handedOver : List (HeartbeatAction "boot") :=
  [.begin false (beat 1 "IDLE") true, .begin false (beat 2 "BUSY") true, .finish 0 10, .finish 1 11,
    .begin true (beat 4 "BUSY") false, .finish 2 12, .begin false (beat 3 "IDLE") true, .finish 3 13,
    .begin false (beat 2 "BUSY") true, .finish 4 14,
    .begin false (beat (2 ^ 63) "IDLE") true, .finish 5 15]

def rebootedTerminal : HeartbeatTerminal :=
  { id := 7, deviceId := "device", connectionStatus := "online", activeBootId := some "before"
    lastSequence := some 40, reportedStatus := .obj [("deviceStatus", .str "IDLE")] }

def pastRow : HeartbeatRow := ⟨"before-40", "", some "before", some 40, "ACCEPTED"⟩

theorem respected_iff_handedOver :
    Respected beatEnv ⟨⟨rebootedTerminal, [pastRow], []⟩, fun _ => none, 0, []⟩ handedOver ∧
      ((machine beatEnv "boot").run
        ⟨⟨rebootedTerminal, [pastRow], []⟩, fun _ => none, 0, []⟩ handedOver).applied.map
          (·.sequence) = [some 1, some 2, some 4] :=
  ⟨(respected_iff rebootedTerminal [pastRow] (by decide) handedOver).mpr (by decide +kernel),
    by decide +kernel⟩

/-- Two heartbeats that both read the row before either is applied; the newer one ends first. -/
def overtakenBeat : List (HeartbeatAction "boot") :=
  [.begin false (beat 5 "IDLE") false, .begin false (beat 6 "BUSY") false, .finish 1 0, .finish 0 0]

/-- The late heartbeat replaces the report that kept the dispatcher away. -/
theorem overtaken_replaces :
    ¬ Respected beatEnv ⟨⟨silentTerminal, [], []⟩, fun _ => none, 0, []⟩ overtakenBeat ∧
      deviceIsBusy ((machine beatEnv "boot").run
        ⟨⟨silentTerminal, [], []⟩, fun _ => none, 0, []⟩
        (overtakenBeat.take 3)).rows.terminal.reportedStatus = true ∧
      deviceIsBusy ((machine beatEnv "boot").run
        ⟨⟨silentTerminal, [], []⟩, fun _ => none, 0, []⟩
        overtakenBeat).rows.terminal.reportedStatus = false := by
  refine ⟨fun respected => ?_, by decide +kernel, by decide +kernel⟩
  have back := respected.1.2.2.2.1 (by decide +kernel)
  exact absurd back (by decide +kernel)

end HeartbeatSystem
end CoffeeCloud
