import CoffeeCloud.Library.Machine
import CoffeeCloud.Repositories.Workers

/-!
The coalesced dispatch requests under several workers. A pass of a worker claims
a request in one transaction and evaluates the terminal in another, which ends
with `complete` or `retry`; requests commit at any point between. The row's
revision is all that `complete` compares, and a row that is deleted and inserted
again counts from one again. Each statement on a row takes its lock, so it is
one step.
-/
namespace CoffeeCloud
open Library Tx

/-- How far a pass has come. The evaluation remembers how many requests of the terminal had
committed when it began, and the row that stood then: how many requests preceded it, and its
revision. -/
inductive PassStage where
  | claimed
  | evaluating (seen : Nat) (stood : Option (Nat × Nat))
  | deleted (seen : Nat)
  | ended
deriving DecidableEq

structure Pass where
  request : DispatchRequest
  stage : PassStage

structure DispatchSystem where
  db : Db := {}
  passes : List Pass := []
  /-- How many requests of a terminal have committed. -/
  requests : Id → Nat := fun _ => 0
  /-- How many of them preceded the row there is. -/
  born : Id → Nat := fun _ => 0

inductive DispatchAction where
  | request (terminalId : Id) (now : Time)
  | claim (pick : Id) (now : Time)
  | evaluate (pass : Nat)
  | complete (pass : Nat) (now : Time)
  | retry (pass : Nat) (now : Time)

namespace DispatchSystem

def row (s : DispatchSystem) (terminalId : Id) : Option DispatchRequest :=
  s.db.dispatchRequests.find? terminalId

/-- The row that `complete` deletes. -/
def Hits (s : DispatchSystem) (request row : DispatchRequest) : Prop :=
  s.row request.terminalId = some row ∧ row.revision = request.revision

instance (s : DispatchSystem) (request : DispatchRequest) :
    Decidable (∃ row, s.Hits request row) :=
  match found : s.row request.terminalId with
  | none => isFalse (by simp [Hits, found])
  | some r => decidable_of_iff (r.revision = request.revision) (by simp [Hits, found])

def next (s : DispatchSystem) : DispatchAction → DispatchSystem
  | .request terminalId now => { s with
      db := leave (DispatchRepository.enqueue terminalId now) s.db
      requests := fun t => if t = terminalId then s.requests t + 1 else s.requests t
      born := fun t =>
        if t = terminalId ∧ s.row t = none then s.requests t else s.born t }
  | .claim pick now =>
      match DispatchRepository.claim pick now s.db with
      | .ok (some request, db) => { s with db, passes := s.passes ++ [⟨request, .claimed⟩] }
      | _ => s
  | .evaluate pass =>
      match s.passes[pass]? with
      | some ⟨request, .claimed⟩ => { s with
          passes := s.passes.set pass ⟨request, .evaluating (s.requests request.terminalId)
            ((s.row request.terminalId).map fun r => (s.born request.terminalId, r.revision))⟩ }
      | _ => s
  | .complete pass now =>
      match s.passes[pass]? with
      | some ⟨request, .evaluating seen _⟩ => { s with
          db := leave (DispatchRepository.complete request.terminalId request.revision now) s.db
          passes := s.passes.set pass
            ⟨request, if ∃ row, s.Hits request row then .deleted seen else .ended⟩ }
      | _ => s
  | .retry pass now =>
      match s.passes[pass]? with
      | some ⟨request, .claimed⟩ | some ⟨request, .evaluating _ _⟩ => { s with
          db := leave (DispatchRepository.retry request.terminalId request.revision now) s.db
          passes := s.passes.set pass ⟨request, .ended⟩ }
      | _ => s

def machine : Machine DispatchSystem DispatchAction Unit where
  next s a := (next s a, ())

/-! What the statements do to a row. -/

def requested (now : Time) (terminalId : Id) : Option DispatchRequest → DispatchRequest
  | none => { terminalId, requestedAt := now, nextAttemptAt := now }
  | some r => { r with
      requestedAt := now, revision := r.revision + 1
      status := if r.status = .processing then .processing else .pending
      nextAttemptAt := now }

def released (now : Time) (r : DispatchRequest) : DispatchRequest :=
  if r.status = .processing then
    { r with status := .pending, nextAttemptAt := now, lockedUntil := none }
  else r

def retried (now : Time) (r : DispatchRequest) : DispatchRequest := { r with
  status := .retry
  nextAttemptAt := now + seconds (min 30 (2 ^ min (r.attemptCount + 1) 5))
  attemptCount := r.attemptCount + 1
  lockedUntil := none }

def leased (now : Time) (r : DispatchRequest) : DispatchRequest :=
  { r with status := .processing, lockedUntil := some (now + seconds 30) }

theorem retried_key (now : Time) (r : DispatchRequest) :
    Keyed.key (retried now r) = Keyed.key r := rfl

theorem leased_key (now : Time) (r : DispatchRequest) :
    Keyed.key (leased now r) = Keyed.key r := rfl

variable {s : DispatchSystem} {db : Db} {now : Time} {t k : Id} {rev : Nat}

theorem find?_enqueue :
    (leave (DispatchRepository.enqueue t now) db).dispatchRequests.find? k =
      if k = t then some (requested now t (db.dispatchRequests.find? t))
      else db.dispatchRequests.find? k := by
  have result : (leave (DispatchRepository.enqueue t now) db).dispatchRequests =
      match db.dispatchRequests.find? t with
      | none => db.dispatchRequests.insert
          { terminalId := t, requestedAt := now, nextAttemptAt := now }
      | some _ => db.dispatchRequests.modify t fun r => { r with
          requestedAt := now, revision := r.revision + 1
          status := if r.status = .processing then .processing else .pending
          nextAttemptAt := now } := rfl
  rw [result]
  cases there : db.dispatchRequests.find? t with
  | none => exact Table.find?_insert _ _ k there
  | some r =>
      rw [Table.find?_modify]
      split
      · rename_i same
        rw [same, there]
        rfl
      · rfl

theorem find?_release (rows : Table DispatchRequest) :
    (DispatchRepository.release t now rows).find? k =
      if k = t then (rows.find? k).map (released now) else rows.find? k := by
  rw [DispatchRepository.release, Table.find?_modifyWhere]
  cases found : rows.find? k with
  | none => simp
  | some r =>
      have key : r.terminalId = k := Table.key_of_find? found
      by_cases same : k = t <;> simp [released, key, same]

theorem find?_complete :
    (leave (DispatchRepository.complete t rev now) db).dispatchRequests.find? k =
      if k = t then (db.dispatchRequests.find? k).bind fun r =>
        if r.revision = rev then none else some (released now r)
      else db.dispatchRequests.find? k := by
  have result : (leave (DispatchRepository.complete t rev now) db).dispatchRequests =
      if (db.dispatchRequests.find? t).any (·.revision = rev) then
        db.dispatchRequests.deleteWhere fun r => r.terminalId = t && r.revision = rev
      else DispatchRepository.release t now db.dispatchRequests := rfl
  rw [result]
  by_cases same : k = t
  · subst same
    cases found : db.dispatchRequests.find? k with
    | none => simp [find?_release, found]
    | some r =>
        have key : r.terminalId = k := Table.key_of_find? found
        by_cases hit : r.revision = rev
        · simp [hit, Table.find?_deleteWhere, found, key]
        · simp [hit, find?_release, found]
  · rw [if_neg same]
    split
    · rw [Table.find?_deleteWhere]
      cases found : db.dispatchRequests.find? k with
      | none => rfl
      | some r =>
          have key : r.terminalId = k := Table.key_of_find? found
          simp [key, same]
    · rw [find?_release, if_neg same]

theorem find?_retry :
    (leave (DispatchRepository.retry t rev now) db).dispatchRequests.find? k =
      if k = t then (db.dispatchRequests.find? k).map fun r =>
        if r.revision = rev then retried now r else released now r
      else db.dispatchRequests.find? k := by
  have result : (leave (DispatchRepository.retry t rev now) db).dispatchRequests =
      if (db.dispatchRequests.find? t).any (·.revision = rev) then
        db.dispatchRequests.modify t (retried now) (retried_key now)
      else DispatchRepository.release t now db.dispatchRequests := rfl
  rw [result]
  by_cases same : k = t
  · subst same
    cases found : db.dispatchRequests.find? k with
    | none => simp [find?_release, found]
    | some r =>
        by_cases hit : r.revision = rev
        · simp [hit, Table.find?_modify, found]
        · simp [hit, find?_release, found]
  · rw [if_neg same]
    split
    · rw [Table.find?_modify, if_neg same]
    · rw [find?_release, if_neg same]

theorem claim_effect {pick : Id} {request : DispatchRequest} {db' : Db}
    (h : DispatchRepository.claim pick now db = .ok (some request, db')) :
    request.terminalId = pick ∧ ∃ r, db.dispatchRequests.find? pick = some r ∧
      DispatchRepository.isClaimable now r = true ∧ request = leased now r ∧
      ∀ k, db'.dispatchRequests.find? k =
        if k = pick then some (leased now r) else db.dispatchRequests.find? k := by
  have ran : Ran (DispatchRepository.claim pick now) db (some request) db' := h
  simp only [DispatchRepository.claim, ran_read_bind, id_eq] at ran
  split at ran
  · simp at ran
  · rename_i r found
    rw [Option.filter_eq_some_iff] at found
    obtain ⟨found, claimable⟩ := found
    have key : r.terminalId = pick := Table.key_of_find? found
    have after (k : Id) : (db.dispatchRequests.modify r.terminalId (leased now)
        (leased_key now)).find? k =
          if k = pick then some (leased now r) else db.dispatchRequests.find? k := by
      rw [Table.find?_modify, key]
      split
      · rename_i same
        rw [same, found]
        rfl
      · rfl
    simp only [ran_write_bind, ran_read] at ran
    obtain ⟨request_eq, rfl⟩ := ran
    have there := (after r.terminalId).symm.trans request_eq
    rw [key, if_pos rfl, Option.some.injEq] at there
    exact ⟨there ▸ key, r, found, claimable, there.symm, after⟩

/-- A row that some worker can claim sooner or later. -/
structure Live (r : DispatchRequest) : Prop where
  open_ : r.status ≠ .processed
  leased : r.status = .processing → r.lockedUntil ≠ none

theorem Live.claimable {r : DispatchRequest} (live : Live r) :
    ∃ start, ∀ now, start ≤ now → DispatchRepository.isClaimable now r = true := by
  have waiting (h : r.status = .pending ∨ r.status = .retry) :
      ∃ start, ∀ now, start ≤ now → DispatchRepository.isClaimable now r = true := by
    refine ⟨r.nextAttemptAt, fun now late => ?_⟩
    rcases h with h | h <;> simp [DispatchRepository.isClaimable, h, late]
  cases status : r.status with
  | pending => exact waiting (.inl status)
  | retry => exact waiting (.inr status)
  | processed => exact absurd status live.open_
  | processing =>
      cases lock : r.lockedUntil with
      | none => exact absurd lock (live.leased status)
      | some l =>
          refine ⟨l + 1, fun now late => ?_⟩
          have passed : l < now := Int.lt_iff_add_one_le.mpr late
          simp [DispatchRepository.isClaimable, status, lock, passed]

theorem live_requested (now : Time) (t : Id) {o : Option DispatchRequest}
    (live : ∀ r, o = some r → Live r) : Live (requested now t o) := by
  cases o with
  | none => exact ⟨by simp [requested], by simp [requested]⟩
  | some r =>
      have was := live r rfl
      constructor
      · simp only [requested]
        split <;> simp
      · simp only [requested]
        split
        · rename_i processing
          exact fun _ => was.leased processing
        · simp

theorem live_released {r : DispatchRequest} (live : Live r) : Live (released now r) := by
  rw [released]
  split
  · exact ⟨by simp, by simp⟩
  · exact live

theorem released_revision (r : DispatchRequest) : (released now r).revision = r.revision := by
  rw [released]
  split <;> rfl

theorem live_retried (r : DispatchRequest) : Live (retried now r) :=
  ⟨by simp [retried], by simp [retried]⟩

theorem live_leased (r : DispatchRequest) : Live (leased now r) :=
  ⟨by simp [leased], by simp [leased]⟩

/-- What a step makes of the row of a terminal and of its counts: the row keeps its revision, or
a request raises or inserts it, or a completion deletes it. -/
inductive RowStep (s : DispatchSystem) (t : Id) :
    DispatchAction → Option DispatchRequest → Nat → Nat → Prop
  | absent (a : DispatchAction) (free : s.row t = none) :
      RowStep s t a none (s.requests t) (s.born t)
  | kept (a : DispatchAction) (r r' : DispatchRequest) (found : s.row t = some r)
      (same : r'.revision = r.revision) (live : Live r → Live r') :
      RowStep s t a (some r') (s.requests t) (s.born t)
  | raised (now : Time) (r r' : DispatchRequest) (found : s.row t = some r)
      (more : r'.revision = r.revision + 1) (live : Live r → Live r') :
      RowStep s t (.request t now) (some r') (s.requests t + 1) (s.born t)
  | inserted (now : Time) (r' : DispatchRequest) (free : s.row t = none) (first : r'.revision = 1)
      (live : Live r') : RowStep s t (.request t now) (some r') (s.requests t + 1) (s.requests t)
  | deleted (pass : Nat) (now : Time) (request r : DispatchRequest) (seen : Nat)
      (stood : Option (Nat × Nat)) (due : s.passes[pass]? = some ⟨request, .evaluating seen stood⟩)
      (mine : request.terminalId = t) (hit : s.Hits request r) :
      RowStep s t (.complete pass now) none (s.requests t) (s.born t)

theorem RowStep.still {a : DispatchAction} (s : DispatchSystem) (t : Id) :
    RowStep s t a (s.row t) (s.requests t) (s.born t) := by
  cases found : s.row t with
  | none => exact .absent a found
  | some r => exact .kept a r r found rfl id

theorem step_row (s : DispatchSystem) (t : Id) (a : DispatchAction) :
    RowStep s t a ((next s a).row t) ((next s a).requests t) ((next s a).born t) := by
  cases a with
  | request terminalId now =>
      by_cases same : t = terminalId
      · subst same
        simp only [next, row, find?_enqueue, if_true, true_and]
        cases found : s.db.dispatchRequests.find? t with
        | none =>
            simp only [if_true]
            exact .inserted now _ found rfl (live_requested now t (by simp))
        | some r =>
            simp only [reduceCtorEq, if_false]
            exact .raised now r _ found rfl fun live => live_requested now t (by simpa using live)
      · simp only [next, row, find?_enqueue, same, if_false, false_and]
        exact .still s t
  | claim pick now =>
      simp only [next]
      split
      · rename_i request db ok
        obtain ⟨-, r, found, -, -, rows⟩ := claim_effect ok
        simp only [row, rows]
        split
        · rename_i same
          subst same
          exact .kept _ r _ found rfl fun _ => live_leased r
        · exact .still s t
      · exact .still s t
  | evaluate pass =>
      simp only [next]
      split <;> exact .still s t
  | complete pass now =>
      simp only [next]
      split
      · rename_i request seen stood due
        simp only [row, find?_complete]
        split
        · rename_i same
          subst same
          cases found : s.db.dispatchRequests.find? request.terminalId with
          | none => exact .absent _ found
          | some r =>
              simp only [Option.bind_some]
              split
              · rename_i hit
                exact .deleted pass now request r seen stood due rfl ⟨found, hit⟩
              · exact .kept _ r _ found (released_revision r) live_released
        · exact .still s t
      · exact .still s t
  | retry pass now =>
      have tried (request : DispatchRequest) : RowStep s t (.retry pass now)
          ((leave (DispatchRepository.retry request.terminalId request.revision now)
            s.db).dispatchRequests.find? t) (s.requests t) (s.born t) := by
        rw [find?_retry]
        split
        · rename_i same
          subst same
          cases found : s.db.dispatchRequests.find? request.terminalId with
          | none => exact .absent _ found
          | some r =>
              simp only [Option.map_some]
              split
              · exact .kept _ r _ found rfl fun _ => live_retried r
              · exact .kept _ r _ found (released_revision r) live_released
        · exact .still s t
      simp only [next]
      split
      · exact tried _
      · exact tried _
      · exact .still s t

/-- The counts agree with the row, and the row can be claimed sooner or later. -/
def Counted (s : DispatchSystem) : Prop :=
  ∀ t, s.born t ≤ s.requests t ∧ ∀ r, s.row t = some r →
    s.requests t = s.born t + r.revision ∧ 1 ≤ r.revision ∧ Live r

theorem counted_step (counted : Counted s) (a : DispatchAction) : Counted (next s a) := by
  intro t
  obtain ⟨below, fits⟩ := counted t
  have step := step_row s t a
  generalize (next s a).row t = o, (next s a).requests t = n, (next s a).born t = b at step ⊢
  cases step with
  | absent _ free => exact ⟨below, by simp⟩
  | kept _ r r' found same live =>
      obtain ⟨total, positive, was⟩ := fits r found
      refine ⟨below, ?_⟩
      rintro _ ⟨⟩
      exact ⟨same ▸ total, same ▸ positive, live was⟩
  | raised now r r' found more live =>
      obtain ⟨total, positive, was⟩ := fits r found
      refine ⟨by omega, ?_⟩
      rintro _ ⟨⟩
      exact ⟨by omega, by omega, live was⟩
  | inserted now r' free first live =>
      refine ⟨by omega, ?_⟩
      rintro _ ⟨⟩
      exact ⟨by omega, by omega, live⟩
  | deleted => exact ⟨below, by simp⟩

/-- What an evaluation remembers, against the state it has come to: the row that stood when it
began is still there, or every request since then came after another insertion. -/
def Since (s : DispatchSystem) (t : Id) (seen : Nat) : Option (Nat × Nat) → Prop
  | none => s.row t = none ∨ seen ≤ s.born t
  | some (b, v) => b + v = seen ∧ (s.born t = b ∨ seen ≤ s.born t)

def Remembered (s : DispatchSystem) : Prop :=
  ∀ pass ∈ s.passes, ∀ seen stood, pass.stage = .evaluating seen stood →
    seen ≤ s.requests pass.request.terminalId ∧ Since s pass.request.terminalId seen stood

theorem since_step {t : Id} {seen : Nat} {stood : Option (Nat × Nat)}
    (le : seen ≤ s.requests t) (since : Since s t seen stood) (a : DispatchAction) :
    seen ≤ (next s a).requests t ∧ Since (next s a) t seen stood := by
  have step := step_row s t a
  unfold Since at since ⊢
  generalize (next s a).row t = o, (next s a).requests t = n, (next s a).born t = b at step ⊢
  cases stood with
  | none =>
      cases step with
      | absent | deleted => exact ⟨le, .inl rfl⟩
      | inserted => exact ⟨by omega, .inr le⟩
      | kept _ r r' found | raised now r r' found =>
          rcases since with free | before
          · cases free.symm.trans found
          · exact ⟨by omega, .inr before⟩
  | some stood =>
      cases step with
      | inserted => exact ⟨by omega, since.1, .inr le⟩
      | absent | deleted | kept | raised => exact ⟨by omega, since⟩

/-- A pass in evaluation after a step was in evaluation before, or begins it now. -/
theorem evaluating_step {a : DispatchAction} {pass : Pass} {seen : Nat}
    {stood : Option (Nat × Nat)} (mem : pass ∈ (next s a).passes)
    (stage : pass.stage = .evaluating seen stood) :
    pass ∈ s.passes ∨ ((∃ i, a = .evaluate i) ∧ seen = s.requests pass.request.terminalId ∧
      stood = (s.row pass.request.terminalId).map fun r =>
        (s.born pass.request.terminalId, r.revision)) := by
  cases a with
  | request terminalId now => exact .inl mem
  | claim pick now =>
      simp only [next] at mem
      split at mem
      · simp only [List.mem_append, List.mem_singleton] at mem
        rcases mem with mem | rfl
        · exact .inl mem
        · cases stage
      · exact .inl mem
  | evaluate i =>
      simp only [next] at mem
      split at mem
      · rcases List.mem_or_eq_of_mem_set mem with mem | rfl
        · exact .inl mem
        · cases stage
          exact .inr ⟨⟨i, rfl⟩, rfl, rfl⟩
      · exact .inl mem
  | complete i now =>
      simp only [next] at mem
      split at mem
      · rcases List.mem_or_eq_of_mem_set mem with mem | rfl
        · exact .inl mem
        · simp only at stage
          split at stage <;> cases stage
      · exact .inl mem
  | retry i now =>
      simp only [next] at mem
      split at mem
      · rcases List.mem_or_eq_of_mem_set mem with mem | rfl
        · exact .inl mem
        · cases stage
      · rcases List.mem_or_eq_of_mem_set mem with mem | rfl
        · exact .inl mem
        · cases stage
      · exact .inl mem

theorem remembered_step (counted : Counted s) (remembered : Remembered s) (a : DispatchAction) :
    Remembered (next s a) := by
  intro pass mem seen stood stage
  rcases evaluating_step mem stage with there | ⟨⟨i, rfl⟩, seen_eq, stood_eq⟩
  · obtain ⟨le, since⟩ := remembered pass there seen stood stage
    exact since_step le since a
  · subst seen_eq stood_eq
    refine since_step (le_refl _) ?_ (.evaluate i)
    cases found : s.row pass.request.terminalId with
    | none => exact .inl found
    | some r =>
        exact ⟨((counted _).2 r found).1.symm, .inl rfl⟩

/-! What `complete` promises. -/

/-- The evaluation of a pass that is about to delete its row began after every request of the
terminal that has committed. -/
def CaughtUp (s : DispatchSystem) : DispatchAction → Prop
  | .complete pass _ => ∀ request seen stood r,
      s.passes[pass]? = some ⟨request, .evaluating seen stood⟩ → s.Hits request r →
      seen = s.requests request.terminalId
  | _ => True

/-- The row that a pass is about to delete is the one that stood, at the same revision, when its
evaluation began. -/
def Stood (s : DispatchSystem) : DispatchAction → Prop
  | .complete pass _ => ∀ request seen stood r,
      s.passes[pass]? = some ⟨request, .evaluating seen stood⟩ → s.Hits request r →
      stood = some (s.born request.terminalId, r.revision)
  | _ => True

theorem caughtUp_iff (counted : Counted s) (remembered : Remembered s) (a : DispatchAction) :
    CaughtUp s a ↔ Stood s a := by
  cases a with
  | complete pass now =>
      have at_row {request r : DispatchRequest} {seen : Nat} {stood : Option (Nat × Nat)}
          (due : s.passes[pass]? = some ⟨request, .evaluating seen stood⟩)
          (hit : s.Hits request r) :
          seen = s.requests request.terminalId ↔
            stood = some (s.born request.terminalId, r.revision) := by
        obtain ⟨le, since⟩ := remembered _ (List.mem_of_getElem? due) seen stood rfl
        obtain ⟨total, positive, -⟩ := (counted request.terminalId).2 r hit.1
        simp only at le since
        cases stood with
        | none =>
            rcases since with free | before
            · cases free.symm.trans hit.1
            · simp
              omega
        | some stood =>
            obtain ⟨b, v⟩ := stood
            simp only [Since] at since
            simp only [Option.some.injEq, Prod.mk.injEq]
            omega
      constructor
      · intro caught request seen stood r due hit
        exact (at_row due hit).mp (caught request seen stood r due hit)
      · intro stands request seen stood r due hit
        exact (at_row due hit).mpr (stands request seen stood r due hit)
  | _ => exact Iff.rfl

/-- A terminal whose row is gone has no request that came after every deleting evaluation began. -/
def Covered (s : DispatchSystem) : Prop :=
  ∀ t, s.row t = none → s.requests t = 0 ∨
    ∃ pass ∈ s.passes, pass.request.terminalId = t ∧ pass.stage = .deleted (s.requests t)

theorem deleted_kept {pass : Pass} {n : Nat} (mem : pass ∈ s.passes) (stage : pass.stage = .deleted n)
    (a : DispatchAction) : pass ∈ (next s a).passes := by
  have other {i : Nat} {request : DispatchRequest} {st : PassStage} {z : Pass}
      (due : s.passes[i]? = some ⟨request, st⟩) (h : st ≠ .deleted n) : pass ∈ s.passes.set i z := by
    refine mem_set_of_ne mem due ?_
    rintro rfl
    exact h stage
  cases a with
  | request => exact mem
  | claim pick now =>
      simp only [next]
      split
      · exact List.mem_append_left _ mem
      · exact mem
  | evaluate i =>
      simp only [next]
      split
      · exact other ‹_› (by simp)
      · exact mem
  | complete i now =>
      simp only [next]
      split
      · exact other ‹_› (by simp)
      · exact mem
  | retry i now =>
      simp only [next]
      split
      · exact other ‹_› (by simp)
      · exact other ‹_› (by simp)
      · exact mem

theorem covered_step (covered : Covered s) {a : DispatchAction} (caught : CaughtUp s a) :
    Covered (next s a) := by
  intro t gone
  have step := step_row s t a
  rw [gone] at step
  generalize known : (next s a).requests t = n, (next s a).born t = b at step
  generalize none_eq : (none : Option DispatchRequest) = o at step
  cases step with
  | absent _ free =>
      rcases covered t free with zero | ⟨pass, mem, mine, stage⟩
      · exact .inl zero
      · exact .inr ⟨pass, deleted_kept mem stage a, mine, stage⟩
  | deleted i now request r seen stood due mine hit =>
      refine .inr ⟨⟨request, .deleted seen⟩, ?_, mine, ?_⟩
      · have hits : ∃ row, s.Hits request row := ⟨r, hit⟩
        simp only [next, due, hits, if_true]
        exact List.mem_set (List.getElem?_eq_some_iff.mp due).1 _
      · rw [caught request seen stood r due hit, mine]
  | kept | raised | inserted => cases none_eq

/-- No wakeup is lost in a run: a request row is deleted only by a pass whose evaluation began after
every request of the terminal, and a later request leaves a row that can be claimed. -/
structure NoneLost (as : List DispatchAction) : Prop where
  caughtUp : ∀ p a q, as = p ++ a :: q → CaughtUp (machine.run {} p) a
  kept : ∀ p q, as = p ++ q → ∀ t, 0 < (machine.run {} p).requests t →
    (∃ pass ∈ (machine.run {} p).passes, pass.request.terminalId = t ∧
      pass.stage = .deleted ((machine.run {} p).requests t)) ∨
    ∃ r, (machine.run {} p).row t = some r ∧
      ∃ start, ∀ now, start ≤ now → DispatchRepository.isClaimable now r = true

theorem counted_run (as : List DispatchAction) :
    Counted (machine.run {} as) ∧ Remembered (machine.run {} as) :=
  Machine.invariant_run (M := machine) (I := fun s => Counted s ∧ Remembered s)
    (fun _ a h _ => ⟨counted_step h.1 a, remembered_step h.1 h.2 a⟩)
    ⟨by simp [Counted, row], by simp [Remembered]⟩ (machine.along_true {} as)

theorem covered_run {as : List DispatchAction} (along : machine.Along CaughtUp {} as) :
    Covered (machine.run {} as) :=
  Machine.invariant_run (M := machine) (I := Covered)
    (fun _ _ covered caught => covered_step covered caught) (by simp [Covered]) along

/-- No wakeup is lost in a run exactly when every completion that deletes a row deletes the one
that stood when its evaluation began. -/
theorem noneLost_iff (as : List DispatchAction) :
    NoneLost as ↔ machine.Along Stood {} as := by
  constructor
  · intro noneLost
    rw [Machine.along_iff]
    intro p a q split
    obtain ⟨counted, remembered⟩ := counted_run p
    exact (caughtUp_iff counted remembered a).mp (noneLost.caughtUp p a q split)
  · intro stood
    have caught : machine.Along CaughtUp {} as := by
      rw [Machine.along_iff] at stood ⊢
      intro p a q split
      obtain ⟨counted, remembered⟩ := counted_run p
      exact (caughtUp_iff counted remembered a).mpr (stood p a q split)
    refine ⟨(Machine.along_iff _).mp caught, ?_⟩
    rintro p q rfl t some_request
    obtain ⟨counted, -⟩ := counted_run p
    cases found : (machine.run {} p).row t with
    | some r => exact .inr ⟨r, rfl, ((counted t).2 r found).2.2.claimable⟩
    | none =>
        rcases covered_run ((Machine.along_append _ _ _ _).mp caught).1 t found with zero | covering
        · omega
        · exact .inl covering

/-- A pass stalls past its lease and is overtaken; a request commits during its evaluation. -/
def overtaken : List DispatchAction :=
  [.request 1 0, .claim 1 0, .claim 1 31000000, .evaluate 1, .complete 1 31000001, .evaluate 0,
   .request 1 31000002, .complete 0 31000003]

theorem overtaken_loses : ¬ NoneLost overtaken := by
  intro noneLost
  have caught := noneLost.caughtUp (overtaken.take 7) (.complete 0 31000003) [] rfl
  exact absurd (caught _ 1 none _ rfl ⟨rfl, rfl⟩) (by decide)

end DispatchSystem
end CoffeeCloud
