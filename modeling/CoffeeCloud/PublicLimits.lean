import CoffeeCloud.Library.Counter
import CoffeeCloud.Library.Machine
import CoffeeCloud.Schema

/-!
The admission of public requests: quotas in windows of a minute, and the event streams
that are open. Admission is one step, as is what a call does when its application
returns, raises or is cancelled; between them calls interleave at will.
-/
namespace CoffeeCloud
open Library

/-- What the server knows of a request. -/
structure Scope where
  kind : String := "http"
  path : String := ""
  method : Option String := none
  client : Option String := none

inductive WindowKey where
  | ip (ip : String) (write : Bool)
  | resource (resource : String)
deriving DecidableEq, Repr

inductive StreamKey where
  | ip (ip : String)
  | order (resource : String)
deriving DecidableEq, Repr

structure LimitSettings where
  readLimit : Nat := 240
  writeLimit : Nat := 30
  streamLimit : Nat := 1000

/-- A window is when it began and how many requests it counts. -/
structure PublicLimits where
  windows : Dict WindowKey (Time × Nat) := .empty
  streams : Counter StreamKey := .empty
  totalStreams : Int := 0
  lastCleanup : Time := 0

namespace Scope

def isPublic (scope : Scope) : Bool :=
  scope.kind = "http" &&
    (scope.path.startsWith "/api/v1/public/" ||
      (scope.path.startsWith "/api/v1/orders/" && scope.path.endsWith "/payments") ||
      (scope.path.startsWith "/api/v1/payments/" && scope.method ∈ [some "GET", some "HEAD"]))

def ip (scope : Scope) : String := scope.client.getD "unknown"

def write (scope : Scope) : Bool := scope.method ∉ [some "GET", some "HEAD", some "OPTIONS"]

/-- `'/'.join(path.split('/')[:7])`. -/
def resource (scope : Scope) : String :=
  String.intercalate "/" ((scope.path.splitOn "/").take 7)

def keys (scope : Scope) (settings : LimitSettings) : List (WindowKey × Nat) :=
  if scope.write then
    [(.ip scope.ip true, settings.writeLimit), (.resource scope.resource, settings.writeLimit * 2)]
  else [(.ip scope.ip false, settings.readLimit)]

def stream (scope : Scope) : Bool := scope.path.endsWith "/events" && scope.method = some "GET"

def streamKeys (scope : Scope) : List StreamKey := [.ip scope.ip, .order scope.resource]

end Scope

namespace PublicLimits

def windowLimit : Nat := 20000

/-- Once a minute the windows that are over are dropped. -/
def cleanup (l : PublicLimits) (now : Time) : PublicLimits :=
  if seconds 60 ≤ now - l.lastCleanup then
    { l with
      windows := l.windows.deleteWhere fun e => ¬ now - e.value.1 < seconds 60
      lastCleanup := now }
  else l

/-- The loop over the keys of a request; a table that is full refuses a new key and ends it. -/
def countRequest (now : Time) (windows : Dict WindowKey (Time × Nat)) :
    List (WindowKey × Nat) → Bool → Dict WindowKey (Time × Nat) × Bool
  | [], admitted => (windows, admitted)
  | (key, limit) :: keys, admitted =>
      let window := (windows.get? key).getD (now, 0)
      let window := if seconds 60 ≤ now - window.1 then (now, 0) else window
      if (windows.get? key).isNone ∧ windowLimit ≤ windows.rows.length then (windows, false)
      else
        countRequest now (windows.set key (window.1, window.2 + 1)) keys
          (admitted && window.2 < limit)

def full (l : PublicLimits) (settings : LimitSettings) (scope : Scope) : Bool :=
  settings.streamLimit ≤ l.totalStreams || 12 ≤ l.streams.count (.ip scope.ip) ||
    3 ≤ l.streams.count (.order scope.resource)

/-- Everything a public request does before its application is awaited. -/
def admission (l : PublicLimits) (settings : LimitSettings) (scope : Scope) (now : Time) :
    PublicLimits × Bool :=
  let l := l.cleanup now
  let (windows, admitted) := countRequest now l.windows (scope.keys settings) true
  let l := { l with windows }
  if !admitted || (scope.stream && l.full settings scope) then (l, false)
  else if scope.stream then
    ({ l with
      totalStreams := l.totalStreams + 1, streams := l.streams.update scope.streamKeys }, true)
  else (l, true)

/-- The `finally` of a call. -/
def leave (l : PublicLimits) (scope : Scope) : PublicLimits :=
  if scope.stream then
    { l with totalStreams := l.totalStreams - 1, streams := l.streams.release scope.streamKeys }
  else l

end PublicLimits

/-- The middleware, and the requests whose applications it awaits. -/
structure LimitSystem where
  limits : PublicLimits := {}
  running : List Scope := []

inductive LimitAction where
  | request (scope : Scope) (now : Time)
  /-- An application returns, raises or is cancelled. -/
  | finish (i : Nat)

inductive Admission where
  | passed | refused | admitted | done
deriving DecidableEq, Repr

namespace LimitSystem

def request (settings : LimitSettings) (s : LimitSystem) (scope : Scope) (now : Time) :
    LimitSystem × Admission :=
  if scope.isPublic then
    let r := s.limits.admission settings scope now
    if r.2 then (⟨r.1, s.running ++ [scope]⟩, .admitted) else (⟨r.1, s.running⟩, .refused)
  else (s, .passed)

def finish (s : LimitSystem) (i : Nat) : LimitSystem :=
  match s.running[i]? with
  | none => s
  | some scope => ⟨s.limits.leave scope, s.running.eraseIdx i⟩

def machine (settings : LimitSettings) : Machine LimitSystem LimitAction Admission where
  next s
    | .request scope now => s.request settings scope now
    | .finish i => (s.finish i, .done)

/-- How many streams are open. -/
def openStreams (s : LimitSystem) : Nat := s.running.countP (·.stream)

/-- How many of them are counted under a key. -/
def openWith (s : LimitSystem) (key : StreamKey) : Nat :=
  s.running.countP fun scope => scope.stream && key ∈ scope.streamKeys

end LimitSystem

namespace Scope
variable {scope : Scope}

theorem count_streamKeys (key : StreamKey) :
    scope.streamKeys.count key = if key ∈ scope.streamKeys then 1 else 0 := by
  refine List.Nodup.count ?_
  simp [streamKeys]

end Scope

namespace PublicLimits
variable {settings : LimitSettings} {scope : Scope} {now : Time} {l : PublicLimits}

theorem cleanup_length (small : l.windows.rows.length ≤ windowLimit) :
    (l.cleanup now).windows.rows.length ≤ windowLimit := by
  unfold cleanup
  split
  · exact (List.length_filter_le _ _).trans small
  · exact small

theorem countRequest_length (keys : List (WindowKey × Nat)) :
    ∀ (windows : Dict WindowKey (Time × Nat)) (admitted : Bool),
      windows.rows.length ≤ windowLimit →
      (countRequest now windows keys admitted).1.rows.length ≤ windowLimit := by
  induction keys with
  | nil => exact fun _ _ small => small
  | cons key keys ih =>
      intro windows admitted small
      simp only [countRequest]
      split
      · exact small
      · rename_i room
        refine ih _ _ ?_
        rw [Dict.length_set]
        by_cases new : (windows.get? key.1).isNone
        · have less : ¬ windowLimit ≤ windows.rows.length := fun full => room ⟨new, full⟩
          rw [if_pos new]
          omega
        · rw [if_neg new]
          exact small

theorem full_cleanup (windows : Dict WindowKey (Time × Nat)) :
    ({ l.cleanup now with windows } : PublicLimits).full settings scope = l.full settings scope := by
  unfold cleanup
  split <;> rfl

/-- What a request does to the counters of streams. -/
theorem admit_cases (l : PublicLimits) (settings : LimitSettings) (scope : Scope) (now : Time) :
    ((l.admission settings scope now).2 = true ∧ scope.stream = true ∧ l.full settings scope = false ∧
      (l.admission settings scope now).1.totalStreams = l.totalStreams + 1 ∧
      (l.admission settings scope now).1.streams = l.streams.update scope.streamKeys) ∨
    (((l.admission settings scope now).2 = true → scope.stream = false) ∧
      (l.admission settings scope now).1.totalStreams = l.totalStreams ∧
      (l.admission settings scope now).1.streams = l.streams) := by
  have total : (l.cleanup now).totalStreams = l.totalStreams := by
    unfold cleanup
    split <;> rfl
  have streams : (l.cleanup now).streams = l.streams := by
    unfold cleanup
    split <;> rfl
  simp only [admission, full_cleanup]
  split
  · exact .inr ⟨fun h => (by cases h), total, streams⟩
  · rename_i free
    split
    · rename_i stream
      have room : l.full settings scope = false := by
        simp only [stream, Bool.true_and, Bool.or_eq_true, not_or, Bool.not_eq_true] at free
        exact free.2
      exact .inl ⟨rfl, stream, room, by rw [total], by rw [streams]⟩
    · rename_i quiet
      exact .inr ⟨fun _ => by simpa using quiet, total, streams⟩

theorem admit_length (settings : LimitSettings) (scope : Scope) (now : Time)
    (small : l.windows.rows.length ≤ windowLimit) :
    (l.admission settings scope now).1.windows.rows.length ≤ windowLimit := by
  have counted : (countRequest now (l.cleanup now).windows (scope.keys settings) true).1.rows.length
      ≤ windowLimit := countRequest_length _ _ _ (cleanup_length small)
  simp only [admission]
  split
  · exact counted
  · split
    · exact counted
    · exact counted

end PublicLimits

namespace LimitSystem
variable {settings : LimitSettings} {s : LimitSystem}

/-- How often a request that runs holds a key. -/
def holds (scope : Scope) (key : StreamKey) : Nat :=
  if scope.stream then scope.streamKeys.count key else 0

theorem holds_eq (scope : Scope) (key : StreamKey) :
    holds scope key = if scope.stream && key ∈ scope.streamKeys then 1 else 0 := by
  unfold holds
  rw [Scope.count_streamKeys]
  cases scope.stream <;> simp

/-- The counters show the streams that are open, none of which is over its limit. -/
structure Accounted (settings : LimitSettings) (s : LimitSystem) : Prop where
  total : s.limits.totalStreams = s.openStreams
  shows : s.limits.streams.Shows s.openWith
  atMost : s.openStreams ≤ settings.streamLimit
  perAddress : ∀ ip, s.openWith (.ip ip) ≤ 12
  perOrder : ∀ resource, s.openWith (.order resource) ≤ 3
  table : s.limits.windows.rows.length ≤ PublicLimits.windowLimit

theorem openStreams_append (limits limits' : PublicLimits) (running : List Scope) (scope : Scope) :
    (⟨limits, running ++ [scope]⟩ : LimitSystem).openStreams =
      (⟨limits', running⟩ : LimitSystem).openStreams + if scope.stream then 1 else 0 := by
  simp [openStreams, List.countP_append, List.countP_singleton]

theorem openWith_append (limits limits' : PublicLimits) (running : List Scope) (scope : Scope)
    (key : StreamKey) :
    (⟨limits, running ++ [scope]⟩ : LimitSystem).openWith key =
      (⟨limits', running⟩ : LimitSystem).openWith key + holds scope key := by
  rw [holds_eq, openWith, List.countP_append, List.countP_singleton]
  rfl

theorem openStreams_erase {scope : Scope} {i : Nat} (limits : PublicLimits)
    (there : s.running[i]? = some scope) :
    s.openStreams = (⟨limits, s.running.eraseIdx i⟩ : LimitSystem).openStreams +
      if scope.stream then 1 else 0 := by
  obtain ⟨bound, rfl⟩ := List.getElem?_eq_some_iff.mp there
  have same := (List.getElem_cons_eraseIdx_perm bound).countP_eq (fun scope => scope.stream)
  rw [List.countP_cons] at same
  exact same.symm

theorem openWith_erase {scope : Scope} {i : Nat} (limits : PublicLimits)
    (there : s.running[i]? = some scope) (key : StreamKey) :
    s.openWith key = (⟨limits, s.running.eraseIdx i⟩ : LimitSystem).openWith key +
      holds scope key := by
  obtain ⟨bound, rfl⟩ := List.getElem?_eq_some_iff.mp there
  have same := (List.getElem_cons_eraseIdx_perm bound).countP_eq
    (fun scope : Scope => scope.stream && key ∈ scope.streamKeys)
  rw [List.countP_cons] at same
  rw [holds_eq]
  exact same.symm

/-- What leaves the counters and the streams alone. -/
theorem Accounted.same {t : LimitSystem} (acc : s.Accounted settings)
    (total : t.limits.totalStreams = s.limits.totalStreams)
    (streams : t.limits.streams = s.limits.streams)
    (table : t.limits.windows.rows.length ≤ PublicLimits.windowLimit)
    (count : t.openStreams = s.openStreams) (each : ∀ key, t.openWith key = s.openWith key) :
    t.Accounted settings := by
  refine ⟨?_, ?_, ?_, fun ip => ?_, fun resource => ?_, table⟩
  · rw [total, count]
    exact acc.total
  · rw [streams]
    exact acc.shows.congr each
  · rw [count]
    exact acc.atMost
  · rw [each]
    exact acc.perAddress ip
  · rw [each]
    exact acc.perOrder resource

/-- One more stream, where there is room for it. -/
theorem Accounted.open {limits : PublicLimits} {scope : Scope} (acc : s.Accounted settings)
    (stream : scope.stream = true) (room : s.limits.full settings scope = false)
    (total : limits.totalStreams = s.limits.totalStreams + 1)
    (streams : limits.streams = s.limits.streams.update scope.streamKeys)
    (table : limits.windows.rows.length ≤ PublicLimits.windowLimit) :
    (⟨limits, s.running ++ [scope]⟩ : LimitSystem).Accounted settings := by
  have held (key : StreamKey) : holds scope key = if key ∈ scope.streamKeys then 1 else 0 := by
    rw [holds, if_pos stream, Scope.count_streamKeys]
  simp only [PublicLimits.full, Bool.or_eq_false_iff, decide_eq_false_iff_not, acc.total,
    acc.shows.count, not_le] at room
  obtain ⟨⟨below, address⟩, order⟩ := room
  refine ⟨?_, ?_, ?_, fun ip => ?_, fun resource => ?_, table⟩
  · rw [openStreams_append limits s.limits, if_pos stream, total, acc.total]
    rfl
  · rw [streams]
    refine (acc.shows.update scope.streamKeys).congr fun key => ?_
    rw [openWith_append limits s.limits, holds, if_pos stream]
  · rw [openStreams_append limits s.limits, if_pos stream]
    change s.openStreams + 1 ≤ _
    omega
  · rw [openWith_append limits s.limits, held]
    change s.openWith (.ip ip) + _ ≤ 12
    have before := acc.perAddress ip
    by_cases mine : ip = scope.ip
    · subst mine
      split <;> omega
    · simp [Scope.streamKeys, mine]
      exact before
  · rw [openWith_append limits s.limits, held]
    change s.openWith (.order resource) + _ ≤ 3
    have before := acc.perOrder resource
    by_cases mine : resource = scope.resource
    · subst mine
      split <;> omega
    · simp [Scope.streamKeys, mine]
      exact before

theorem holds_quiet {scope : Scope} (quiet : scope.stream = false) (key : StreamKey) :
    holds scope key = 0 := by
  simp [holds, quiet]

theorem Accounted.request (acc : s.Accounted settings) (scope : Scope) (now : Time) :
    (s.request settings scope now).1.Accounted settings := by
  have table := PublicLimits.admit_length settings scope now acc.table
  unfold LimitSystem.request
  split
  · rcases PublicLimits.admit_cases s.limits settings scope now with
      ⟨admitted, stream, room, total, streams⟩ | ⟨quiet, total, streams⟩
    · simp only [admitted, if_true]
      exact acc.open stream room total streams table
    · dsimp only
      split
      · rename_i admitted
        have quiet := quiet admitted
        refine acc.same total streams table ?_ fun key => ?_
        · rw [openStreams_append _ s.limits, quiet]
          rfl
        · rw [openWith_append _ s.limits, holds_quiet quiet]
          rfl
      · exact acc.same total streams table rfl fun _ => rfl
  · exact acc

theorem Accounted.finish (acc : s.Accounted settings) (i : Nat) :
    (s.finish i).Accounted settings := by
  unfold LimitSystem.finish
  cases there : s.running[i]? with
  | none => exact acc
  | some scope =>
      change (⟨s.limits.leave scope, s.running.eraseIdx i⟩ : LimitSystem).Accounted settings
      have count := openStreams_erase (s.limits.leave scope) there
      have each := openWith_erase (s.limits.leave scope) there
      cases stream : scope.stream with
      | false =>
          have idle : s.limits.leave scope = s.limits := by simp [PublicLimits.leave, stream]
          refine acc.same (congrArg _ idle) (congrArg _ idle) ?_ ?_ fun key => ?_
          · change (s.limits.leave scope).windows.rows.length ≤ _
            rw [idle]
            exact acc.table
          · rw [count, stream]
            rfl
          · rw [each key, holds_quiet stream]
            rfl
      | true =>
          have left : s.limits.leave scope = { s.limits with
              totalStreams := s.limits.totalStreams - 1
              streams := s.limits.streams.release scope.streamKeys } := by
            simp [PublicLimits.leave, stream]
          have mine (key : StreamKey) : holds scope key = scope.streamKeys.count key := by
            rw [holds, if_pos stream]
          rw [stream, if_pos rfl] at count
          refine ⟨?_, ?_, ?_, fun ip => ?_, fun resource => ?_, ?_⟩
          · have before := acc.total
            have total : (s.limits.leave scope).totalStreams = s.limits.totalStreams - 1 := by
              rw [left]
            change (s.limits.leave scope).totalStreams = _
            omega
          · have released := acc.shows.release scope.streamKeys fun key => by
              rw [each key, mine]
              omega
            have streams : (s.limits.leave scope).streams =
                s.limits.streams.release scope.streamKeys := by rw [left]
            change (s.limits.leave scope).streams.Shows _
            rw [streams]
            refine released.congr fun key => ?_
            rw [each key, mine]
            omega
          · have before := acc.atMost
            omega
          · have before := acc.perAddress ip
            rw [each] at before
            omega
          · have before := acc.perOrder resource
            rw [each] at before
            omega
          · change (s.limits.leave scope).windows.rows.length ≤ _
            rw [left]
            exact acc.table

theorem accounted_start : ({} : LimitSystem).Accounted settings :=
  ⟨rfl, Counter.shows_empty, Nat.zero_le _, fun _ => Nat.zero_le _, fun _ => Nat.zero_le _,
    Nat.zero_le _⟩

theorem accounted_run (settings : LimitSettings) (as : List LimitAction) :
    ((machine settings).run {} as).Accounted settings := by
  refine Machine.invariant_run (P := fun _ _ => True) (I := Accounted settings) ?_ accounted_start
    (Machine.along_true _ _ as)
  intro s a acc _
  cases a with
  | request scope now => exact acc.request scope now
  | finish i => exact acc.finish i

theorem refused_same {scope : Scope} {now : Time}
    (refused : (s.request settings scope now).2 = .refused) :
    (s.request settings scope now).1.limits.streams = s.limits.streams ∧
      (s.request settings scope now).1.limits.totalStreams = s.limits.totalStreams ∧
      (s.request settings scope now).1.running = s.running := by
  unfold LimitSystem.request at refused ⊢
  split at refused
  · rename_i isPublic
    rcases PublicLimits.admit_cases s.limits settings scope now with
      ⟨admitted, -⟩ | ⟨-, total, streams⟩
    · simp [admitted] at refused
    · by_cases admitted : (s.limits.admission settings scope now).2 = true
      · simp [admitted] at refused
      · simp only [isPublic, if_true, admitted]
        exact ⟨streams, total, rfl⟩
  · cases refused

/-- Whatever requests come and however their applications end: the counters show the streams that
are open and have no entry for a key without one, no limit is exceeded, and a request that is
refused leaves them as they are. -/
theorem streams_accounted (settings : LimitSettings) (as : List LimitAction) :
    let s := (machine settings).run {} as
    s.limits.totalStreams = s.openStreams ∧
      (∀ key, Dict.get? s.limits.streams key =
        if s.openWith key = 0 then none else some (s.openWith key : Int)) ∧
      s.limits.totalStreams ≤ settings.streamLimit ∧
      (∀ ip, s.openWith (.ip ip) ≤ 12) ∧ (∀ resource, s.openWith (.order resource) ≤ 3) ∧
      s.limits.windows.rows.length ≤ 20000 ∧
      ∀ scope now, (machine settings).answer s (.request scope now) = .refused →
        ((machine settings).step s (.request scope now)).limits.streams = s.limits.streams ∧
        ((machine settings).step s (.request scope now)).limits.totalStreams =
          s.limits.totalStreams ∧
        ((machine settings).step s (.request scope now)).running = s.running := by
  intro s
  have acc := accounted_run settings as
  refine ⟨acc.total, acc.shows, ?_, acc.perAddress, acc.perOrder, acc.table, ?_⟩
  · rw [acc.total]
    exact Nat.cast_le.mpr acc.atMost
  · exact fun scope now refused => refused_same refused

end LimitSystem
end CoffeeCloud
