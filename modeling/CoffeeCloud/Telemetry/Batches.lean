import CoffeeCloud.Gateway.Redelivery
import CoffeeCloud.Telemetry.Cache

/-!
A batch against the same messages one by one. What the cache holds back and what the
store has, taken together, is a view that every call changes alike inside a batch and
outside of one; the end of a batch leaves the view as it is.
-/
namespace CoffeeCloud
open Library

/-- What the store will have been told: the fields of each device but for the count of writes, the
dirty devices, the progress of each task, and who is online. -/
@[ext] structure TelemetryView where
  values : String → String → Option String
  marked : String → Prop
  progress : String → ProgressHash
  online : String → Bool

/-- The fields of a device after a write. -/
def written (items : List (String × String)) (h : String → Option String) :
    String → Option String :=
  drop (items.foldl (fun m v => put m v.1 v.2) h) "progressPayload"

namespace TelemetryView

def write (device : String) (items : List (String × String)) (v : TelemetryView) : TelemetryView :=
  { v with
    values := fun d => if d = device then written items (v.values d) else v.values d
    marked := fun d => d = device ∨ v.marked d }

def setOnline (device : String) (online : Bool) (v : TelemetryView) : TelemetryView :=
  { v with online := fun d => if d = device then online else v.online d }

def store (key : String) (revision : Int) (event : String) (v : TelemetryView) : TelemetryView :=
  { v with
    progress := fun k => if k = key then (v.progress k).store revision event else v.progress k }

end TelemetryView

namespace TelemetryRedis

def view (r : TelemetryRedis) : TelemetryView where
  values d := (r.hot d).values
  marked d := d ∈ r.dirty
  progress := r.progress
  online := r.online

end TelemetryRedis

theorem foldl_put (items : List (String × String)) (h : String → Option String) (f : String) :
    items.foldl (fun m v => put m v.1 v.2) h f =
      ((items.reverse.find? fun i => i.1 = f).map (·.2)).or (h f) := by
  induction items generalizing h with
  | nil => rfl
  | cons i items ih =>
      rw [List.foldl_cons, ih, List.reverse_cons, List.find?_append]
      cases items.reverse.find? fun i => i.1 = f with
      | some j => rfl
      | none =>
          by_cases here : i.1 = f
          · simp [here, put]
          · simp [here, Ne.symm here, put]

theorem foldl_put_items (d : Dict String String) (h : String → Option String) (f : String) :
    d.items.foldl (fun m v => put m v.1 v.2) h f = (d.get? f).or (h f) := by
  have loop := Dict.foldl_items (fun v (_ : Option String) => some v) d h f
  refine Eq.trans loop ?_
  cases d.get? f <;> rfl

/-- A device's fields that are held back and updated are those of two writes. -/
theorem written_update (d : Dict String String) (items : List (String × String))
    (h : String → Option String) :
    written (d.update items).items h = written items (written d.items h) := by
  funext f
  simp only [written, drop]
  split
  · rfl
  · rename_i other
    rw [foldl_put_items, foldl_put, Dict.get?_update]
    simp only [drop, if_neg other]
    rw [foldl_put_items, Option.or_assoc]

theorem written_update_empty (items : List (String × String)) (h : String → Option String) :
    written (Dict.update .empty items).items h = written items h := by
  funext f
  simp only [written, drop]
  split
  · rfl
  · rw [foldl_put_items, foldl_put, Dict.get?_update, Dict.get?_empty, Option.or_none]

section Store
variable {n m : Int} {e e' : String} {h : ProgressHash}

theorem store_of_le (old : (n : Rat) ≤ h.revision.getD (-1)) : h.store n e = h := if_pos old

theorem store_of_lt (new : h.revision.getD (-1) < (n : Rat)) :
    h.store n e = ⟨some n, some e⟩ := if_neg (not_le.mpr new)

/-- Of two events the newer one counts, and of two alike the first. -/
theorem store_store : (h.store n e).store m e' = if n < m then h.store m e' else h.store n e := by
  rcases le_or_gt (n : Rat) (h.revision.getD (-1)) with old | new
  · rw [store_of_le old]
    split
    · rfl
    · rename_i le
      have below : (m : Rat) ≤ n := Int.cast_le.mpr (not_lt.mp le)
      exact store_of_le (below.trans old)
  · rw [store_of_lt new]
    split
    · rename_i lt
      have above : (n : Rat) < m := Int.cast_lt.mpr lt
      rw [store_of_lt (new.trans above)]
      exact store_of_lt above
    · rename_i le
      exact store_of_le (Int.cast_le.mpr (not_lt.mp le))

end Store

namespace TelemetryCache
variable (dumps : Json → String)

/-- What the store will hold once what is held back is written. -/
def view (c : TelemetryCache) : TelemetryView :=
  match c.buffer with
  | none => c.redis.view
  | some b =>
      { values := fun d => ((b.writes.get? d).map fun v =>
          written v.items (c.redis.hot d).values).getD (c.redis.hot d).values
        marked := fun d => (b.writes.get? d).isSome ∨ d ∈ c.redis.dirty
        progress := fun k => ((b.progress.get? k).map fun event =>
          (c.redis.progress k).store (revisionOf event) (dumps event)).getD (c.redis.progress k)
        online := c.redis.online }

variable {dumps} {c : TelemetryCache} {device : String}

theorem view_write (items : List (String × String)) :
    (c.write device items).view dumps = (c.view dumps).write device items := by
  obtain ⟨redis, _ | b⟩ := c
  · ext1
    · funext d
      simp only [write, view, TelemetryRedis.view, TelemetryView.write]
      split
      · rename_i same
        subst same
        rfl
      · rfl
    · funext d
      exact propext (AList.mem_insert _)
    · rfl
    · rfl
  · ext1
    · funext d
      simp only [write, view, TelemetryView.write, Dict.get?_set]
      by_cases same : d = device
      · subst same
        simp only [if_true, Option.map_some, Option.getD_some]
        cases b.writes.get? d with
        | none => exact written_update_empty _ _
        | some v => exact written_update _ _ _
      · simp [same]
    · funext d
      simp only [write, view, TelemetryView.write, Dict.get?_set, eq_iff_iff]
      by_cases same : d = device <;> simp [same]
    · rfl
    · rfl

theorem view_setOnline (online : Bool) :
    (c.setOnline device online).view dumps = (c.view dumps).setOnline device online := by
  obtain ⟨redis, _ | b⟩ := c <;> rfl

theorem view_online (d : String) : c.redis.online d = (c.view dumps).online d := by
  obtain ⟨redis, _ | b⟩ := c <;> rfl

theorem view_progress (event : Json) :
    (c.progress dumps device event).view dumps =
      (c.view dumps).store (progressKey dumps device
        ((((event.getD "payload").getD "taskId").asStr?).getD "")) (revisionOf event)
        (dumps event) := by
  obtain ⟨redis, _ | b⟩ := c
  · rfl
  · simp only [progress]
    generalize progressKey dumps device _ = key
    cases held : b.progress.get? key with
    | none =>
        ext1
        · rfl
        · rfl
        · funext k
          simp only [Option.all_none, if_true, view, TelemetryView.store, Dict.get?_set]
          by_cases same : k = key
          · subst same
            simp [held]
          · simp [same]
        · rfl
    | some previous =>
        simp only [Option.all_some, decide_eq_true_eq]
        split
        · rename_i newer
          ext1
          · rfl
          · rfl
          · funext k
            simp only [view, TelemetryView.store, Dict.get?_set]
            by_cases same : k = key
            · subst same
              simp [held, store_store, newer]
            · simp [same]
          · rfl
        · rename_i older
          ext1
          · rfl
          · rfl
          · funext k
            simp only [view, TelemetryView.store]
            by_cases same : k = key
            · subst same
              simp [held, store_store, older]
            · simp [same]
          · rfl

theorem view_enter (idle : c.buffer = none) : c.enter.view dumps = c.view dumps := by
  obtain ⟨redis, _ | b⟩ := c
  · ext1
    · rfl
    · funext d
      simp [enter, view, TelemetryRedis.view, Dict.get?_empty]
    · rfl
    · rfl
  · cases idle

/-- The progress that was held back is stored, and nothing else changes. -/
theorem queueProgress_items (items : List (String × Json)) (r : TelemetryRedis) :
    items.foldl (fun r i => queueProgress dumps i.1 i.2 r) r =
      { r with progress := items.foldl (fun m i => fun k =>
          if k = i.1 then (m k).store (revisionOf i.2) (dumps i.2) else m k) r.progress } := by
  induction items generalizing r with
  | nil => rfl
  | cons i items ih =>
      rw [List.foldl_cons, ih]
      rfl

theorem mem_items {β : Type} (d : Dict String β) (k : String) :
    k ∈ d.items.map Prod.fst ↔ (d.get? k).isSome := by
  rw [Dict.items, List.map_map, Dict.get?, Option.isSome_map, Option.isSome_iff_exists, List.mem_map]
  constructor
  · rintro ⟨e, mem, rfl⟩
    exact ⟨e, Table.find?_of_mem mem⟩
  · rintro ⟨e, found⟩
    exact ⟨e, Table.mem_of_find? found, Table.key_of_find? found⟩

/-- The end of a batch changes nothing of the view. -/
theorem view_leave (score : Int) : (c.leave dumps score).view dumps = c.view dumps := by
  obtain ⟨redis, _ | b⟩ := c
  · rfl
  · simp only [leave, flush, queueProgress_items]
    ext1
    · funext d
      have loop := congrArg HotState.values (Dict.foldl_items
        (fun v (state : HotState) => state.write v.items) b.writes redis.hot d)
      refine Eq.trans loop ?_
      simp only [view]
      cases b.writes.get? d <;> rfl
    · funext d
      have scored : (b.writes.items.zipIdx.map fun i => (i.1.1, score + (i.2 : Int))).map Prod.fst =
          b.writes.items.map Prod.fst := by
        rw [List.map_map]
        have firsts := congrArg (List.map Prod.fst) (List.zipIdx_map_fst 0 b.writes.items)
        rw [List.map_map] at firsts
        exact firsts
      simp only [view, TelemetryRedis.view, eq_iff_iff]
      rw [SortedSet.mem_foldl_insert, scored, mem_items]
    · funext k
      exact Dict.foldl_items (fun event (h : ProgressHash) =>
        h.store (revisionOf event) (dumps event)) b.progress redis.progress k
    · rfl

end TelemetryCache

namespace MqttGatewayService
open TelemetryCache
variable {δ ρ : Type} {env : GatewayEnv} {domain : GatewayDomain δ ρ} {dumps : Json → String}
  {c c' : TelemetryCache}

/-- A call changes the view by what the view was, whether there is a batch or not. -/
theorem view_cacheCall (same : c.view dumps = c'.view dumps) (u : ReadUplink) (terminalId : Id)
    (stamp : String) :
    (cacheCall env dumps u terminalId stamp c).view dumps =
      (cacheCall env dumps u terminalId stamp c').view dumps := by
  simp only [cacheCall]
  split
  · split
    · rw [view_progress, view_progress, same]
    · exact same
  · split
    · split
      · simp only [presence, view_setOnline, view_write, same]
      · simp only [state, view_write, same]
      · simp only [heartbeat, view_setOnline, view_write, same]
    · exact same

/-- Two runs of the intake with the same answers, the same rows and the same view. -/
structure Agree {α : Type} (dumps : Json → String) (a b : α × GatewayRows δ × TelemetryCache) :
    Prop where
  answer : a.1 = b.1
  rows : a.2.1 = b.2.1
  view : a.2.2.view dumps = b.2.2.view dumps

theorem ingestCached_agree (same : c.view dumps = c'.view dumps) (m : TelemetryMessage ρ)
    (rows : GatewayRows δ) :
    Agree dumps (ingestCached env domain dumps m rows c)
      (ingestCached env domain dumps m rows c') := by
  have online : c.redis.online (deviceOf m.uplink) = c'.redis.online (deviceOf m.uplink) := by
    have here : c.redis.online _ = (c.view dumps).online _ := view_online (deviceOf m.uplink)
    rw [here, same]
    exact (view_online _).symm
  refine ⟨?_, ?_, ?_⟩
  · simp only [ingestCached, online]
  · simp only [ingestCached, online]
  · simp only [ingestCached]
    split
    · exact same
    · split
      · exact same
      · split
        · exact view_cacheCall same _ _ _
        · exact same

theorem ingestEach_agree (ms : List (TelemetryMessage ρ)) :
    ∀ {c c' : TelemetryCache} (_ : c.view dumps = c'.view dumps) (rows : GatewayRows δ),
      Agree dumps (ingestEach env domain dumps ms rows c) (ingestEach env domain dumps ms rows c') := by
  induction ms with
  | nil => exact fun same rows => ⟨rfl, rfl, same⟩
  | cons m ms ih =>
      intro c c' same rows
      have one : Agree dumps (ingestCached env domain dumps m rows c)
          (ingestCached env domain dumps m rows c') := ingestCached_agree same m rows
      have rest := ih one.view (ingestCached env domain dumps m rows c).2.1
      simp only [ingestEach]
      rw [one.rows] at rest ⊢
      exact ⟨by rw [one.answer, rest.answer], rest.rows, rest.view⟩

theorem buffer_cacheCall (u : ReadUplink) (terminalId : Id) (stamp : String) :
    (cacheCall env dumps u terminalId stamp c).buffer.isSome = c.buffer.isSome := by
  obtain ⟨redis, _ | b⟩ := c
  · simp only [cacheCall]
    split
    · split <;> rfl
    · split
      · split <;> rfl
      · rfl
  · simp only [cacheCall]
    split
    · split
      · simp only [progress]
        split <;> rfl
      · rfl
    · split
      · split <;> rfl
      · rfl

theorem buffer_ingestCached (m : TelemetryMessage ρ) (rows : GatewayRows δ) :
    (ingestCached env domain dumps m rows c).2.2.buffer.isSome = c.buffer.isSome := by
  simp only [ingestCached]
  split
  · rfl
  · split
    · rfl
    · split
      · exact buffer_cacheCall _ _ _
      · rfl

theorem buffer_ingestEach (ms : List (TelemetryMessage ρ)) :
    ∀ (c : TelemetryCache) (rows : GatewayRows δ),
      (ingestEach env domain dumps ms rows c).2.2.buffer.isSome = c.buffer.isSome := by
  induction ms with
  | nil => exact fun _ _ => rfl
  | cons m ms ih => exact fun c rows => (ih _ _).trans (buffer_ingestCached m rows)

theorem view_idle (idle : c.buffer.isSome = false) : c.view dumps = c.redis.view := by
  obtain ⟨redis, _ | b⟩ := c
  · rfl
  · cases idle

theorem buffer_leave (score : Int) : (c.leave dumps score).buffer.isSome = false := by
  obtain ⟨redis, _ | b⟩ := c <;> rfl

theorem ingestProgress_refused {u : ReadUplink} {cache : CacheAnswers} {rows : GatewayRows δ}
    {failure : Failure} {terminalId : Id} (cached : env.cached = true)
    (known : domain.terminal rows.domain u.deviceId = some terminalId)
    (h : (ingestProgress env domain u cache rows).1 = .error failure) :
    validateProgress u.payload = .error failure := by
  simp only [ingestProgress, known, cached, if_true] at h
  split at h
  · rename_i e invalid
    cases h
    exact invalid
  · cases h

/-- Telemetry that the cache takes fails only where the wake-up of the terminal does. -/
theorem ingestTelemetry_refused {u : ReadUplink} {online : Bool} {draw : ρ} {rows : GatewayRows δ}
    {failure : Failure} {terminalId : Id} (cached : env.cached = true)
    (known : domain.terminal rows.domain u.deviceId = some terminalId)
    (h : (ingestTelemetry env domain u ⟨true, online⟩ draw rows).1 = .error failure) :
    domain.handle terminalId .requestDispatch draw rows.domain = .error failure := by
  simp only [ingestTelemetry, known, cached, Bool.and_self, if_true, call] at h
  split at h
  · cases woken : domain.handle terminalId .requestDispatch draw rows.domain with
    | error e =>
        rw [woken] at h
        cases h
        rfl
    | ok d =>
        rw [woken] at h
        cases h
  · cases h

theorem ingestCached_refused {m : TelemetryMessage ρ} {rows : GatewayRows δ} {failure : Failure}
    (wakes : ∀ terminalId draw d, domain.handle terminalId .requestDispatch draw d ≠ .error failure)
    (h : (ingestCached env domain dumps m rows c).1 = .error failure) :
    (ingestCached env domain dumps m rows c).2.2 = c := by
  simp only [ingestCached, ingest] at h ⊢
  cases read : readUplink env m.uplink with
  | error unread => rfl
  | ok u =>
      simp only [read] at h ⊢
      split
      · rfl
      · rename_i terminalId known
        split
        · rename_i cached
          simp only [cacheCall]
          split
          · rename_i lossy
            rw [if_pos lossy] at h
            rw [ingestProgress_refused cached known h]
          · rename_i lossy
            rw [if_neg lossy] at h
            split
            · rename_i telemetry
              rw [if_pos telemetry] at h
              exact absurd (ingestTelemetry_refused cached known h) (wakes _ _ _)
            · rfl
        · rfl

/-- A wake-up is a row that is written. -/
theorem requestDispatch_succeeds (services : Env) (terminalId : Id) (draw : EventDraw) (db : Db)
    (failure : Failure) :
    (eventDomain services).handle terminalId .requestDispatch draw db ≠ .error failure :=
  fun h => by cases h

/-- In a batch and out of it the messages are answered alike and leave the same rows, and the end of
the batch leaves the store as they leave it one by one; a message that is refused leaves it alone. -/
theorem batch_agrees (services : Env) (gateway : GatewayEnv) (dumps : Json → String)
    (ms : List (TelemetryMessage EventDraw)) (rows : GatewayRows Db) (redis : TelemetryRedis)
    (score : Int) :
    let run := ingestEach gateway (eventDomain services) dumps ms rows
    let batch := run (TelemetryCache.enter { redis })
    let single := run { redis }
    batch.1 = single.1 ∧ batch.2.1 = single.2.1 ∧
      (batch.2.2.leave dumps score).redis.view = single.2.2.redis.view ∧
      ∀ (m : TelemetryMessage EventDraw) (rows : GatewayRows Db) (c : TelemetryCache)
        (failure : Failure),
        (ingestCached gateway (eventDomain services) dumps m rows c).1 = .error failure →
          (ingestCached gateway (eventDomain services) dumps m rows c).2.2 = c := by
  intro run batch single
  have start : (TelemetryCache.enter { redis }).view dumps = TelemetryCache.view dumps { redis } :=
    view_enter rfl
  have agree : Agree dumps batch single := ingestEach_agree ms start rows
  refine ⟨agree.answer, agree.rows, ?_, ?_⟩
  · have idle : single.2.2.buffer.isSome = false := buffer_ingestEach ms _ rows
    calc (batch.2.2.leave dumps score).redis.view
        = (batch.2.2.leave dumps score).view dumps := (view_idle (buffer_leave score)).symm
      _ = batch.2.2.view dumps := view_leave score
      _ = single.2.2.view dumps := agree.view
      _ = single.2.2.redis.view := view_idle idle
  · intro m rows c failure
    exact ingestCached_refused fun _ _ _ => requestDispatch_succeeds services _ _ _ _

end MqttGatewayService
end CoffeeCloud
