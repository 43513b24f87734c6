import CoffeeCloud.Services.MqttGateway
import CoffeeCloud.Services.Production

/-!
The overlay of cached progress over an order's durable snapshot. An event that
is older, invalid or of another task leaves the snapshot alone; a newer one sets
the job's figures. The overlay of a list of events is that of the newest of
them, as long as no event it takes up carries an explicit null for its progress.
-/
namespace CoffeeCloud
open Library ProductionService MqttGatewayService

/-- The `production` part of an order snapshot; a null is a value the snapshot does not have. -/
structure LiveJob where
  taskId : String
  status : JobStatus
  deviceRevision : Int := 0
  progress : Rat := 0
  overallProgress : Rat := 0
  stepProgress : Rat := 0
  currentStepId : Json := .null
  currentStepName : Json := .null
  elapsedSeconds : Json := .null
  remainingSeconds : Json := .null

structure OrderSnapshot where
  deviceId : String
  status : OrderStatus
  production : Option LiveJob := none

/-- An event in the cache is an object. -/
abbrev CachedEvent := List (String × Json)

namespace LiveProgress

def payloadOf (event : CachedEvent) : Json := (Json.obj event).getD "payload"

def taskRevision (event : CachedEvent) : Int :=
  ((payloadOf event).getD "taskRevision").asInt?.getD 0

/-- The event is of the snapshot's device and of the job's task. -/
def concerns (snapshot : OrderSnapshot) (job : LiveJob) (event : CachedEvent) : Bool :=
  ((Json.obj event).getD "deviceId").asStr? = some snapshot.deviceId &&
    ((payloadOf event).getD "taskId").asStr? = some job.taskId

/-- `payload.get(name, payload.get("progress", current))`, where an explicit null is a value. -/
def figure? (payload : Json) (name : String) : Option Json :=
  (payload.get? name).or (payload.get? "progress")

/-- `max(0.0, min(1.0, value))`; a null has no order. -/
def overlaid (payload : Json) (name : String) (current : Rat) : Except Failure Rat :=
  match figure? payload name with
  | none => .ok (clamp current)
  | some value =>
      match number? value with
      | some q => .ok (clamp q)
      | none => .error (.exception "TypeError")

def LiveJob.overlay (job : LiveJob) (event : CachedEvent) (overall step : Rat) : LiveJob :=
  let payload := payloadOf event
  { job with
    currentStepId := (payload.field? "stepId").getD job.currentStepId
    currentStepName := (payload.field? "stepName").getD job.currentStepName
    elapsedSeconds := (payload.field? "elapsedSeconds").getD job.elapsedSeconds
    remainingSeconds := (payload.field? "remainingSeconds").getD job.remainingSeconds
    progress := overall
    overallProgress := overall
    stepProgress := step
    deviceRevision := taskRevision event }

/-- The job an overlay may change: that of an order being made, executing. -/
def live? (snapshot : OrderSnapshot) : Option LiveJob :=
  snapshot.production.filter fun job =>
    snapshot.status = OrderStatus.making && job.status = JobStatus.executing

/-- The snapshot with the figures of a newer event. -/
def takeUp (snapshot : OrderSnapshot) (job : LiveJob) (event : CachedEvent) :
    Except Failure OrderSnapshot := do
  let overall ← overlaid (payloadOf event) "overallProgress" job.overallProgress
  let step ← overlaid (payloadOf event) "stepProgress" job.stepProgress
  .ok { snapshot with production := some (LiveJob.overlay job event overall step) }

def mergeProgress (snapshot : OrderSnapshot) (event : Option CachedEvent) :
    Except Failure OrderSnapshot :=
  match event.filter (· ≠ []), live? snapshot with
  | some event, some job =>
      match validateProgress (.obj event) with
      -- A `ValueError` is caught, an `OverflowError` is not.
      | .error (.exception name) => .error (.exception name)
      | .error _ => .ok snapshot
      | .ok () =>
          if !concerns snapshot job event then .ok snapshot
          else if taskRevision event ≤ job.deviceRevision then .ok snapshot
          else takeUp snapshot job event
  | _, _ => .ok snapshot

/-- The revision of an event that matches the snapshot: the order is being made, the job executing,
the event valid, of this device and of this task. -/
def revision? (snapshot : OrderSnapshot) (event : Option CachedEvent) : Option Int :=
  match event, live? snapshot with
  | some event, some job =>
      match validateProgress (.obj event) with
      | .ok () => if concerns snapshot job event then some (taskRevision event) else none
      | .error _ => none
  | _, _ => none

def deviceRevision (snapshot : OrderSnapshot) : Int :=
  snapshot.production.elim 0 (·.deviceRevision)

/-- The newest revision among the snapshot's own and those of the events that match it. -/
def newest (snapshot : OrderSnapshot) (events : List (Option CachedEvent)) : Int :=
  (events.filterMap (revision? snapshot)).foldl max (deviceRevision snapshot)

def InRange (snapshot : OrderSnapshot) : Prop :=
  ∀ job, snapshot.production = some job →
    ∀ q ∈ [job.progress, job.overallProgress, job.stepProgress], 0 ≤ q ∧ q ≤ 1

/-- What an overlay promises of its result. -/
structure Overlaid (snapshot : OrderSnapshot) (event : Option CachedEvent)
    (result : OrderSnapshot) : Prop where
  matched : result ≠ snapshot → ∃ r, revision? snapshot event = some r ∧ deviceRevision snapshot < r
  advanced : result ≠ snapshot → deviceRevision snapshot < deviceRevision result ∧ InRange result
  twice : mergeProgress result event = .ok result

/-- Every overlay of the list completes as promised, and the last shows the newest revision. -/
def Overlays (snapshot : OrderSnapshot) (events : List (Option CachedEvent)) : Prop :=
  (∀ before event after, events = before ++ event :: after →
    ∃ current result, before.foldlM mergeProgress snapshot = .ok current ∧
      mergeProgress current event = .ok result ∧ Overlaid current event result) ∧
  ∃ result, events.foldlM mergeProgress snapshot = .ok result ∧
    deviceRevision result = newest snapshot events

/-- The overlay cannot take the event up: a number of it is beyond every float, or it is newer than
what is shown and a figure of its progress is an explicit null. -/
inductive Unfit (snapshot : OrderSnapshot) (shown : Int) : Option CachedEvent → Prop
  | overflow {event : CachedEvent} {job : LiveJob} {name : String}
      (live : live? snapshot = some job)
      (raised : validateProgress (.obj event) = .error (.exception name)) :
      Unfit snapshot shown (some event)
  | null {event : CachedEvent} {r : Int} (is : revision? snapshot (some event) = some r)
      (newer : shown < r)
      (missing : figure? (payloadOf event) "overallProgress" = some .null ∨
        figure? (payloadOf event) "stepProgress" = some .null) :
      Unfit snapshot shown (some event)

theorem checkNumbers_ok {payload : Json} {names : List String}
    (checked : checkNumbers payload names = .ok ()) {name : String} (listed : name ∈ names)
    {value : Json} (given : payload.field? name = some value) : ∃ q, number? value = some q := by
  induction names with
  | nil => cases listed
  | cons first names ih =>
      simp only [checkNumbers] at checked
      cases listed with
      | head =>
          rw [given] at checked
          cases value with
          | int n => exact ⟨n, rfl⟩
          | float q => exact ⟨q, rfl⟩
          | null | bool _ | str _ | arr _ | obj _ => cases checked
      | tail _ listed =>
          split at checked
          · exact ih checked listed
          · split at checked
            · cases checked
            · exact ih checked listed
            · cases checked

theorem validateProgress_numbers {event : CachedEvent}
    (valid : validateProgress (.obj event) = .ok ()) :
    checkNumbers (payloadOf event)
      ["overallProgress", "stepProgress", "progress", "elapsedSeconds", "remainingSeconds"] =
        .ok () := by
  simp only [validateProgress] at valid
  split at valid
  · cases valid
  · split at valid
    · cases valid
    · exact valid

theorem clamp_range (q : Rat) : 0 ≤ clamp q ∧ clamp q ≤ 1 := by
  simp only [clamp]
  constructor
  · exact le_max_left _ _
  · exact max_le (by norm_num) (min_le_left _ _)

theorem field?_of_get? {payload value : Json} {name : String}
    (given : payload.get? name = some value) (other : value ≠ .null) :
    payload.field? name = some value := by
  simp only [Json.field?, given]
  split
  · next h => exact absurd (Option.some.inj h) other
  · rfl

theorem overlaid_null {payload : Json} {name : String} {current : Rat}
    (missing : figure? payload name = some .null) :
    overlaid payload name current = .error (.exception "TypeError") := by
  simp only [overlaid, missing, number?]

/-- A validated figure that is no null gives a share. -/
theorem overlaid_ok {payload : Json} {name : String} {names : List String} {current : Rat}
    (checked : checkNumbers payload names = .ok ()) (listed : name ∈ names)
    (legacy : "progress" ∈ names) (given : figure? payload name ≠ some .null) :
    ∃ q, overlaid payload name current = .ok q ∧ 0 ≤ q ∧ q ≤ 1 := by
  simp only [overlaid]
  cases value : figure? payload name with
  | none => exact ⟨_, rfl, clamp_range _⟩
  | some v =>
      have other : v ≠ .null := fun null => given (null ▸ value)
      obtain ⟨q, number⟩ : ∃ q, number? v = some q := by
        simp only [figure?] at value
        cases own : payload.get? name with
        | none =>
            rw [own, Option.none_or] at value
            exact checkNumbers_ok checked legacy (field?_of_get? value other)
        | some w =>
            rw [own, Option.some_or] at value
            exact checkNumbers_ok checked listed
              (field?_of_get? (own.trans value) other)
      simp only [number]
      exact ⟨_, rfl, clamp_range q⟩

theorem live?_some_iff {snapshot : OrderSnapshot} {job : LiveJob} :
    live? snapshot = some job ↔
      snapshot.production = some job ∧ snapshot.status = .making ∧ job.status = .executing := by
  simp [live?]

theorem deviceRevision_live {snapshot : OrderSnapshot} {job : LiveJob}
    (live : live? snapshot = some job) : deviceRevision snapshot = job.deviceRevision := by
  simp only [deviceRevision, (live?_some_iff.mp live).1, Option.elim_some]

theorem revision?_some {snapshot : OrderSnapshot} {event : CachedEvent} {r : Int}
    (is : revision? snapshot (some event) = some r) :
    ∃ job, live? snapshot = some job ∧ validateProgress (.obj event) = .ok () ∧
      concerns snapshot job event = true ∧ taskRevision event = r := by
  simp only [revision?] at is
  cases live : live? snapshot with
  | none => simp [live] at is
  | some job =>
      cases valid : validateProgress (.obj event) with
      | error e => simp [live, valid] at is
      | ok _ => exact ⟨job, rfl, rfl, by simpa [live, valid] using is⟩

theorem filter_cons (m : String × Json) (event : CachedEvent) :
    (some (m :: event)).filter (· ≠ []) = some (m :: event) := rfl

/-- A valid event is not the empty object. -/
theorem filter_of_valid {event : CachedEvent} (valid : validateProgress (.obj event) = .ok ()) :
    (some event).filter (· ≠ []) = some event := by
  cases event with
  | nil => cases valid
  | cons m event => rfl

/-- A job with an overlay of the event's revision. -/
def Shows (snapshot : OrderSnapshot) (event : CachedEvent) (job : LiveJob)
    (result : OrderSnapshot) : Prop :=
  ∃ overall step, (0 ≤ overall ∧ overall ≤ 1) ∧ (0 ≤ step ∧ step ≤ 1) ∧
    result = { snapshot with production := some (LiveJob.overlay job event overall step) }

/-- An event is passed over, shown, or cannot be taken up. -/
theorem mergeProgress_cases (snapshot : OrderSnapshot) (event : Option CachedEvent) :
    (mergeProgress snapshot event = .ok snapshot ∧
      ∀ r, revision? snapshot event = some r → r ≤ deviceRevision snapshot) ∨
    (∃ members job result, event = some members ∧ live? snapshot = some job ∧
      revision? snapshot event = some (taskRevision members) ∧
      deviceRevision snapshot < taskRevision members ∧
      mergeProgress snapshot event = .ok result ∧ Shows snapshot members job result) ∨
    (Unfit snapshot (deviceRevision snapshot) event ∧
      ∃ e, mergeProgress snapshot event = .error e) := by
  cases event with
  | none => exact .inl ⟨rfl, fun r is => by cases is⟩
  | some event =>
  cases live : live? snapshot with
  | none =>
      refine .inl ⟨?_, fun r is => ?_⟩
      · simp only [mergeProgress, live]
        split
        · next found => cases found
        · rfl
      · simp [revision?, live] at is
  | some job =>
  cases valid : validateProgress (.obj event) with
  | error e =>
      have unmatched : revision? snapshot (some event) = none := by
        simp only [revision?, live, valid]
      cases event with
      | nil => exact .inl ⟨rfl, fun r is => by rw [unmatched] at is; cases is⟩
      | cons m event =>
          cases e with
          | exception name =>
              refine .inr (.inr ⟨.overflow live valid, .exception name, ?_⟩)
              simp only [mergeProgress, filter_cons, live, valid]
          | serviceError _ _ | httpException _ _ | uniqueViolation _ | checkViolation _ =>
              refine .inl ⟨?_, fun r is => by rw [unmatched] at is; cases is⟩
              simp only [mergeProgress, filter_cons, live, valid]
  | ok _ =>
  have merge : mergeProgress snapshot (some event) =
      if !concerns snapshot job event then .ok snapshot
      else if taskRevision event ≤ job.deviceRevision then .ok snapshot
      else takeUp snapshot job event := by
    simp only [mergeProgress, filter_of_valid valid, live, valid]
  have matching : revision? snapshot (some event) =
      if concerns snapshot job event then some (taskRevision event) else none := by
    simp only [revision?, live, valid]
  by_cases concerned : concerns snapshot job event = true
  · rw [concerned, if_pos rfl] at matching
    rw [concerned, Bool.not_true, if_neg Bool.false_ne_true] at merge
    by_cases newer : taskRevision event ≤ job.deviceRevision
    · rw [if_pos newer] at merge
      refine .inl ⟨merge, fun r is => ?_⟩
      rw [matching, Option.some.injEq] at is
      rw [← is, deviceRevision_live live]
      exact newer
    · rw [if_neg newer] at merge
      have ahead : deviceRevision snapshot < taskRevision event := by
        rw [deviceRevision_live live]
        exact lt_of_not_ge newer
      have numbers := validateProgress_numbers valid
      by_cases overallNull : figure? (payloadOf event) "overallProgress" = some .null
      · refine .inr (.inr ⟨.null matching ahead (.inl overallNull), .exception "TypeError", ?_⟩)
        rw [merge, takeUp, overlaid_null overallNull]
        rfl
      · obtain ⟨overall, overallOk, overallIn⟩ :=
          @overlaid_ok _ _ _ job.overallProgress numbers (by simp) (by simp) overallNull
        by_cases stepNull : figure? (payloadOf event) "stepProgress" = some .null
        · refine .inr (.inr ⟨.null matching ahead (.inr stepNull), .exception "TypeError", ?_⟩)
          rw [merge, takeUp, overallOk, overlaid_null stepNull]
          rfl
        · obtain ⟨step, stepOk, stepIn⟩ :=
            @overlaid_ok _ _ _ job.stepProgress numbers (by simp) (by simp) stepNull
          refine .inr (.inl ⟨event, job, _, rfl, rfl, matching, ahead, ?_,
            overall, step, overallIn, stepIn, rfl⟩)
          rw [merge, takeUp, overallOk, stepOk]
          rfl
  · rw [Bool.not_eq_true] at concerned
    rw [concerned, if_neg Bool.false_ne_true] at matching
    rw [concerned, Bool.not_false, if_pos rfl] at merge
    exact .inl ⟨merge, fun r is => by rw [matching] at is; cases is⟩

/-- Two snapshots that the same events match. -/
def Alike (s t : OrderSnapshot) : Prop :=
  t.deviceId = s.deviceId ∧ (live? t).map (·.taskId) = (live? s).map (·.taskId)

theorem Alike.refl (s : OrderSnapshot) : Alike s s := ⟨rfl, rfl⟩

theorem Alike.trans {s t u : OrderSnapshot} (first : Alike s t) (second : Alike t u) :
    Alike s u :=
  ⟨second.1.trans first.1, second.2.trans first.2⟩

theorem Alike.revision? {s t : OrderSnapshot} (alike : Alike s t) (event : Option CachedEvent) :
    revision? t event = revision? s event := by
  obtain ⟨device, task⟩ := alike
  cases event with
  | none => rfl
  | some event =>
      cases before : live? s with
      | none =>
          cases after : live? t with
          | none => simp only [LiveProgress.revision?, before, after]
          | some job => simp [before, after] at task
      | some job =>
          cases after : live? t with
          | none => simp [before, after] at task
          | some job' =>
              have task : job'.taskId = job.taskId := by simpa [before, after] using task
              have same : concerns t job' event = concerns s job event := by
                unfold concerns
                rw [device, task]
              simp only [LiveProgress.revision?, before, after, same]

theorem Alike.unfit {s t : OrderSnapshot} (alike : Alike s t) {shown : Int}
    {event : Option CachedEvent} : Unfit t shown event ↔ Unfit s shown event := by
  constructor
  · intro unfit
    cases unfit with
    | null is newer missing => exact .null (alike.revision? _ ▸ is) newer missing
    | overflow live raised =>
        have task := alike.2
        rw [live] at task
        obtain ⟨job, before, -⟩ := Option.map_eq_some_iff.mp task.symm
        exact .overflow before raised
  · intro unfit
    cases unfit with
    | null is newer missing => exact .null ((alike.revision? _).trans is) newer missing
    | overflow live raised =>
        have task := alike.2
        rw [live] at task
        obtain ⟨job, after, -⟩ := Option.map_eq_some_iff.mp task
        exact .overflow after raised

section shown
variable {snapshot result : OrderSnapshot} {event : CachedEvent} {job : LiveJob}

theorem Shows.alike (shows_ : Shows snapshot event job result) (live : live? snapshot = some job) :
    Alike snapshot result := by
  obtain ⟨overall, step, -, -, rfl⟩ := shows_
  obtain ⟨-, making, executing⟩ := live?_some_iff.mp live
  have after : live? { snapshot with
      production := some (LiveJob.overlay job event overall step) } =
      some (LiveJob.overlay job event overall step) :=
    live?_some_iff.mpr ⟨rfl, making, executing⟩
  refine ⟨rfl, ?_⟩
  rw [live, after]
  rfl

theorem Shows.revision (shows_ : Shows snapshot event job result) :
    deviceRevision result = taskRevision event := by
  obtain ⟨overall, step, -, -, rfl⟩ := shows_
  rfl

theorem Shows.inRange (shows_ : Shows snapshot event job result) : InRange result := by
  obtain ⟨overall, step, overallIn, stepIn, rfl⟩ := shows_
  intro job' there q listed
  cases there
  simp only [LiveJob.overlay, List.mem_cons, List.not_mem_nil, or_false] at listed
  obtain rfl | rfl | rfl := listed
  · exact overallIn
  · exact overallIn
  · exact stepIn

end shown

/-- The revision of the result of one overlay. -/
def raised (snapshot : OrderSnapshot) (event : Option CachedEvent) : Int :=
  (revision? snapshot event).elim (deviceRevision snapshot) (max (deviceRevision snapshot))

theorem mergeProgress_ok {snapshot result : OrderSnapshot} {event : Option CachedEvent}
    (merged : mergeProgress snapshot event = .ok result) :
    Alike snapshot result ∧ deviceRevision result = raised snapshot event ∧
      Overlaid snapshot event result := by
  rcases mergeProgress_cases snapshot event with
    ⟨same, old⟩ | ⟨members, job, t, rfl, live, is, newer, taken, shown⟩ | ⟨-, e, failed⟩
  · cases same.symm.trans merged
    refine ⟨.refl _, ?_, ⟨fun changed => absurd rfl changed, fun changed => absurd rfl changed, same⟩⟩
    simp only [raised]
    cases is : revision? snapshot event with
    | none => rfl
    | some r => exact (max_eq_left (old r is)).symm
  · cases taken.symm.trans merged
    have alike := shown.alike live
    refine ⟨alike, ?_, ⟨fun _ => ⟨_, is, newer⟩, fun _ => ⟨?_, shown.inRange⟩, ?_⟩⟩
    · rw [shown.revision, raised, is]
      exact (max_eq_right newer.le).symm
    · rw [shown.revision]
      exact newer
    · have again := (alike.revision? _).trans is
      rcases mergeProgress_cases result (some members) with
        ⟨same, -⟩ | ⟨m, _, _, there, -, -, ahead, -⟩ | ⟨unfit, -⟩
      · exact same
      · cases there
        exact absurd shown.revision ahead.ne
      · cases unfit with
        | overflow _ raised =>
            obtain ⟨_, -, valid, -⟩ := revision?_some again
            cases raised.symm.trans valid
        | null is' ahead _ =>
            cases again.symm.trans is'
            exact absurd shown.revision ahead.ne
  · cases failed.symm.trans merged

theorem mergeProgress_total (snapshot : OrderSnapshot) (event : Option CachedEvent) :
    (∃ result, mergeProgress snapshot event = .ok result) ↔
      ¬ Unfit snapshot (deviceRevision snapshot) event := by
  rcases mergeProgress_cases snapshot event with
    ⟨same, old⟩ | ⟨members, job, t, rfl, live, is, newer, taken, shown⟩ | ⟨unfit, e, failed⟩
  · refine iff_of_true ⟨_, same⟩ fun unfit => ?_
    cases unfit with
    | @overflow event job name live raised =>
        cases event with
        | nil => cases raised
        | cons m event =>
            simp only [mergeProgress, filter_cons, live, raised] at same
            cases same
    | null is newer _ => exact absurd (old _ is) (not_le.mpr newer)
  · refine iff_of_true ⟨_, taken⟩ fun unfit => ?_
    obtain ⟨job', live', valid, -⟩ := revision?_some is
    cases unfit with
    | overflow _ raised => cases raised.symm.trans valid
    | null is' ahead missing =>
        simp only [mergeProgress, filter_of_valid valid, live, valid] at taken
        split at taken
        · cases taken
          exact absurd shown.revision newer.ne
        · split at taken
          · cases taken
            exact absurd shown.revision newer.ne
          · rcases missing with missing | missing
            · rw [takeUp, overlaid_null missing] at taken
              cases taken
            · rw [takeUp, overlaid_null missing] at taken
              cases first : overlaid (payloadOf members) "overallProgress" job.overallProgress with
              | error e => simp only [first] at taken; cases taken
              | ok q => simp only [first] at taken; cases taken
  · refine iff_of_false ?_ (not_not_intro unfit)
    rintro ⟨result, merged⟩
    cases failed.symm.trans merged

theorem newest_concat (snapshot : OrderSnapshot) (events : List (Option CachedEvent))
    (event : Option CachedEvent) :
    newest snapshot (events ++ [event]) =
      (revision? snapshot event).elim (newest snapshot events) (max (newest snapshot events)) := by
  simp only [newest, List.filterMap_append, List.foldl_append]
  cases is : revision? snapshot event with
  | none => simp only [List.filterMap_cons, is, List.filterMap_nil, List.foldl_nil, Option.elim_none]
  | some r =>
      simp only [List.filterMap_cons, is, List.filterMap_nil, List.foldl_cons, List.foldl_nil,
        Option.elim_some]

/-- Overlays that completed show the newest revision, on a snapshot the same events match. -/
theorem foldlM_ok {snapshot result : OrderSnapshot} {events : List (Option CachedEvent)}
    (merged : events.foldlM mergeProgress snapshot = .ok result) :
    Alike snapshot result ∧ deviceRevision result = newest snapshot events := by
  induction events using List.reverseRecOn generalizing result with
  | nil =>
      cases merged
      exact ⟨.refl _, rfl⟩
  | append_singleton events event ih =>
      rw [List.foldlM_append] at merged
      cases before : events.foldlM mergeProgress snapshot with
      | error e => rw [before] at merged; cases merged
      | ok current =>
          have last : mergeProgress current event = .ok result := by
            simp only [before, List.foldlM_cons, List.foldlM_nil, bind_pure] at merged
            exact merged
          obtain ⟨alike, revision⟩ := ih before
          obtain ⟨alike', revision', -⟩ := mergeProgress_ok last
          refine ⟨alike.trans alike', ?_⟩
          rw [revision', newest_concat, raised, alike.revision?, revision]

/-- The overlays of a list of events complete as promised, exactly when no event of the list is
unfit for what is shown when its turn comes. -/
theorem overlays_iff (snapshot : OrderSnapshot) (events : List (Option CachedEvent)) :
    Overlays snapshot events ↔ ∀ before event after, events = before ++ event :: after →
      ¬ Unfit snapshot (newest snapshot before) event := by
  constructor
  · intro ⟨each, _⟩ before event after split
    obtain ⟨current, result, reached, merged, -⟩ := each before event after split
    obtain ⟨alike, revision⟩ := foldlM_ok reached
    rw [← alike.unfit, ← revision]
    exact (mergeProgress_total current event).mp ⟨result, merged⟩
  · intro fit
    have complete : ∀ before after, events = before ++ after →
        ∃ current, before.foldlM mergeProgress snapshot = .ok current := by
      intro before
      induction before using List.reverseRecOn with
      | nil => exact fun _ _ => ⟨snapshot, rfl⟩
      | append_singleton before event ih =>
          intro after split
          rw [List.append_assoc] at split
          obtain ⟨current, reached⟩ := ih _ split
          obtain ⟨alike, revision⟩ := foldlM_ok reached
          have fit := fit before event after split
          rw [← alike.unfit, ← revision] at fit
          obtain ⟨result, merged⟩ := (mergeProgress_total current event).mpr fit
          refine ⟨result, ?_⟩
          simp only [List.foldlM_append, reached, List.foldlM_cons, List.foldlM_nil, bind_pure]
          exact merged
    constructor
    · intro before event after split
      obtain ⟨current, reached⟩ := complete before _ split
      obtain ⟨alike, revision⟩ := foldlM_ok reached
      have fit := fit before event after split
      rw [← alike.unfit, ← revision] at fit
      obtain ⟨result, merged⟩ := (mergeProgress_total current event).mpr fit
      exact ⟨current, result, reached, merged, (mergeProgress_ok merged).2.2⟩
    · obtain ⟨result, reached⟩ := complete events [] (List.append_nil _).symm
      exact ⟨result, reached, (foldlM_ok reached).2⟩

def makingSnapshot : OrderSnapshot :=
  { deviceId := "device", status := .making
    production := some { taskId := "task", status := .executing } }

/-- A valid event whose overall progress is an explicit null. -/
def nullProgress : CachedEvent :=
  [("deviceId", .str "device"), ("payload", .obj [("taskId", .str "task"), ("taskRevision", .int 1),
    ("overallProgress", .null)])]

theorem nullProgress_raises : ¬ Overlays makingSnapshot [some nullProgress] := by
  rw [Overlays]
  rintro ⟨-, result, merged, -⟩
  cases merged

end LiveProgress
end CoffeeCloud
