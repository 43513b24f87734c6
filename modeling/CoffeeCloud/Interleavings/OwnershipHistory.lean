import CoffeeCloud.Interleavings.OwnershipRuns

/-!
What holds of the rows after every run of requests about ownership, however they
overlap: the history of each device, and what an accepted unbinding leaves behind.
-/
namespace CoffeeCloud
open Library AssetRequests

namespace AssetDb

/-- The intervals of a device that have no end. -/
def openIntervals (db : AssetDb) (i : Id) : List (Id × Nat) :=
  db.intervals.keysWhere fun o => o.terminalId = i ∧ o.validUntil = none

def activeTransfers (db : AssetDb) (i : Id) : List Id :=
  db.transfers.keysWhere fun x => x.terminalId = i ∧ x.status.active

section Rows
variable {db : AssetDb} {i : Id}

theorem mem_openIntervals {key : Id × Nat} : key ∈ db.openIntervals i ↔
    ∃ o, db.intervals.find? key = some o ∧ o.terminalId = i ∧ o.validUntil = none := by
  simp only [openIntervals, Table.mem_keysWhere, decide_eq_true_eq]

theorem mem_activeTransfers {k : Id} : k ∈ db.activeTransfers i ↔ db.holdings.Pending i k := by
  simp only [activeTransfers, Table.mem_keysWhere, decide_eq_true_eq, Holdings.Pending]
  constructor
  · rintro ⟨x, found, here, active⟩
    exact ⟨x.ticket, Table.view_of_find? _ found, active, here⟩
  · rintro ⟨r, there, active, here⟩
    obtain ⟨x, found, rfl⟩ := (Table.view_eq_some _).mp there
    exact ⟨x, found, here, active⟩

/-- An interval without an end is of the version its device is held under. -/
theorem open_current (inv : db.holdings.Consistent) {key : Id × Nat}
    (mem : key ∈ db.openIntervals i) :
    ∃ t, db.terminals.find? i = some t ∧ key = (i, t.ownershipVersion) := by
  obtain ⟨o, found, here, current⟩ := mem_openIntervals.mp mem
  have named : (o.terminalId, o.version) = key := Table.key_of_find? found
  obtain ⟨s, mine, -, now⟩ := inv.tenures key.1 key.2 o.tenure (Table.view_of_find? _ found)
  subst named
  subst here
  obtain ⟨t, there, -, rfl⟩ := find?_of_stake mine
  refine ⟨t, there, Prod.ext rfl ?_⟩
  exact (now (decide_eq_true current)).1

theorem length_openIntervals (inv : db.holdings.Consistent) : (db.openIntervals i).length ≤ 1 := by
  have distinct : (db.openIntervals i).Nodup := Table.nodup_keysWhere _ _
  cases found : db.terminals.find? i with
  | none =>
      refine (List.length_eq_zero_iff.mpr (List.eq_nil_iff_forall_not_mem.mpr ?_)).le.trans
        (Nat.zero_le 1)
      intro key mem
      obtain ⟨t, there, -⟩ := open_current inv mem
      cases found.symm.trans there
  | some t =>
      have only : db.openIntervals i ⊆ [(i, t.ownershipVersion)] := by
        intro key mem
        obtain ⟨t', there, rfl⟩ := open_current inv mem
        cases found.symm.trans there
        exact List.mem_singleton_self _
      exact (List.subperm_of_subset distinct only).length_le

/-- A device that was claimed has an interval without an end, of its version and its tenant. -/
theorem openIntervals_claimed (inv : db.holdings.Consistent) {t : OwnedTerminal}
    (found : db.terminals.find? i = some t) (many : 1 < t.ownershipVersion) :
    ∃ o, db.intervals.find? (i, t.ownershipVersion) = some o ∧ o.tenantId = t.tenantId ∧
      db.openIntervals i = [(i, t.ownershipVersion)] := by
  obtain ⟨r, there, current⟩ := inv.claimed i t.stake (stake_of_find? found) many
  obtain ⟨s, mine, -, now⟩ := inv.tenures _ _ _ there
  cases (stake_of_find? found).symm.trans mine
  obtain ⟨o, row, rfl⟩ := (Table.view_eq_some OwnershipInterval.tenure).mp there
  have distinct : (db.openIntervals i).Nodup := Table.nodup_keysWhere _ _
  refine ⟨o, row, (now current).2, List.perm_singleton.mp ?_⟩
  refine (List.perm_ext_iff_of_nodup distinct (List.nodup_singleton _)).mpr ?_
  intro key
  rw [List.mem_singleton]
  constructor
  · intro mem
    obtain ⟨t', again, rfl⟩ := open_current inv mem
    cases found.symm.trans again
    rfl
  · rintro rfl
    have named : (o.terminalId, o.version) = (i, t.ownershipVersion) := Table.key_of_find? row
    exact mem_openIntervals.mpr ⟨o, row, congrArg Prod.fst named, of_decide_eq_true current⟩

/-- A device is frozen as long as one transfer of it is active, and no two are. -/
theorem length_activeTransfers (inv : db.holdings.Consistent) {t : OwnedTerminal}
    (found : db.terminals.find? i = some t) :
    (db.activeTransfers i).length = if t.ownershipFrozen then 1 else 0 := by
  cases frozen : t.ownershipFrozen with
  | true =>
      obtain ⟨k, pending⟩ := inv.frozen i t.stake (stake_of_find? found) frozen
      have distinct : (db.activeTransfers i).Nodup := Table.nodup_keysWhere _ _
      refine List.length_eq_one_iff.mpr ⟨k, List.perm_singleton.mp ?_⟩
      refine (List.perm_ext_iff_of_nodup distinct (List.nodup_singleton _)).mpr ?_
      intro j
      rw [List.mem_singleton, mem_activeTransfers]
      constructor
      · exact fun other => inv.once i j k other pending
      · rintro rfl
        exact pending
  | false =>
      refine List.length_eq_zero_iff.mpr (List.eq_nil_iff_forall_not_mem.mpr fun k mem => ?_)
      obtain ⟨r, there, active, rfl⟩ := mem_activeTransfers.mp mem
      obtain ⟨s, mine, on, -⟩ := inv.tickets k r there active
      cases (stake_of_find? found).symm.trans mine
      cases on.symm.trans frozen

theorem version_of_find? {t : OwnedTerminal} (found : db.terminals.find? i = some t) :
    db.holdings.version i = t.ownershipVersion := version_of_stake (stake_of_find? found)

end Rows
end AssetDb

namespace AssetRequests
open AssetDb Holdings

/-- The code that a commit has used up, and the device it was for. -/
def redeemed (c : Commit AssetDb OwnershipAnswer) : Option ((Bool × String) × Id) :=
  match c.answer with
  | .claimed key code (.device i) =>
      if (c.before.operations.find? key).isNone then some (code, i) else none
  | _ => none

/-- The commit claims the device, and does not only answer again. -/
def claims (i : Id) (c : Commit AssetDb OwnershipAnswer) : Bool :=
  (redeemed c).any fun x => x.2 = i

section Commits
variable {settings : AssetSettings} {c c' : Commit AssetDb OwnershipAnswer} {i : Id}

theorem redeemed_some {code : Bool × String} (h : redeemed c = some (code, i)) :
    ∃ key, c.answer = .claimed key code (.device i) ∧ c.before.holdings.answered key = none := by
  unfold redeemed at h
  split at h
  · split at h
    · next answer vacant =>
        injection h with h
        injection h with same same'
        subst same
        subst same'
        exact ⟨_, answer, (Table.view_eq_none _).mpr (Option.isNone_iff_eq_none.mp vacant)⟩
    · cases h
  · cases h

theorem taken_of_redeemed {code : Bool × String} (good : Good settings c.answer c.before c.after)
    (h : redeemed c = some (code, i)) :
    ∃ tenantId, Taken code tenantId i c.before.holdings c.after.holdings := by
  obtain ⟨key, answer, vacant⟩ := redeemed_some h
  have answers := good.answers
  rw [answer] at answers
  obtain ⟨j, same, taken⟩ := answers.1 vacant
  injection same with same
  subst same
  exact ⟨key.1, taken⟩

/-- Only a claim that is new counts a version up. -/
theorem version_of_good (good : Good settings c.answer c.before c.after) (i : Id) :
    c.after.holdings.version i = c.before.holdings.version i + if claims i c then 1 else 0 := by
  cases used : redeemed c with
  | some x =>
      obtain ⟨code, j⟩ := x
      obtain ⟨tenantId, taken⟩ := taken_of_redeemed good used
      rw [taken.version i, claims, used]
      simp [eq_comm]
  | none =>
      have off : claims i c = false := by
        rw [claims, used]
        rfl
      rw [off, if_neg Bool.false_ne_true, Nat.add_zero]
      have answers := good.answers
      unfold redeemed at used
      cases answer : c.answer with
      | served =>
          rw [answer] at answers
          exact answers i
      | unbound tenantId text data header response =>
          rw [answer] at answers
          exact answers.1 i
      | claimed key code response =>
          rw [answer] at answers used
          cases stored : c.before.holdings.answered key with
          | some a =>
              refine answers.2 ?_ i
              rw [stored]
              exact Option.some_ne_none a
          | none =>
              obtain ⟨j, rfl, -⟩ := answers.1 stored
              have vacant := (Table.view_eq_none _).mp stored
              simp [vacant] at used

/-- No code is used up twice. -/
theorem redeemed_once (good : Good settings c.answer c.before c.after)
    (good' : Good settings c'.answer c'.before c'.after)
    (between : Follows c.after.holdings c'.before.holdings) :
    ∀ x ∈ redeemed c, ∀ x' ∈ redeemed c', x.1 ≠ x'.1 := by
  rintro ⟨code, i⟩ mem ⟨code', i'⟩ mem' same
  cases same
  obtain ⟨_, taken⟩ := taken_of_redeemed good mem
  obtain ⟨_, taken'⟩ := taken_of_redeemed good' mem'
  obtain ⟨k, -, used⟩ := taken.used
  obtain ⟨k', free, -⟩ := taken'.used
  obtain ⟨x, still, hash, on⟩ := between.code _ _ used
  have there := good'.before.codes _ _ _ _ _ still free hash
  subst there
  cases still.symm.trans free
  cases on rfl

end Commits

/-- The pool after a run that began with nothing. -/
def history (settings : AssetSettings) (as : List (PoolAction OwnershipRequest)) :
    Pool AssetDb AssetResource Failure OwnershipAnswer :=
  (Pool.machine (perform settings)).run { store := {} } as

theorem consistent_empty : ({} : AssetDb).holdings.Consistent := by
  constructor
  · intro i v r found
    cases found
  · intro i s found
    cases found
  · intro k r found
    cases found
  · intro i s found
    cases found
  · rintro i k k' ⟨r, found, -⟩
    cases found
  · intro p k k' c c' found
    cases p <;> cases found
  · intro tenantId text key a found
    cases found

theorem history_sound (settings : AssetSettings) (as : List (PoolAction OwnershipRequest)) :
    Pool.Sound ownership (Good settings) (history settings as) :=
  Pool.Sound.run (D := ownership) (fun r _ _ => perform_safe r) (Pool.sound_init consistent_empty) as

/-- What the rows say of one device. -/
structure DeviceHistory (db : AssetDb) (claimed : Nat) (i : Id) (t : OwnedTerminal) : Prop where
  version : t.ownershipVersion = 1 + claimed
  current : 0 < claimed → ∃ o, db.intervals.find? (i, t.ownershipVersion) = some o ∧
    o.tenantId = t.tenantId ∧ db.openIntervals i = [(i, t.ownershipVersion)]
  frozen : (db.activeTransfers i).length = if t.ownershipFrozen then 1 else 0

/-- However requests overlap, no device has two open intervals, and one that was claimed has the
one of its tenant and version; its version counts its claims; it is frozen as long as one transfer
of it is active; and no code is used up twice. -/
theorem history_consistent (settings : AssetSettings) (as : List (PoolAction OwnershipRequest)) :
    (∀ i, ((history settings as).store.openIntervals i).length ≤ 1) ∧
      (∀ i t, (history settings as).store.terminals.find? i = some t →
        DeviceHistory (history settings as).store
          ((history settings as).commits.countP (claims i)) i t) ∧
      (∀ c ∈ (history settings as).commits, ∀ i t, c.before.terminals.find? i = some t →
        ∃ t', c.after.terminals.find? i = some t' ∧
          t'.ownershipVersion = t.ownershipVersion + if claims i c then 1 else 0) ∧
      (∀ c ∈ (history settings as).commits, ∀ key code response,
        c.answer = .claimed key code response → c.before.operations.find? key = none →
          ∃ i t, redeemed c = some (code, i) ∧ c.after.terminals.find? i = some t ∧
            t.tenantId = key.1) ∧
      (history settings as).commits.Pairwise fun c c' =>
        ∀ x ∈ redeemed c, ∀ x' ∈ redeemed c', x.1 ≠ x'.1 := by
  have sound := history_sound settings as
  have chained : Pool.Chained ({} : AssetDb) (history settings as).commits
    (history settings as).store := Pool.chained_run (perform settings) as
  refine ⟨fun i => length_openIntervals sound.inv, fun i t found => ?_, fun c mem i t found => ?_,
    fun c mem key code response answer fresh => ?_, ?_⟩
  · have counted := chained.count (f := fun db => db.holdings.version i) (w := claims i)
      fun c mem => version_of_good (sound.good c mem) i
    have version : t.ownershipVersion = 1 + (history settings as).commits.countP (claims i) :=
      (version_of_find? found).symm.trans counted
    refine ⟨version, fun many => ?_, length_activeTransfers sound.inv found⟩
    exact openIntervals_claimed sound.inv found (by omega)
  · have good := sound.good c mem
    obtain ⟨s, mine, -⟩ := good.follows.stake i t.stake (stake_of_find? found)
    obtain ⟨t', found', -⟩ := find?_of_stake mine
    refine ⟨t', found', ?_⟩
    rw [← version_of_find? found, ← version_of_find? found']
    exact version_of_good good i
  · have answers := (sound.good c mem).answers
    rw [answer] at answers
    obtain ⟨i, rfl, taken⟩ := answers.1 ((Table.view_eq_none _).mpr fresh)
    obtain ⟨s, mine, owner⟩ := taken.after
    obtain ⟨t, found, -, rfl⟩ := find?_of_stake mine
    refine ⟨i, t, ?_, found, owner⟩
    rw [redeemed, answer]
    simp [fresh]
  · refine sound.ordered.imp_of_mem fun {c c'} mem mem' between => ?_
    exact redeemed_once (sound.good c mem) (sound.good c' mem') between

/-- The transfer that a response names. -/
def named (db : AssetDb) : AssetResponse → Option DeviceTransfer
  | .transfer k _ _ => db.transfers.find? k
  | .device _ => none

/-- The device of the text is frozen, and the response names an active transfer of it. -/
def inEffect (db : AssetDb) (text : String) (response : AssetResponse) : Bool :=
  (named db response).any fun x => x.status.active ∧ deviceIdOf text = some x.terminalId ∧
    (db.terminals.find? x.terminalId).any fun t => t.ownershipFrozen

/-- What is stored under the key, if anything is, names a transfer that is active. -/
def standing (db : AssetDb) (key : OperationKey) : Bool :=
  (db.operations.find? key).all fun o => (named db o.response).any fun x => x.status.active

section Unbinding
variable {db : AssetDb}

theorem named_some {response : AssetResponse} {x : DeviceTransfer} :
    named db response = some x ↔
      ∃ k status version, response = .transfer k status version ∧ db.transfers.find? k = some x := by
  cases response with
  | transfer k status version =>
      constructor
      · exact fun found => ⟨k, status, version, rfl, found⟩
      · rintro ⟨_, _, _, same, found⟩
        cases same
        exact found
  | device i =>
      constructor
      · intro found
        cases found
      · rintro ⟨_, _, _, same, -⟩
        cases same

theorem inEffect_iff {text : String} {response : AssetResponse} :
    inEffect db text response = true ↔ TakesEffect text response db.holdings := by
  simp only [inEffect, Option.any_eq_true, decide_eq_true_eq, named_some]
  constructor
  · rintro ⟨x, ⟨k, status, version, answer, found⟩, active, device, t, there, frozen⟩
    exact ⟨x.terminalId, k, status, version, t.stake, device, answer, stake_of_find? there, frozen,
      x.ticket, Table.view_of_find? _ found, active, rfl⟩
  · rintro ⟨i, k, status, version, s, device, answer, mine, frozen, r, there, active, rfl⟩
    obtain ⟨t, found, -, rfl⟩ := find?_of_stake mine
    obtain ⟨x, row, rfl⟩ := (Table.view_eq_some DeviceTransfer.ticket).mp there
    exact ⟨x, ⟨k, status, version, answer, row⟩, active, device, t, found, frozen⟩

theorem standing_eq_true {key : OperationKey} :
    standing db key = true ↔ Standing key db.holdings := by
  simp only [standing, Option.all_eq_true, Option.any_eq_true, named_some, Standing]
  constructor
  · rintro each response stored
    obtain ⟨o, row, rfl⟩ := (Table.view_eq_some _).mp stored
    obtain ⟨x, ⟨k, status, version, answer, found⟩, active⟩ := each o row
    exact ⟨k, status, version, x.ticket, answer, Table.view_of_find? _ found, active⟩
  · intro each o row
    obtain ⟨k, status, version, r, answer, there, active⟩ := each o.response (Table.view_of_find? _ row)
    obtain ⟨x, found, rfl⟩ := (Table.view_eq_some DeviceTransfer.ticket).mp there
    exact ⟨x, ⟨k, status, version, answer, found⟩, active⟩

end Unbinding

/-- In every run, an unbinding without a key of its own that is answered with success has taken
effect at its commit exactly if nothing was stored under the key of its version, or the transfer
that was stored there is still active. -/
theorem unbind_effective_iff (settings : AssetSettings) (as : List (PoolAction OwnershipRequest))
    (c : Commit AssetDb OwnershipAnswer) (mem : c ∈ (history settings as).commits)
    (tenantId : Id) (text : String) (data : TransferData) (response : AssetResponse)
    (answer : c.answer = .unbound tenantId text data none response) :
    inEffect c.after text response = true ↔
      standing c.before (unbindOperation settings tenantId text data none) = true := by
  have answers := ((history_sound settings as).good c mem).answers
  rw [answer] at answers
  rw [inEffect_iff, standing_eq_true]
  exact answers.2

/-- An unbinding without a key of its own that was answered, and without effect. -/
def ineffective (c : Commit AssetDb OwnershipAnswer) : Bool :=
  match c.answer with
  | .unbound _ text _ none response => !inEffect c.after text response
  | _ => false

theorem ineffective_eq_true {c : Commit AssetDb OwnershipAnswer} (h : ineffective c = true) :
    ∃ tenantId text data response, c.answer = .unbound tenantId text data none response ∧
      inEffect c.after text response = false := by
  unfold ineffective at h
  split at h
  · next tenantId text data response answer =>
      exact ⟨tenantId, text, data, response, answer, Bool.not_eq_true' _ ▸ h⟩
  · cases h

section Withdrawn

def plainSettings : AssetSettings :=
  { tokenHash := id, canonicalDigest := fun _ => "digest", textOf := fun _ => "2" }

def merchant : MerchantPrincipal where
  sessionId := 1
  csrfToken := ""
  reauthenticatedAt := 0
  userId := 1
  displayName := ""
  memberId := 1
  tenantId := 7
  role := .owner
  storeScope := {}
  memberVersion := 1

def unbindData : TransferData :=
  { body := .obj [("ownershipVersion", .int 2), ("reason", .str "sold")], reason := some "sold" }

/-- Requests one after the other, each with time to end. -/
def inTurn (operations : List OwnershipOperation) : List (PoolAction OwnershipRequest) :=
  (operations.mapIdx fun i operation =>
    .start ⟨merchant, { now := 0, id := i, code := "code" }, operation⟩ ::
      List.replicate 20 (.proceed i)).flatten

/-- A device is claimed; its unbinding is asked for, cancelled, and asked for again. -/
def withdrawn : List (PoolAction OwnershipRequest) :=
  inTurn [
    .register ⟨12, "D12", "S12", none, "ACTIVE", "LEGACY"⟩ true,
    .office (Table.empty.insert ⟨3, 7⟩) .empty fun _ => {},
    .issueClaim 12,
    .claim
      { body := .null, pairing := false, code := some "code", storeId := some 3, name := some "N" }
      (some "key"),
    .unbind "12" unbindData none,
    .transferAction (some 4) (some 1) .cancel,
    .unbind "12" unbindData none]

theorem withdrawn_ineffective :
    (history plainSettings withdrawn).commits.any ineffective = true := by
  decide +kernel

/-- The second request is answered with the first one, which was cancelled. -/
theorem unbind_again_refuted :
    ¬ ∀ (settings : AssetSettings) (as : List (PoolAction OwnershipRequest)),
      ∀ c ∈ (history settings as).commits, ∀ tenantId text data response,
        c.answer = .unbound tenantId text data none response →
          inEffect c.after text response = true := by
  intro effective
  obtain ⟨c, mem, bad⟩ := List.any_eq_true.mp withdrawn_ineffective
  obtain ⟨tenantId, text, data, response, answer, off⟩ := ineffective_eq_true bad
  have on := effective plainSettings withdrawn c mem tenantId text data response answer
  cases off.symm.trans on

theorem unbind_effective_iff_withdrawn :
    ∃ c ∈ (history plainSettings withdrawn).commits, ∃ tenantId text data response,
      c.answer = .unbound tenantId text data none response ∧
        (inEffect c.after text response = true ↔
          standing c.before (unbindOperation plainSettings tenantId text data none) = true) := by
  obtain ⟨c, mem, bad⟩ := List.any_eq_true.mp withdrawn_ineffective
  obtain ⟨tenantId, text, data, response, answer, -⟩ := ineffective_eq_true bad
  exact ⟨c, mem, tenantId, text, data, response, answer,
    unbind_effective_iff plainSettings withdrawn c mem tenantId text data response answer⟩

end Withdrawn

end AssetRequests
end CoffeeCloud
