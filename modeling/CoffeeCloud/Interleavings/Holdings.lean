import CoffeeCloud.Services.Ownership

/-!
What the requests about ownership do, without their rows: who holds a device under
which version, the intervals it was held in, the transfers asked for, the codes and
the stored answers. Each change keeps the three accounts of ownership in step, moves
nothing back, and touches only what the locks it is made under protect.
-/
namespace CoffeeCloud
open Library AssetRequests

structure Stake where
  tenantId : Id
  version : Nat
  frozen : Bool

/-- An interval of ownership; the current one has no end. -/
structure Tenure where
  tenantId : Id
  current : Bool

structure TransferTicket where
  terminalId : Id
  version : Nat
  active : Bool

structure OwnershipCode where
  hash : String
  used : Bool

abbrev OperationKey := Id × AssetOperation × String

/-- Pairing codes are kept under `true`. -/
structure Holdings where
  stake : Id → Option Stake
  tenure : Id × Nat → Option Tenure
  ticket : Id → Option TransferTicket
  code : Bool × Id → Option OwnershipCode
  answered : OperationKey → Option AssetResponse

namespace Holdings

/-- The version a device is held under. A device that is not there yet will begin with the first. -/
def version (h : Holdings) (i : Id) : Nat := (h.stake i).elim 1 Stake.version

/-- There is an active transfer `k` of the device. -/
def Pending (h : Holdings) (i k : Id) : Prop :=
  ∃ r, h.ticket k = some r ∧ r.active = true ∧ r.terminalId = i

/-- The accounts of ownership agree. -/
structure Consistent (h : Holdings) : Prop where
  tenures : ∀ i v r, h.tenure (i, v) = some r → ∃ s, h.stake i = some s ∧ v ≤ s.version ∧
    (r.current = true → v = s.version ∧ r.tenantId = s.tenantId)
  claimed : ∀ i s, h.stake i = some s → 1 < s.version →
    ∃ r, h.tenure (i, s.version) = some r ∧ r.current = true
  tickets : ∀ k r, h.ticket k = some r → r.active = true →
    ∃ s, h.stake r.terminalId = some s ∧ s.frozen = true ∧ s.version = r.version
  frozen : ∀ i s, h.stake i = some s → s.frozen = true → ∃ k, h.Pending i k
  once : ∀ i k k', h.Pending i k → h.Pending i k' → k = k'
  codes : ∀ p k k' c c', h.code (p, k) = some c → h.code (p, k') = some c' →
    c.hash = c'.hash → k = k'
  responses : ∀ tenantId text key a, h.answered (tenantId, .unbind text, key) = some a →
    ∃ k status version r, a = .transfer k status version ∧ h.ticket k = some r ∧
      deviceIdOf text = some r.terminalId

/-- Nothing goes back. -/
structure Follows (h h' : Holdings) : Prop where
  stake : ∀ i s, h.stake i = some s → ∃ s', h'.stake i = some s' ∧ s.version ≤ s'.version
  ticket : ∀ k r, h.ticket k = some r → ∃ r', h'.ticket k = some r' ∧
    r'.terminalId = r.terminalId ∧ (r'.active = true → r.active = true)
  code : ∀ k c, h.code k = some c → ∃ c', h'.code k = some c' ∧ c'.hash = c.hash ∧
    (c.used = true → c'.used = true)
  answered : ∀ k a, h.answered k = some a → h'.answered k = some a

/-- What a lock protects. -/
def Keeps : AssetResource → Holdings → Holdings → Prop
  | .terminal i, h, h' => h'.stake i = h.stake i ∧ (∀ v, h'.tenure (i, v) = h.tenure (i, v)) ∧
      ∀ k, h'.Pending i k ↔ h.Pending i k
  | .transfer k, h, h' => h'.ticket k = h.ticket k
  | .claim k, h, h' => h'.code (false, k) = h.code (false, k)
  | .pairing k, h, h' => h'.code (true, k) = h.code (true, k)
  | .claimCode hash, h, h' => ∀ k, (∃ c, h'.code (false, k) = some c ∧ c.hash = hash) ↔
      ∃ c, h.code (false, k) = some c ∧ c.hash = hash
  | .pairingCode hash, h, h' => ∀ k, (∃ c, h'.code (true, k) = some c ∧ c.hash = hash) ↔
      ∃ c, h.code (true, k) = some c ∧ c.hash = hash
  | .operation k, h, h' => h'.answered k = h.answered k
  | .interval _, _, _ => True

theorem follows_refl (h : Holdings) : Follows h h :=
  ⟨fun _ s found => ⟨s, found, le_rfl⟩, fun _ r found => ⟨r, found, rfl, id⟩,
    fun _ c found => ⟨c, found, rfl, id⟩, fun _ _ found => found⟩

theorem Follows.trans {a b c : Holdings} (h : Follows a b) (k : Follows b c) : Follows a c := by
  refine ⟨fun i s found => ?_, fun i r found => ?_, fun i x found => ?_, fun i x found => ?_⟩
  · obtain ⟨s', found', le⟩ := h.stake i s found
    obtain ⟨s'', found'', le'⟩ := k.stake i s' found'
    exact ⟨s'', found'', le.trans le'⟩
  · obtain ⟨r', found', same, back⟩ := h.ticket i r found
    obtain ⟨r'', found'', same', back'⟩ := k.ticket i r' found'
    exact ⟨r'', found'', same'.trans same, fun on => back (back' on)⟩
  · obtain ⟨x', found', same, on⟩ := h.code i x found
    obtain ⟨x'', found'', same', on'⟩ := k.code i x' found'
    exact ⟨x'', found'', same'.trans same, fun used => on' (on used)⟩
  · exact k.answered i x (h.answered i x found)

theorem keeps_refl (r : AssetResource) (h : Holdings) : Keeps r h h := by
  cases r with
  | terminal i => exact ⟨rfl, fun _ => rfl, fun _ => Iff.rfl⟩
  | claimCode hash => exact fun _ => Iff.rfl
  | pairingCode hash => exact fun _ => Iff.rfl
  | interval key => trivial
  | transfer k => exact rfl
  | claim k => exact rfl
  | pairing k => exact rfl
  | operation k => exact rfl

theorem Keeps.trans {r : AssetResource} {a b c : Holdings} (h : Keeps r a b) (k : Keeps r b c) :
    Keeps r a c := by
  cases r with
  | terminal i =>
      exact ⟨k.1.trans h.1, fun v => (k.2.1 v).trans (h.2.1 v), fun j => (k.2.2 j).trans (h.2.2 j)⟩
  | claimCode hash => exact fun j => (k j).trans (h j)
  | pairingCode hash => exact fun j => (k j).trans (h j)
  | interval key => trivial
  | transfer j => exact Eq.trans k h
  | claim j => exact Eq.trans k h
  | pairing j => exact Eq.trans k h
  | operation j => exact Eq.trans k h

/-- A change under these locks. -/
structure Moves (held : List AssetLock) (h h' : Holdings) : Prop where
  consistent : h'.Consistent
  follows : Follows h h'
  kept : ∀ r, ⟨r, .exclusive⟩ ∉ held → Keeps r h h'

variable {h h' h'' : Holdings} {held : List AssetLock} {i k : Id}

theorem Moves.mono {more : List AssetLock} (m : Moves held h h') (sub : held ⊆ more) :
    Moves more h h' :=
  ⟨m.consistent, m.follows, fun r free => m.kept r fun mem => free (sub mem)⟩

theorem version_put {s : Stake} (same : h'.stake = put h.stake i s) (j : Id) :
    h'.version j = if j = i then s.version else h.version j := by
  rw [version, version, same, put_apply]
  split
  · rfl
  · rfl

/-- A change below the codes. -/
theorem keeps_beside {r : AssetResource} (code : h'.code = h.code)
    (terminal : ∀ j, r = .terminal j → Keeps (.terminal j) h h')
    (ticket : ∀ j, r = .transfer j → h'.ticket j = h.ticket j)
    (answered : ∀ j, r = .operation j → h'.answered j = h.answered j) : Keeps r h h' := by
  cases r with
  | terminal j => exact terminal j rfl
  | transfer j => exact ticket j rfl
  | operation j => exact answered j rfl
  | interval key => trivial
  | claim j => exact congrFun code (false, j)
  | pairing j => exact congrFun code (true, j)
  | claimCode hash =>
      intro j
      rw [code]
  | pairingCode hash =>
      intro j
      rw [code]

theorem Moves.refl (c : h.Consistent) : Moves held h h :=
  ⟨c, follows_refl h, fun r _ => keeps_refl r h⟩

theorem Moves.trans (m : Moves held h h') (n : Moves held h' h'') : Moves held h h'' :=
  ⟨n.consistent, m.follows.trans n.follows, fun r free => (m.kept r free).trans (n.kept r free)⟩

/-- A device that is new is the platform's. -/
theorem moves_take (c : h.Consistent) (locked : ⟨.terminal i, .exclusive⟩ ∈ held)
    (new : h.stake i = none) :
    Moves held h { h with stake := put h.stake i ⟨legacyTenant, 1, false⟩ } := by
  have old : ∀ j s, h.stake j = some s → j ≠ i := by
    rintro j s found rfl
    rw [new] at found
    cases found
  refine ⟨⟨fun j v r found => ?_, fun j s found many => ?_, fun k r found active => ?_,
    fun j s found frozen => ?_, c.once, c.codes, c.responses⟩,
    ⟨fun j s found => ?_, (follows_refl h).ticket, (follows_refl h).code,
      (follows_refl h).answered⟩, fun r free => ?_⟩
  · obtain ⟨s, there, rest⟩ := c.tenures j v r found
    exact ⟨s, (put_of_ne (old j s there)).trans there, rest⟩
  · rcases put_some found with ⟨-, rfl⟩ | ⟨-, there⟩
    · exact absurd many (lt_irrefl 1)
    · exact c.claimed j s there many
  · obtain ⟨s, there, rest⟩ := c.tickets k r found active
    exact ⟨s, (put_of_ne (old _ s there)).trans there, rest⟩
  · rcases put_some found with ⟨-, rfl⟩ | ⟨-, there⟩
    · cases frozen
    · exact c.frozen j s there frozen
  · exact ⟨s, (put_of_ne (old j s found)).trans found, le_rfl⟩
  · refine keeps_beside rfl (fun j same => ?_) (fun _ _ => rfl) fun _ _ => rfl
    have other : j ≠ i := by
      rintro rfl
      exact free (same ▸ locked)
    exact ⟨put_of_ne other, fun _ => rfl, fun _ => Iff.rfl⟩

/-- The interval of the version a device is held under. -/
theorem moves_tenure {s : Stake} (c : h.Consistent) (locked : ⟨.terminal i, .exclusive⟩ ∈ held)
    (mine : h.stake i = some s) (new : h.tenure (i, s.version) = none) :
    Moves held h { h with tenure := put h.tenure (i, s.version) ⟨s.tenantId, true⟩ } := by
  refine ⟨⟨fun j v r found => ?_, fun j s' found many => ?_, c.tickets, c.frozen, c.once, c.codes,
    c.responses⟩, ⟨(follows_refl h).stake, (follows_refl h).ticket, (follows_refl h).code,
      (follows_refl h).answered⟩, fun r free => ?_⟩
  · rcases put_some found with ⟨same, rfl⟩ | ⟨-, there⟩
    · obtain ⟨rfl, rfl⟩ := Prod.mk.inj same
      exact ⟨s, mine, le_rfl, fun _ => ⟨rfl, rfl⟩⟩
    · exact c.tenures j v r there
  · obtain ⟨r, there, current⟩ := c.claimed j s' found many
    refine ⟨r, ?_, current⟩
    refine (put_of_ne fun same => ?_).trans there
    rw [same, new] at there
    cases there
  · refine keeps_beside rfl (fun j here => ?_) (fun _ _ => rfl) fun _ _ => rfl
    refine ⟨rfl, fun v => put_of_ne fun same => ?_, fun _ => Iff.rfl⟩
    obtain ⟨rfl, -⟩ := Prod.mk.inj same
    exact free (here ▸ locked)

/-- A code that no other is like. -/
theorem moves_issue {p : Bool} {hash : String} (c : h.Consistent)
    (locked : ⟨if p then .pairing k else .claim k, .exclusive⟩ ∈ held)
    (fenced : ⟨if p then .pairingCode hash else .claimCode hash, .exclusive⟩ ∈ held)
    (new : h.code (p, k) = none) (free : ∀ j c, h.code (p, j) = some c → c.hash ≠ hash) :
    Moves held h { h with code := put h.code (p, k) ⟨hash, false⟩ } := by
  have old : ∀ j c, h.code j = some c → j ≠ (p, k) := by
    rintro j c found rfl
    rw [new] at found
    cases found
  refine ⟨⟨c.tenures, c.claimed, c.tickets, c.frozen, c.once, fun q j j' x x' found found' same => ?_,
    c.responses⟩, ⟨(follows_refl h).stake, (follows_refl h).ticket,
      fun j x found => ⟨x, (put_of_ne (old j x found)).trans found, rfl, id⟩,
      (follows_refl h).answered⟩, fun r unlocked => ?_⟩
  · rcases put_some found with ⟨here, rfl⟩ | ⟨-, there⟩
    · rcases put_some found' with ⟨here', rfl⟩ | ⟨-, there'⟩
      · exact (Prod.mk.inj here).2.trans (Prod.mk.inj here').2.symm
      · obtain ⟨rfl, -⟩ := Prod.mk.inj here
        exact absurd same.symm (free j' x' there')
    · rcases put_some found' with ⟨here', rfl⟩ | ⟨-, there'⟩
      · obtain ⟨rfl, -⟩ := Prod.mk.inj here'
        exact absurd same (free j x there)
      · exact c.codes q j j' x x' there there' same
  · have hashes (q : Bool) (other : String)
        (away : q = p → other ≠ hash) (j : Id) :
        (∃ x, put h.code (p, k) ⟨hash, false⟩ (q, j) = some x ∧ x.hash = other) ↔
          ∃ x, h.code (q, j) = some x ∧ x.hash = other := by
      constructor
      · rintro ⟨x, found, named⟩
        rcases put_some found with ⟨here, rfl⟩ | ⟨-, there⟩
        · exact absurd named.symm (away (Prod.mk.inj here).1)
        · exact ⟨x, there, named⟩
      · rintro ⟨x, found, named⟩
        exact ⟨x, (put_of_ne (old _ x found)).trans found, named⟩
    cases r with
    | claim j =>
        refine put_of_ne fun same => ?_
        obtain ⟨rfl, rfl⟩ := Prod.mk.inj same
        exact unlocked locked
    | pairing j =>
        refine put_of_ne fun same => ?_
        obtain ⟨rfl, rfl⟩ := Prod.mk.inj same
        exact unlocked locked
    | claimCode other =>
        refine hashes false other ?_
        rintro rfl rfl
        exact unlocked fenced
    | pairingCode other =>
        refine hashes true other ?_
        rintro rfl rfl
        exact unlocked fenced
    | terminal j => exact ⟨rfl, fun _ => rfl, fun _ => Iff.rfl⟩
    | interval key => trivial
    | transfer j => exact rfl
    | operation j => exact rfl

/-- The codes of `used` are used up. -/
def useUp (h : Holdings) (used : Bool × Id → Bool) : Holdings :=
  { h with code := fun q => (h.code q).map fun c => { c with used := c.used || used q } }

theorem moves_useUp {used : Bool × Id → Bool} (c : h.Consistent)
    (locked : ∀ p k, used (p, k) = true → ⟨if p then .pairing k else .claim k, .exclusive⟩ ∈ held) :
    Moves held h (h.useUp used) := by
  have hashes (q : Bool × Id) (other : String) :
      (∃ y, (h.useUp used).code q = some y ∧ y.hash = other) ↔
        ∃ y, h.code q = some y ∧ y.hash = other := by
    cases found : h.code q with
    | none => simp [useUp, found]
    | some y => simp [useUp, found]
  have unused (q : Bool × Id) (off : used q = false) : (h.useUp used).code q = h.code q := by
    cases found : h.code q with
    | none => simp [useUp, found]
    | some y => simp [useUp, found, off]
  refine ⟨⟨c.tenures, c.claimed, c.tickets, c.frozen, c.once, fun q j j' y y' at_j at_j' same => ?_,
    c.responses⟩, ⟨(follows_refl h).stake, (follows_refl h).ticket, fun j y at_j => ?_,
      (follows_refl h).answered⟩, fun r free => ?_⟩
  · obtain ⟨z, there, named⟩ := (hashes (q, j) y.hash).mp ⟨y, at_j, rfl⟩
    obtain ⟨z', there', named'⟩ := (hashes (q, j') y'.hash).mp ⟨y', at_j', rfl⟩
    exact c.codes q j j' z z' there there' (named.trans (same.trans named'.symm))
  · exact ⟨{ y with used := y.used || used j }, Option.map_eq_some_iff.mpr ⟨y, at_j, rfl⟩, rfl,
      fun on => by simp [on]⟩
  · cases r with
    | claim j =>
        refine unused (false, j) (Bool.eq_false_iff.mpr fun on => ?_)
        exact free (locked false j on)
    | pairing j =>
        refine unused (true, j) (Bool.eq_false_iff.mpr fun on => ?_)
        exact free (locked true j on)
    | claimCode other => exact fun j => hashes (false, j) other
    | pairingCode other => exact fun j => hashes (true, j) other
    | terminal j => exact ⟨rfl, fun _ => rfl, fun _ => Iff.rfl⟩
    | interval key => trivial
    | transfer j => exact rfl
    | operation j => exact rfl

/-- No interval is of a version to come. -/
theorem Consistent.later (c : h.Consistent) {s : Stake} (mine : h.stake i = some s) :
    h.tenure (i, s.version + 1) = none := by
  refine Option.eq_none_iff_forall_not_mem.mpr fun r found => ?_
  obtain ⟨s', there, le, -⟩ := c.tenures i _ r found
  cases mine.symm.trans there
  omega

/-- No interval of the device is the current one. -/
def ended (h : Holdings) (i : Id) (key : Id × Nat) : Option Tenure :=
  (h.tenure key).map fun r => { r with current := r.current && key.1 ≠ i }

theorem ended_of_ne (h : Holdings) {i : Id} {key : Id × Nat} (ne : key.1 ≠ i) :
    h.ended i key = h.tenure key := by
  unfold ended
  cases h.tenure key with
  | none => rfl
  | some r => simp [ne]

/-- A device of the platform goes to a merchant: the interval it was held in ends, and one of the
next version begins. -/
def handOver (h : Holdings) (i tenantId : Id) (version : Nat) : Holdings :=
  { h with
    stake := put h.stake i ⟨tenantId, version + 1, false⟩
    tenure := put (h.ended i) (i, version + 1) ⟨tenantId, true⟩ }

theorem handOver_tenure (h : Holdings) (i tenantId : Id) (version : Nat) :
    (h.handOver i tenantId version).tenure = put (h.ended i) (i, version + 1) ⟨tenantId, true⟩ :=
  rfl

theorem moves_handOver {s : Stake} {tenantId : Id} (c : h.Consistent)
    (locked : ⟨.terminal i, .exclusive⟩ ∈ held) (mine : h.stake i = some s)
    (free : s.frozen = false) : Moves held h (h.handOver i tenantId s.version) := by
  have none : ∀ k, ¬ h.Pending i k := by
    rintro k ⟨r, found, active, here⟩
    obtain ⟨s', there, frozen, -⟩ := c.tickets k r found active
    rw [here, mine] at there
    cases there
    rw [free] at frozen
    cases frozen
  have elsewhere : ∀ j v, j ≠ i →
      (h.handOver i tenantId s.version).tenure (j, v) = h.tenure (j, v) := by
    intro j v ne
    have apart : (j, v) ≠ (i, s.version + 1) := fun same => ne (Prod.mk.inj same).1
    rw [handOver_tenure, put_of_ne apart]
    exact h.ended_of_ne ne
  refine ⟨⟨fun j v r found => ?_, fun j s' found many => ?_, fun k r found active => ?_,
    fun j s' found frozen => ?_, c.once, c.codes, c.responses⟩,
    ⟨fun j s' found => ?_, (follows_refl h).ticket, (follows_refl h).code,
      (follows_refl h).answered⟩, fun r unlocked => ?_⟩
  · by_cases here : j = i
    · subst here
      refine ⟨_, put_same _ _ _, ?_⟩
      rw [handOver_tenure] at found
      rcases put_some found with ⟨same, rfl⟩ | ⟨-, there⟩
      · obtain ⟨-, rfl⟩ := Prod.mk.inj same
        exact ⟨le_rfl, fun _ => ⟨rfl, rfl⟩⟩
      · obtain ⟨r', before, rfl⟩ := Option.map_eq_some_iff.mp there
        obtain ⟨s', there', le, -⟩ := c.tenures j v r' before
        cases mine.symm.trans there'
        refine ⟨Nat.le_succ_of_le le, fun current => ?_⟩
        simp at current
    · rw [elsewhere j v here] at found
      obtain ⟨s', there, rest⟩ := c.tenures j v r found
      exact ⟨s', (put_of_ne here).trans there, rest⟩
  · rcases put_some found with ⟨rfl, rfl⟩ | ⟨ne, there⟩
    · refine ⟨⟨tenantId, true⟩, ?_, rfl⟩
      rw [handOver_tenure]
      exact put_same _ _ _
    · obtain ⟨r, there', current⟩ := c.claimed j s' there many
      exact ⟨r, (elsewhere j _ ne).trans there', current⟩
  · obtain ⟨s', there, rest⟩ := c.tickets k r found active
    refine ⟨s', (put_of_ne fun here => none k ⟨r, found, active, here⟩).trans there, rest⟩
  · rcases put_some found with ⟨-, rfl⟩ | ⟨-, there⟩
    · cases frozen
    · exact c.frozen j s' there frozen
  · by_cases here : j = i
    · subst here
      cases mine.symm.trans found
      exact ⟨_, put_same _ _ _, Nat.le_succ _⟩
    · exact ⟨s', (put_of_ne here).trans found, le_rfl⟩
  · refine keeps_beside rfl (fun j same => ?_) (fun _ _ => rfl) fun _ _ => rfl
    have other : j ≠ i := by
      rintro rfl
      exact unlocked (same ▸ locked)
    exact ⟨put_of_ne other, fun v => elsewhere j v other, fun _ => Iff.rfl⟩

/-- A transfer is asked for, and the device is frozen. -/
def freeze (h : Holdings) (i k : Id) (s : Stake) : Holdings :=
  { h with
    stake := put h.stake i { s with frozen := true }
    ticket := put h.ticket k ⟨i, s.version, true⟩ }

theorem pending_put {m : Id → Option TransferTicket} {r : TransferTicket} {j l : Id} (ne : r.terminalId ≠ j)
    (off : ∀ r', m k = some r' → ¬ (r'.active = true ∧ r'.terminalId = j)) :
    (∃ x, put m k r l = some x ∧ x.active = true ∧ x.terminalId = j) ↔
      ∃ x, m l = some x ∧ x.active = true ∧ x.terminalId = j := by
  by_cases same : l = k
  · subst same
    rw [put_same]
    constructor
    · rintro ⟨x, found, -, here⟩
      cases found
      exact absurd here ne
    · rintro ⟨x, found, active, here⟩
      exact absurd ⟨active, here⟩ (off x found)
  · rw [put_of_ne same]

theorem moves_freeze {s : Stake} (c : h.Consistent) (locked : ⟨.terminal i, .exclusive⟩ ∈ held)
    (fenced : ⟨.transfer k, .exclusive⟩ ∈ held) (mine : h.stake i = some s)
    (free : s.frozen = false) (new : h.ticket k = none) : Moves held h (h.freeze i k s) := by
  have none : ∀ l, ¬ h.Pending i l := by
    rintro l ⟨r, found, active, here⟩
    obtain ⟨s', there, frozen, -⟩ := c.tickets l r found active
    rw [here, mine] at there
    cases there
    rw [free] at frozen
    cases frozen
  have old : ∀ l r, h.ticket l = some r → l ≠ k := by
    rintro l r found rfl
    rw [new] at found
    cases found
  have elsewhere {j l : Id} (ne : j ≠ i) : (h.freeze i k s).Pending j l ↔ h.Pending j l :=
    pending_put (Ne.symm ne) fun r found => by
      rw [new] at found
      cases found
  have only {l : Id} (pending : (h.freeze i k s).Pending i l) : l = k := by
    obtain ⟨r, found, active, here⟩ := pending
    rcases put_some found with ⟨rfl, -⟩ | ⟨-, there⟩
    · rfl
    · exact absurd ⟨r, there, active, here⟩ (none l)
  refine ⟨⟨fun j v r found => ?_, fun j s' found many => ?_, fun l r found active => ?_,
    fun j s' found frozen => ?_, fun j l l' there there' => ?_, c.codes,
    fun tenantId text key a found => ?_⟩,
    ⟨fun j s' found => ?_, fun l r found => ⟨r, (put_of_ne (old l r found)).trans found, rfl, id⟩,
      (follows_refl h).code, (follows_refl h).answered⟩, fun r unlocked => ?_⟩
  · obtain ⟨s', there, rest⟩ := c.tenures j v r found
    by_cases here : j = i
    · subst here
      cases mine.symm.trans there
      exact ⟨_, put_same _ _ _, rest⟩
    · exact ⟨s', (put_of_ne here).trans there, rest⟩
  · rcases put_some found with ⟨rfl, rfl⟩ | ⟨-, there⟩
    · exact c.claimed j s mine many
    · exact c.claimed j s' there many
  · rcases put_some found with ⟨-, rfl⟩ | ⟨-, there⟩
    · exact ⟨_, put_same _ _ _, rfl, rfl⟩
    · obtain ⟨s', there', rest⟩ := c.tickets l r there active
      exact ⟨s', (put_of_ne fun here => none l ⟨r, there, active, here⟩).trans there', rest⟩
  · rcases put_some found with ⟨rfl, -⟩ | ⟨ne, there⟩
    · exact ⟨k, _, put_same _ _ _, rfl, rfl⟩
    · obtain ⟨l, pending⟩ := c.frozen j s' there frozen
      exact ⟨l, (elsewhere ne).mpr pending⟩
  · by_cases here : j = i
    · subst here
      exact (only there).trans (only there').symm
    · exact c.once j l l' ((elsewhere here).mp there) ((elsewhere here).mp there')
  · obtain ⟨l, status, version, r, answer, there, named⟩ := c.responses tenantId text key a found
    exact ⟨l, status, version, r, answer, (put_of_ne (old l r there)).trans there, named⟩
  · by_cases here : j = i
    · subst here
      cases mine.symm.trans found
      exact ⟨_, put_same _ _ _, le_rfl⟩
    · exact ⟨s', (put_of_ne here).trans found, le_rfl⟩
  · refine keeps_beside rfl (fun j same => ?_) (fun j same => ?_) fun _ _ => rfl
    · have other : j ≠ i := by
        rintro rfl
        exact unlocked (same ▸ locked)
      exact ⟨put_of_ne other, fun _ => rfl, fun _ => elsewhere other⟩
    · have other : j ≠ k := by
        rintro rfl
        exact unlocked (same ▸ fenced)
      exact put_of_ne other

/-- A transfer is called off, and the device is free again. -/
def thaw (h : Holdings) (k : Id) (r : TransferTicket) (s : Stake) : Holdings :=
  { h with
    stake := put h.stake r.terminalId { s with frozen := false }
    ticket := put h.ticket k { r with active := false } }

theorem moves_thaw {s : Stake} {r : TransferTicket} (c : h.Consistent)
    (locked : ⟨.terminal r.terminalId, .exclusive⟩ ∈ held)
    (fenced : ⟨.transfer k, .exclusive⟩ ∈ held) (asked : h.ticket k = some r)
    (active : r.active = true) (mine : h.stake r.terminalId = some s) :
    Moves held h (h.thaw k r s) := by
  have only {l : Id} (pending : h.Pending r.terminalId l) : l = k :=
    c.once _ _ _ pending ⟨r, asked, active, rfl⟩
  have gone (l : Id) : ¬ (h.thaw k r s).Pending r.terminalId l := by
    rintro ⟨x, found, on, here⟩
    rcases put_some found with ⟨-, rfl⟩ | ⟨ne, there⟩
    · cases on
    · exact ne (only ⟨x, there, on, here⟩)
  have elsewhere {j l : Id} (ne : j ≠ r.terminalId) : (h.thaw k r s).Pending j l ↔ h.Pending j l := by
    refine pending_put (Ne.symm ne) fun x found on => ?_
    cases asked.symm.trans found
    exact ne on.2.symm
  refine ⟨⟨fun j v x found => ?_, fun j s' found many => ?_, fun l x found on => ?_,
    fun j s' found frozen => ?_, fun j l l' there there' => ?_, c.codes,
    fun tenantId text key a found => ?_⟩,
    ⟨fun j s' found => ?_, fun l x found => ?_, (follows_refl h).code,
      (follows_refl h).answered⟩, fun x unlocked => ?_⟩
  · obtain ⟨s', there, rest⟩ := c.tenures j v x found
    by_cases here : j = r.terminalId
    · subst here
      cases mine.symm.trans there
      exact ⟨_, put_same _ _ _, rest⟩
    · exact ⟨s', (put_of_ne here).trans there, rest⟩
  · rcases put_some found with ⟨rfl, rfl⟩ | ⟨-, there⟩
    · exact c.claimed _ s mine many
    · exact c.claimed j s' there many
  · rcases put_some found with ⟨-, rfl⟩ | ⟨ne, there⟩
    · cases on
    · obtain ⟨s', there', rest⟩ := c.tickets l x there on
      refine ⟨s', (put_of_ne fun here => ?_).trans there', rest⟩
      exact ne (only ⟨x, there, on, here⟩)
  · rcases put_some found with ⟨-, rfl⟩ | ⟨ne, there⟩
    · cases frozen
    · obtain ⟨l, pending⟩ := c.frozen j s' there frozen
      exact ⟨l, (elsewhere ne).mpr pending⟩
  · by_cases here : j = r.terminalId
    · subst here
      exact absurd there (gone l)
    · exact c.once j l l' ((elsewhere here).mp there) ((elsewhere here).mp there')
  · obtain ⟨l, status, version, x, answer, there, named⟩ := c.responses tenantId text key a found
    by_cases same : l = k
    · subst same
      cases asked.symm.trans there
      exact ⟨l, status, version, _, answer, put_same _ _ _, named⟩
    · exact ⟨l, status, version, x, answer, (put_of_ne same).trans there, named⟩
  · by_cases here : j = r.terminalId
    · subst here
      cases mine.symm.trans found
      exact ⟨_, put_same _ _ _, le_rfl⟩
    · exact ⟨s', (put_of_ne here).trans found, le_rfl⟩
  · by_cases same : l = k
    · subst same
      cases asked.symm.trans found
      exact ⟨_, put_same _ _ _, rfl, fun _ => active⟩
    · exact ⟨x, (put_of_ne same).trans found, rfl, id⟩
  · refine keeps_beside rfl (fun j same => ?_) (fun j same => ?_) fun _ _ => rfl
    · have other : j ≠ r.terminalId := by
        rintro rfl
        exact unlocked (same ▸ locked)
      exact ⟨put_of_ne other, fun _ => rfl, fun _ => elsewhere other⟩
    · have other : j ≠ k := by
        rintro rfl
        exact unlocked (same ▸ fenced)
      exact put_of_ne other

/-- An answer is kept for its key; that to an unbinding names a transfer of the device. -/
theorem moves_answer {key : OperationKey} {a : AssetResponse} (c : h.Consistent)
    (locked : ⟨.operation key, .exclusive⟩ ∈ held) (new : h.answered key = none)
    (named : ∀ text, key.2.1 = .unbind text → ∃ k status version r,
      a = .transfer k status version ∧ h.ticket k = some r ∧ deviceIdOf text = some r.terminalId) :
    Moves held h { h with answered := put h.answered key a } := by
  refine ⟨⟨c.tenures, c.claimed, c.tickets, c.frozen, c.once, c.codes,
    fun tenantId text name x found => ?_⟩, ⟨(follows_refl h).stake, (follows_refl h).ticket,
      (follows_refl h).code, fun k x found => ?_⟩, fun r free => ?_⟩
  · rcases put_some found with ⟨rfl, rfl⟩ | ⟨-, there⟩
    · exact named text rfl
    · exact c.responses tenantId text name x there
  · refine (put_of_ne fun same => ?_).trans found
    rw [same, new] at found
    cases found
  · refine keeps_beside rfl (fun _ _ => keeps_refl (.terminal _) h) (fun _ _ => rfl) fun j same => ?_
    refine put_of_ne fun here => ?_
    exact free (same ▸ here ▸ locked)

end Holdings
end CoffeeCloud
