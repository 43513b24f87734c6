import CoffeeCloud.Interleavings.Ownership

/-!
Each request about ownership is verified on its own, statement by statement: what it
has written so far is a change that its locks allow, whatever others commit. From
that follows what every run of them together has done.
-/
namespace CoffeeCloud
open Library AssetRequests Script

namespace AssetRequests
open AssetDb Holdings

section Written
variable {settings : AssetSettings} {L more held : List AssetLock} {db t : AssetDb}
  {pending : AssetDb → AssetDb} {F G : Holdings → Holdings → Prop}

/-- With these locks, what the transaction has written so far is a change in `F` and within them. -/
structure Ready (L : List AssetLock) (F : Holdings → Holdings → Prop) (pending : AssetDb → AssetDb)
    (held : List AssetLock) (db : AssetDb) : Prop where
  locked : L ⊆ held
  moves : ∀ t, ownership.Rely L db t → t.holdings.Consistent →
    Moves L t.holdings (pending t).holdings ∧ F t.holdings (pending t).holdings

theorem rely_sub (rely : ownership.Rely held db t) (sub : L ⊆ held) : ownership.Rely L db t :=
  ⟨rely.1, fun l mem => rely.2 l (sub mem)⟩

/-- A transaction that has written nothing. -/
theorem ready_start (locked : L ⊆ held)
    (known : ∀ t, ownership.Rely L db t → t.holdings.Consistent → F t.holdings t.holdings) :
    Ready L F id held db :=
  ⟨locked, fun t rely inv => ⟨.refl inv, known t rely inv⟩⟩

theorem Ready.rely (ready : Ready L F pending held db) (rely : ownership.Rely held db t) :
    Ready L F pending held t :=
  ⟨ready.locked, fun u more inv => ready.moves u ((rely_sub rely ready.locked).trans more) inv⟩

theorem Ready.append (ready : Ready L F pending held db) : Ready L F pending (held ++ more) db :=
  ⟨fun _ mem => List.mem_append_left _ (ready.locked mem), ready.moves⟩

/-- What a statement may write, where it saw `v` and `w` is there at the commit. -/
def Writes (L : List AssetLock) (F G : Holdings → Holdings → Prop) (e : AssetDb → AssetDb)
    (v : AssetDb) : Prop :=
  ∀ t u w : AssetDb, F t.holdings v.holdings → v.holdings.Consistent → ownership.Rely L t u →
    F u.holdings w.holdings → w.holdings.Consistent →
      Moves L w.holdings (e w).holdings ∧ G u.holdings (e w).holdings

theorem Ready.write (ready : Ready L F pending held t) (inv : t.holdings.Consistent)
    {e : AssetDb → AssetDb} (sub : L ⊆ more) (held_more : more ⊆ held)
    (writes : Writes more F G e (pending t)) :
    Ready more G (fun u => e (pending u)) held t := by
  refine ⟨held_more, fun u rely inv' => ?_⟩
  obtain ⟨moves, wrote⟩ := ready.moves u (rely_sub rely sub) inv'
  obtain ⟨moves₀, wrote₀⟩ := ready.moves t .refl inv
  obtain ⟨next, result⟩ := writes t u _ wrote₀ moves₀.consistent rely wrote moves.consistent
  exact ⟨(moves.mono sub).trans next, result⟩

/-- An update, with the locks it takes. -/
theorem change_safe {Q : Unit → (AssetDb → AssetDb) → List AssetLock → AssetDb → Prop}
    {locks : AssetDb → List AssetLock} {effect : AssetDb → AssetDb → AssetDb}
    (ready : Ready L F pending held db)
    (writes : ∀ v, Writes (L ++ locks v) F G (effect v) v)
    (next : ∀ pending held t v, Ready (L ++ locks v) G pending held t → Q () pending held t) :
    Safe ownership Q (change locks effect : AssetScript Unit) pending held db := by
  rw [safe_change]
  intro t rely inv
  refine next _ _ t (pending t)
    (((ready.rely rely).append).write inv (List.subset_append_left _ _) ?_ (writes _))
  intro l mem
  rcases List.mem_append.mp mem with mem | mem
  · exact List.mem_append_left _ (ready.locked mem)
  · exact List.mem_append_right _ mem

theorem insert_safe {Q : Unit → (AssetDb → AssetDb) → List AssetLock → AssetDb → Prop}
    {locks : List AssetLock} {taken : AssetDb → Bool} {effect : AssetDb → AssetDb} {e : Failure}
    (ready : Ready L F pending held db)
    (writes : ∀ v, taken v = false → Writes (L ++ locks) F G effect v)
    (next : ∀ pending held t, Ready (L ++ locks) G pending held t → Q () pending held t) :
    Safe ownership Q (insert locks taken effect e) pending held db := by
  rw [safe_insert]
  intro t rely inv free
  refine next _ _ t (((ready.rely rely).append).write inv (List.subset_append_left _ _) ?_
    (writes _ free))
  intro l mem
  rcases List.mem_append.mp mem with mem | mem
  · exact List.mem_append_left _ (ready.locked mem)
  · exact List.mem_append_right _ mem

theorem record_safe {Q : Unit → (AssetDb → AssetDb) → List AssetLock → AssetDb → Prop}
    {p : MerchantPrincipal} {action resourceType : String} (ready : Ready L F pending held db)
    (next : ∀ pending held t, Ready L F pending held t → Q () pending held t) :
    Safe ownership Q (record p action resourceType) pending held db := by
  refine change_safe ready (G := F) (fun _ _ _ _ _ _ _ wrote inv => ⟨.refl inv, wrote⟩) ?_
  intro pending held t v ready
  rw [List.append_nil] at ready
  exact next pending held t ready

theorem Ready.commits {a : OwnershipAnswer} (ready : Ready L F pending held db)
    (answers : ∀ h h', h.Consistent → F h h' → Answers settings a h h') :
    Commits ownership (Good settings) a pending held db := by
  refine commits_of_moves fun t rely inv => ?_
  obtain ⟨moves, wrote⟩ := ready.moves t (rely_sub rely ready.locked) inv
  exact ⟨moves.mono ready.locked, inv, moves.follows, answers _ _ inv wrote⟩

/-- The first writes of a transaction. -/
theorem Ready.first (ready : Ready L F id held t) (inv : t.holdings.Consistent)
    {e : AssetDb → AssetDb} (sub : L ⊆ more) (held_more : more ⊆ held)
    (writes : Writes more F G e t) : Ready more G e held t :=
  ready.write inv sub held_more writes

/-- What is read under a lock that is held. -/
theorem Ready.learn (ready : Ready L F pending held t) (sub : L ⊆ more) (held_more : more ⊆ held)
    (known : ∀ u, ownership.Rely more t u → F u.holdings (pending u).holdings →
      G u.holdings (pending u).holdings) : Ready more G pending held t := by
  refine ⟨held_more, fun u rely inv' => ?_⟩
  obtain ⟨moves, wrote⟩ := ready.moves u (rely_sub rely sub) inv'
  exact ⟨moves.mono sub, known u rely wrote⟩

end Written

/-- What no statement has changed yet. -/
def Unchanged (known : Holdings → Prop) (h h' : Holdings) : Prop := h' = h ∧ known h

theorem sameVersions_refl (h : Holdings) : SameVersions h h := fun _ => rfl

theorem sameVersions_put {h h' : Holdings} {i : Id} {s : Stake} (same : h'.stake = put h.stake i s)
    (kept : s.version = h.version i) : SameVersions h h' := by
  intro j
  rw [version_put same]
  split
  · next here => rw [kept, here]
  · rfl

theorem version_of_stake {h : Holdings} {i : Id} {s : Stake} (mine : h.stake i = some s) :
    h.version i = s.version := by
  rw [version, mine]
  rfl

section Codes
variable {db t : AssetDb} {held : List AssetLock} {k : Id} {hash : String} {b : Bool}

/-- Neither the row of a code nor the code itself is there. -/
def Unissued (b : Bool) (k : Id) (hash : String) (h : Holdings) : Prop :=
  h.code (b, k) = none ∧ ∀ j c, h.code (b, j) = some c → c.hash ≠ hash

theorem unissued_kept (unissued : Unissued b k hash db.holdings)
    (rely : ownership.Rely held db t)
    (locked : ⟨if b then .pairing k else .claim k, .exclusive⟩ ∈ held)
    (fenced : ⟨if b then .pairingCode hash else .claimCode hash, .exclusive⟩ ∈ held) :
    Unissued b k hash t.holdings := by
  refine ⟨(code_kept rely locked).trans unissued.1, fun j c found same => ?_⟩
  have kept := rely.2 _ fenced
  cases b with
  | true =>
      obtain ⟨c', found', same'⟩ := (kept j).mp ⟨c, found, same⟩
      exact unissued.2 j c' found' same'
  | false =>
      obtain ⟨c', found', same'⟩ := (kept j).mp ⟨c, found, same⟩
      exact unissued.2 j c' found' same'

theorem unissued_useUp {h : Holdings} {used : Bool × Id → Bool} :
    Unissued b k hash (h.useUp used) ↔ Unissued b k hash h := by
  constructor
  · intro unissued
    refine ⟨Option.map_eq_none_iff.mp unissued.1, fun j c found => ?_⟩
    exact unissued.2 j { c with used := c.used || used (b, j) }
      (Option.map_eq_some_iff.mpr ⟨c, found, rfl⟩)
  · intro unissued
    refine ⟨Option.map_eq_none_iff.mpr unissued.1, fun j c found => ?_⟩
    obtain ⟨c', found', rfl⟩ := Option.map_eq_some_iff.mp found
    exact unissued.2 j c' found'

theorem unissued_claim (free : decide ((db.claims.find? k).isSome ∨
    db.claims.rows.any fun c => c.codeHash = hash) = false) : Unissued false k hash db.holdings := by
  obtain ⟨vacant, unlike⟩ := not_or.mp (of_decide_eq_false free)
  refine ⟨(Table.view_eq_none _).mpr (Option.not_isSome_iff_eq_none.mp vacant), fun j c found same => ?_⟩
  obtain ⟨row, there, rfl⟩ := (Table.view_eq_some DeviceClaim.code).mp found
  exact unlike (List.any_eq_true.mpr ⟨row, Table.mem_of_find? there, decide_eq_true same⟩)

theorem unissued_pairing (free : decide ((db.pairings.find? k).isSome ∨
    db.pairings.rows.any fun c => c.codeHash = hash) = false) : Unissued true k hash db.holdings := by
  obtain ⟨vacant, unlike⟩ := not_or.mp (of_decide_eq_false free)
  refine ⟨(Table.view_eq_none _).mpr (Option.not_isSome_iff_eq_none.mp vacant), fun j c found same => ?_⟩
  obtain ⟨row, there, rfl⟩ := (Table.view_eq_some PairingCode.code).mp found
  exact unlike (List.any_eq_true.mpr ⟨row, Table.mem_of_find? there, decide_eq_true same⟩)

end Codes

section Requests
variable {settings : AssetSettings} {new : AssetFresh} {p : MerchantPrincipal} {L held : List AssetLock}
  {db : AssetDb} {pending : AssetDb → AssetDb} {F : Holdings → Holdings → Prop}

/-- A write below who holds what. -/
theorem writes_quiet {e : AssetDb → AssetDb} {v : AssetDb} (quiet : ∀ w, (e w).holdings = w.holdings) :
    Writes L F F e v := by
  intro t u w _ _ _ wrote inv
  rw [quiet]
  exact ⟨.refl inv, wrote⟩

theorem issueClaim_safe (terminalId : Id) :
    Safe ownership (Commits ownership (Good settings))
      (perform settings ⟨p, new, .issueClaim terminalId⟩) id [] db := by
  simp only [perform, issueClaim, safe_bind, safe_selectFor, safe_require, safe_pure]
  intro t _ _ row _
  have begun : Ready [] (Unchanged fun _ => True) id
      (([] : List AssetLock) ++ ((id t).terminals.find? terminalId).toList.map fun t =>
        ⟨.terminal t.id, .exclusive⟩) t :=
    ready_start (List.nil_subset _) fun _ _ _ => ⟨rfl, trivial⟩
  refine change_safe begun (G := Unchanged fun _ => True) (fun v => ?_) fun pending held t v begun => ?_
  · exact writes_quiet fun w => holdings_expired _ fun _ => rfl
  refine insert_safe begun (G := SameVersions) (fun v free => ?_) fun pending held t written => ?_
  · intro t u w at_v _ rely at_w inv
    have vacant : Unissued false new.id (settings.tokenHash new.code) w.holdings := by
      have seen := unissued_claim free
      rw [at_v.1] at seen
      rw [at_w.1]
      exact unissued_kept seen rely (by simp) (by simp)
    rw [holdings_claim]
    · refine ⟨moves_issue inv (by simp) (by simp) vacant.1 vacant.2, ?_⟩
      rw [at_w.1]
      exact sameVersions_refl _
    · exact (Table.view_eq_none _).mp vacant.1
  · exact written.commits fun _ _ _ same => same

/-- A transaction without locks that has written nothing. -/
theorem ready_nothing : Ready [] SameVersions id held db :=
  ready_start (List.nil_subset _) fun _ _ _ => sameVersions_refl _

theorem served_commits (ready : Ready L SameVersions pending held db) :
    Commits ownership (Good settings) .served pending held db :=
  ready.commits fun _ _ _ same => same

theorem tended_safe {Q : Unit → (AssetDb → AssetDb) → List AssetLock → AssetDb → Prop} {i : Id}
    {f : OwnedTerminal → OwnedTerminal} {hf : ∀ r, Keyed.key (f r) = Keyed.key r}
    (same : ∀ t, (f t).stake = t.stake) (ready : Ready L F pending held db)
    (next : ∀ pending held t, Ready (L ++ [⟨.terminal i, .exclusive⟩]) F pending held t →
      Q () pending held t) :
    Safe ownership Q (change (fun _ => [⟨.terminal i, .exclusive⟩]) (fun _ db => { db with
      terminals := db.terminals.modify i f hf }) : AssetScript Unit) pending held db := by
  refine change_safe ready (G := F) (fun v => ?_) fun pending held t v ready => next _ _ _ ready
  exact writes_quiet fun w => holdings_tended hf same

theorem changeDevice_safe {Q : Unit → (AssetDb → AssetDb) → List AssetLock → AssetDb → Prop}
    {t : OwnedTerminal} {asked : DeviceChange}
    (next : ∀ L pending held t, Ready L SameVersions pending held t → Q () pending held t) :
    Safe ownership Q (changeDevice p t asked) id held db := by
  cases asked with
  | lifecycle action reason =>
      simp only [changeDevice, safe_bind, safe_ensure, safe_require]
      intro _ status _ _ _
      by_cases archive : action = "ARCHIVE"
      · simp only [if_pos archive, blocking, safe_bind, safe_select, safe_pure, safe_ensure]
        intro t₁ _ _ t₂ _ _ t₃ _ _ _
        exact tended_safe (fun _ => rfl) ready_nothing fun pending held t ready => next _ _ _ _ ready
      · simp only [if_neg archive, safe_bind, safe_pure, safe_ensure, forall_const]
        exact tended_safe (fun _ => rfl) ready_nothing fun pending held t ready => next _ _ _ _ ready
  | profile name storeId localeValid =>
      simp only [changeDevice, store, safe_bind, safe_require, safe_select, safe_ensure, safe_pure]
      intro storeId _ t₁ _ _ store _ _ _ name _
      exact tended_safe (fun _ => rfl) ready_nothing fun pending held t ready => next _ _ _ _ ready

theorem update_safe (text : String) (version : Option Int) (asked : DeviceChange) :
    Safe ownership (Commits ownership (Good settings))
      (perform settings ⟨p, new, .update text version asked⟩) id [] db := by
  simp only [perform, update, device, safe_bind, safe_require, safe_selectFor, safe_ensure, safe_pure]
  intro _ i _ t _ _ row _ _ _ _
  refine changeDevice_safe fun L pending held t ready => ?_
  exact record_safe ready fun pending held t ready => served_commits ready

theorem tend_safe (i : Id) (identityKind : Option String) (lifecycleStatus provisioning : String) :
    Safe ownership (Commits ownership (Good settings))
      (perform settings ⟨p, new, .tend i identityKind lifecycleStatus provisioning⟩) id [] db := by
  simp only [perform, safe_bind, safe_pure]
  exact tended_safe (fun _ => rfl) ready_nothing fun pending held t ready => served_commits ready

theorem office_safe (stores : Table MerchantStore) (tenants : Table Tenant)
    (work : Id → PendingWork) :
    Safe ownership (Commits ownership (Good settings))
      (perform settings ⟨p, new, .office stores tenants work⟩) id [] db := by
  simp only [perform, safe_bind, safe_pure]
  refine change_safe ready_nothing (G := SameVersions) (fun v => ?_) fun pending held t v ready =>
    served_commits ready
  exact writes_quiet fun w => rfl

/-- A transfer that is active, and locked. -/
def asked (x : DeviceTransfer) (h : Holdings) : Prop :=
  h.ticket x.id = some ⟨x.terminalId, x.ownershipVersion, true⟩

theorem asked_safe {x : DeviceTransfer} {t : AssetDb} (found : t.transfers.find? x.id = some x)
    (active : x.status.active = true) (locked : ⟨.transfer x.id, .exclusive⟩ ∈ held) :
    Ready [⟨.transfer x.id, .exclusive⟩] (Unchanged (asked x)) id held t := by
  refine ready_start (by simpa using locked) fun u rely _ => ⟨rfl, ?_⟩
  have here : t.holdings.ticket x.id = some x.ticket := Table.view_of_find? _ found
  rw [DeviceTransfer.ticket, active] at here
  exact (ticket_kept rely (List.mem_singleton_self _)).trans here

theorem forward_safe {Q : Unit → (AssetDb → AssetDb) → List AssetLock → AssetDb → Prop}
    {x : DeviceTransfer} (ready : Ready L (Unchanged (asked x)) pending held db)
    (next : ∀ L pending held t, Ready L SameVersions pending held t → Q () pending held t) :
    Safe ownership Q (setTransfer x.id .pendingPlatform) pending held db := by
  refine change_safe ready (G := SameVersions) (fun v => ?_) fun pending held t v ready =>
    next _ _ _ _ ready
  intro t u w _ _ _ at_w inv
  have there : asked x w.holdings := at_w.1 ▸ at_w.2
  rw [holdings_forwarded _ there]
  · exact ⟨.refl inv, at_w.1 ▸ sameVersions_refl _⟩
  · exact fun _ same => congrArg (fun r => ({ r with active := true } : TransferTicket)) same

theorem cancel_safe {Q : TransferStatus → (AssetDb → AssetDb) → List AssetLock → AssetDb → Prop}
    {x : DeviceTransfer}
    (begun : x.status.active = true →
      Ready [⟨.transfer x.id, .exclusive⟩] (Unchanged (asked x)) id held db)
    (next : ∀ L a pending held t, Ready L SameVersions pending held t → Q a pending held t) :
    Safe ownership Q (actOn p x .cancel) id held db := by
  simp only [actOn, setTransfer, safe_bind, safe_ensure, safe_change, safe_pure]
  intro stands t₁ rely₁ _ t₂ rely₂ inv₂
  have begun := ((begun stands.2).rely rely₁).append.rely rely₂
  have device {h : Holdings} (inv : h.Consistent) (there : asked x h) :
      ∃ s, h.stake x.terminalId = some s ∧ s.version = x.ownershipVersion := by
    obtain ⟨s, mine, -, version⟩ := inv.tickets _ _ there rfl
    exact ⟨s, mine, version⟩
  have locked : (⟨.terminal x.terminalId, .exclusive⟩ : AssetLock) ∈
      (t₂.terminals.keysWhere (owned x)).map fun i => ⟨.terminal i, .exclusive⟩ := by
    obtain ⟨s, mine, version⟩ := device inv₂ (begun.moves t₂ .refl inv₂).2.2
    obtain ⟨t, found, named, rfl⟩ := find?_of_stake mine
    refine List.mem_map_of_mem (Table.mem_keysWhere.mpr ⟨t, found, ?_⟩)
    exact decide_eq_true ⟨named, version⟩
  refine next [⟨.transfer x.id, .exclusive⟩, ⟨.terminal x.terminalId, .exclusive⟩] _ _ _ _
    (begun.append.first inv₂ ?_ ?_ ?_)
  · simp
  · intro l mem
    rcases List.mem_cons.mp mem with rfl | mem
    · exact List.mem_append_left _ (begun.locked (List.mem_singleton_self _))
    · cases List.mem_singleton.mp mem
      exact List.mem_append_right _ locked
  · intro t u w _ _ _ at_w inv
    have there : asked x w.holdings := at_w.1 ▸ at_w.2
    obtain ⟨s, mine, version⟩ := device inv there
    have thawed := holdings_cancelled (f := fun y => { y with
        status := .cancelled, version := y.version + 1 })
      (g := fun t => { t with
        ownershipFrozen := false, lifecycleStatus := x.previousLifecycle
        merchantVersion := t.merchantVersion + 1 })
      (fun _ => rfl) (fun _ => rfl) there rfl mine version (fun _ => rfl) fun _ => rfl
    refine ⟨(congrArg (Moves _ w.holdings) thawed).mpr ?_, ?_⟩
    · exact moves_thaw inv (by simp) (by simp) there rfl mine
    · rw [← at_w.1]
      refine (congrArg (SameVersions w.holdings) thawed).mpr (sameVersions_put (i := x.terminalId)
        (s := { s with frozen := false }) rfl ?_)
      exact (version_of_stake mine).symm

theorem accept_safe {Q : TransferStatus → (AssetDb → AssetDb) → List AssetLock → AssetDb → Prop}
    {x : DeviceTransfer} {storeId : Option Id}
    (begun : x.status.active = true → Ready L (Unchanged (asked x)) id held db)
    (next : ∀ L a pending held t, Ready L SameVersions pending held t → Q a pending held t) :
    Safe ownership Q (actOn p x (.accept storeId)) id held db := by
  simp only [actOn, safe_bind, safe_ensure]
  intro stands
  have ready := begun (by rw [stands.2]; rfl)
  cases storeId with
  | none =>
      simp only [Option.isSome_none, Bool.false_eq_true, if_false, safe_bind, safe_pure]
      exact forward_safe ready fun L pending held t ready => next _ _ _ _ _ ready
  | some storeId =>
      simp only [Option.isSome_some, if_true, store, safe_bind, safe_require, safe_select,
        safe_ensure, safe_pure]
      intro _ _ t rely _ _ _ _
      exact forward_safe (ready.rely rely) fun L pending held t ready => next _ _ _ _ _ ready

theorem actOn_safe {Q : TransferStatus → (AssetDb → AssetDb) → List AssetLock → AssetDb → Prop}
    {x : DeviceTransfer} {action : TransferAction}
    (begun : x.status.active = true →
      Ready [⟨.transfer x.id, .exclusive⟩] (Unchanged (asked x)) id held db)
    (next : ∀ L a pending held t, Ready L SameVersions pending held t → Q a pending held t) :
    Safe ownership Q (actOn p x action) id held db := by
  cases action with
  | accept storeId => exact accept_safe begun next
  | cancel => exact cancel_safe begun next

theorem transferAction_safe (transferId : Option Id) (version : Option Int)
    (action : TransferAction) :
    Safe ownership (Commits ownership (Good settings))
      (perform settings ⟨p, new, .transferAction transferId version action⟩) id [] db := by
  simp only [perform, transferAction, safe_bind, safe_require, safe_selectFor, safe_ensure, safe_pure]
  intro k _ t _ inv row found _
  have there := (Option.filter_eq_some_iff.mp found).1
  have named : row.id = k := Table.key_of_find? there
  subst named
  refine actOn_safe (fun active => asked_safe there active ?_) fun L a pending held t ready => ?_
  · rw [show concerned p (id t) row.id = some row from found]
    simp
  · exact record_safe ready fun pending held t ready => served_commits ready

/-- The device is held as it was, or new, and the same codes are free. -/
structure Attended (i : Id) (s : Stake) (h h' : Holdings) : Prop where
  versions : SameVersions h h'
  free : ∀ k hash, Unissued true k hash h' ↔ Unissued true k hash h
  mine : h'.stake i = some s

theorem addTerminal_safe {Q : Unit → (AssetDb → AssetDb) → List AssetLock → AssetDb → Prop}
    {t : OwnedTerminal} (fresh : t.stake = ⟨legacyTenant, 1, false⟩)
    (next : ∀ pending held u, Ready [⟨.terminal t.id, .exclusive⟩] (Attended t.id t.stake)
      pending held u → Q () pending held u) :
    Safe ownership Q (addTerminal t) id held db := by
  have begun : Ready [] (Unchanged fun _ => True) id held db :=
    ready_start (List.nil_subset _) fun _ _ _ => ⟨rfl, trivial⟩
  refine insert_safe begun (G := Attended t.id t.stake) (fun v free => ?_) fun pending held u ready =>
    next _ _ _ ready
  intro t₁ u w at_v _ rely at_w inv
  have vacant : w.holdings.stake t.id = none := by
    have free := Option.not_isSome_iff_eq_none.mp (not_or.mp (of_decide_eq_false free)).1
    rw [at_w.1, stake_kept rely (by simp), ← at_v.1]
    exact (Table.view_eq_none _).mpr free
  rw [holdings_registered ((Table.view_eq_none _).mp vacant), ← at_w.1, fresh]
  refine ⟨moves_take inv (by simp) vacant, sameVersions_put rfl ?_, fun k hash => Iff.rfl,
    put_same _ _ _⟩
  rw [Holdings.version, vacant]
  rfl

theorem find?_of_serial {serialNumber : String} {t : OwnedTerminal}
    (found : findBySerial db serialNumber = some t) : db.terminals.find? t.id = some t := by
  rcases Option.or_eq_some_iff.mp found with first | ⟨-, first⟩
  · exact Table.find?_of_mem (Table.first?_some first).1
  · exact Table.find?_of_mem (Table.first?_some first).1

theorem simulatorTerminal_safe
    {Q : OwnedTerminal → (AssetDb → AssetDb) → List AssetLock → AssetDb → Prop}
    {serialNumber : String}
    (next : ∀ t pending held u, Ready [⟨.terminal t.id, .exclusive⟩] (Attended t.id t.stake)
      pending held u → Q t pending held u) :
    Safe ownership Q (simulatorTerminal new serialNumber) id held db := by
  simp only [simulatorTerminal, safe_bind, safe_selectFor]
  intro u _ _
  cases found : findBySerial (id u) serialNumber with
  | none =>
      simp only [safe_bind, safe_pure]
      exact addTerminal_safe rfl fun pending held t ready => next _ _ _ _ ready
  | some t =>
      simp only [safe_bind, safe_ensure, safe_pure]
      intro _
      refine next _ _ _ _ (ready_start ?_ fun w rely _ => ⟨sameVersions_refl _, fun _ _ => Iff.rfl, ?_⟩)
      · simp
      · rw [stake_kept rely (List.mem_singleton_self _)]
        exact stake_of_find? (find?_of_serial found)

theorem ensureInitialOwnership_safe
    {Q : Unit → (AssetDb → AssetDb) → List AssetLock → AssetDb → Prop} {t : OwnedTerminal}
    (locked : ⟨.terminal t.id, .exclusive⟩ ∈ L)
    (ready : Ready L (Attended t.id t.stake) pending held db)
    (next : ∀ pending held u, Ready (L ++ [⟨.interval (t.id, t.ownershipVersion), .exclusive⟩])
      (Attended t.id t.stake) pending held u → Q () pending held u) :
    Safe ownership Q (ensureInitialOwnership t) pending held db := by
  refine change_safe ready (G := Attended t.id t.stake) (fun v => ?_) fun pending held u v ready =>
    next _ _ _ ready
  intro t₁ u w _ _ _ at_w inv
  cases vacant : w.intervals.find? (t.id, t.ownershipVersion) with
  | none =>
      rw [holdings_interval vacant]
      refine ⟨moves_tenure inv (List.mem_append_left _ locked) at_w.mine ?_,
        at_w.versions, at_w.free, at_w.mine⟩
      exact (Table.view_eq_none _).mpr vacant
  | some o =>
      rw [holdings_interval_taken]
      · exact ⟨.refl inv, at_w⟩
      · rw [vacant]
        exact Option.some_ne_none o

theorem register_safe (r : Registration) (owned : Bool) :
    Safe ownership (Commits ownership (Good settings))
      (perform settings ⟨p, new, .register r owned⟩) id [] db := by
  simp only [perform, safe_bind]
  refine addTerminal_safe rfl fun pending held u ready => ?_
  cases owned with
  | true =>
      simp only [if_true, safe_bind, safe_pure]
      refine ensureInitialOwnership_safe (List.mem_singleton_self _) ready
        fun pending held u ready => ?_
      exact ready.commits fun _ _ _ attended => attended.versions
  | false =>
      simp only [Bool.false_eq_true, if_false, safe_pure]
      exact ready.commits fun _ _ _ attended => attended.versions

theorem createSession_safe (serialNumber : String) (proof : Except Failure Unit)
    (expiresAt : Time) :
    Safe ownership (Commits ownership (Good settings))
      (perform settings ⟨p, new, .createSession serialNumber proof expiresAt⟩) id [] db := by
  simp only [perform, createSession, safe_bind]
  refine simulatorTerminal_safe fun t pending held u ready => ?_
  refine ensureInitialOwnership_safe (List.mem_singleton_self _) ready fun pending held u ready => ?_
  cases proof with
  | error e => trivial
  | ok _ =>
      simp only [safe_bind, safe_pure]
      refine change_safe ready (G := Attended t.id t.stake) (fun v => ?_)
        fun pending held u v ready => ?_
      · intro t₁ u w _ _ _ at_w inv
        rw [holdings_withdrawn (fun k => decide (k ∈ pendingPairings v t.id)) (by decide) fun k => rfl]
        refine ⟨moves_useUp inv fun q k used => ?_, at_w.versions, fun k hash => ?_, at_w.mine⟩
        · obtain ⟨rfl, mem⟩ := Bool.and_eq_true_iff.mp used
          refine List.mem_append_right _ (List.mem_map.mpr ⟨k, ?_, rfl⟩)
          exact of_decide_eq_true mem
        · exact unissued_useUp.trans (at_w.free k hash)
      refine tended_safe (fun _ => rfl) ready fun pending held u ready => ?_
      refine insert_safe ready (G := SameVersions) (fun v free => ?_) fun pending held u ready =>
        served_commits ready
      intro t₁ u w at_v _ rely at_w inv
      have seen := (at_v.free _ _).mp (unissued_pairing free)
      have vacant := (at_w.free _ _).mpr (unissued_kept seen rely (by simp) (by simp))
      rw [holdings_pairing]
      · exact ⟨moves_issue inv (by simp) (by simp) vacant.1 vacant.2, at_w.versions⟩
      · exact (Table.view_eq_none _).mp vacant.1

theorem device_safe {Q : OwnedTerminal → (AssetDb → AssetDb) → List AssetLock → AssetDb → Prop}
    {text : String}
    (next : ∀ t row, ownership.Rely held db t → deviceIdOf text = some row.id →
      t.holdings.stake row.id = some row.stake →
      Q row id (held ++ [⟨.terminal row.id, .exclusive⟩]) t) :
    Safe ownership Q (device p text) id held db := by
  simp only [device, safe_bind, safe_require, safe_selectFor, safe_ensure, safe_pure]
  intro _ i named t rely _ row found _
  have there := (Option.filter_eq_some_iff.mp found).1
  have same : row.id = i := Table.key_of_find? there
  subst same
  rw [show deviceRow p (id t) row.id = some row from found]
  exact next t row rely named (stake_of_find? there)

theorem blocking_safe {Q : Bool → (AssetDb → AssetDb) → List AssetLock → AssetDb → Prop} {i : Id}
    (next : ∀ b t, ownership.Rely held db t → Q b pending held t) :
    Safe ownership Q (blocking i) pending held db := by
  simp only [blocking, safe_bind, safe_select, safe_pure]
  intro t₁ rely₁ _ t₂ rely₂ _ t₃ rely₃ _
  exact next _ t₃ ((rely₁.trans rely₂).trans rely₃)

theorem targetOf_safe {Q : Option Id → (AssetDb → AssetDb) → List AssetLock → AssetDb → Prop}
    {unbind : Bool} {reference : Option Id}
    (next : ∀ target t, ownership.Rely held db t → Q target pending held t) :
    Safe ownership Q (targetOf p unbind reference) pending held db := by
  cases unbind with
  | true => exact next none db .refl
  | false =>
      simp only [targetOf, Bool.false_eq_true, if_false, safe_bind, safe_require, safe_select,
        safe_ensure, safe_pure]
      intro target _ t rely _ _
      exact next _ t rely

/-- What a request for a transfer does that is not answered again. -/
structure Requested (text : String) (response : AssetResponse) (h h' : Holdings) : Prop where
  answered : h'.answered = h.answered
  versions : SameVersions h h'
  effect : TakesEffect text response h'

theorem requested_freeze {text : String} {h : Holdings} {i k : Id} {s : Stake}
    {status : TransferStatus} (named : deviceIdOf text = some i) (mine : h.stake i = some s) :
    Requested text (.transfer k status 1) h (h.freeze i k s) := by
  refine ⟨rfl, sameVersions_put (i := i) (s := { s with frozen := true }) rfl ?_, ?_⟩
  · exact (version_of_stake mine).symm
  · exact ⟨i, k, status, 1, { s with frozen := true }, named, rfl, put_same _ _ _, rfl,
      _, put_same _ _ _, rfl, rfl⟩

theorem requestTransfer_safe {text : String} {data : TransferData} {unbind : Bool} {l : AssetLock}
    (mem : l ∈ held) :
    Safe ownership
      (fun response pending held t => ∃ L, l ∈ L ∧ Ready L (Requested text response) pending held t)
      (requestTransfer new p text data unbind) id held db := by
  simp only [requestTransfer, safe_bind]
  refine device_safe fun t row _ named mine => ?_
  have begun : Ready [l, ⟨.terminal row.id, .exclusive⟩]
      (Unchanged fun h => h.stake row.id = some row.stake) id
      (held ++ [⟨.terminal row.id, .exclusive⟩]) t := by
    refine ready_start (by simp [mem]) fun u rely _ => ⟨rfl, ?_⟩
    exact (stake_kept rely (by simp)).trans mine
  simp only [safe_ensure]
  intro _ unfrozen
  refine blocking_safe fun b t₁ rely₁ _ => targetOf_safe fun target t₂ rely₂ => ?_
  simp only [safe_require, safe_insert, safe_change]
  intro _ _ t₃ rely₃ inv₃ free t₄ rely₄ inv₄
  have vacant : t₃.holdings.ticket new.id = none := by
    have free := Option.not_isSome_iff_eq_none.mp (not_or.mp (of_decide_eq_false free)).1
    exact (Table.view_eq_none _).mpr free
  have known : Ready [l, ⟨.terminal row.id, .exclusive⟩, ⟨.transfer new.id, .exclusive⟩]
      (Unchanged fun h => h.stake row.id = some row.stake ∧ h.ticket new.id = none) id
      (held ++ [⟨.terminal row.id, .exclusive⟩] ++ [⟨.transfer new.id, .exclusive⟩]) t₃ := by
    refine (((begun.rely rely₁).rely rely₂).rely rely₃).append.learn (by simp) (by simp [mem]) ?_
    intro u rely at_u
    exact ⟨at_u.1, at_u.2, (ticket_kept rely (by simp)).trans vacant⟩
  refine record_safe ((known.rely rely₄).append.first inv₄ (List.Subset.refl _) (by simp [mem]) ?_)
    fun pending held t ready => ⟨_, by simp, ready⟩
  intro t u w _ _ _ at_w inv
  obtain ⟨same, mine, vacant⟩ := at_w
  rw [← same] at mine vacant ⊢
  rw [holdings_frozen (s := row.stake)]
  · refine ⟨moves_freeze inv (by simp) (by simp) mine ?_ vacant, requested_freeze named mine⟩
    exact unfrozen
  · exact vacant
  · exact mine
  · cases unbind with
    | true => rfl
    | false => rfl
  · exact fun _ => rfl

/-- What a claim does that is not answered again. -/
structure Redeemed (code : Bool × String) (tenantId : Id) (response : AssetResponse)
    (h h' : Holdings) : Prop where
  answered : h'.answered = h.answered
  taken : ∃ i, response = .device i ∧ Taken code tenantId i h h'

theorem redeemed_handOver {h : Holdings} {pairing : Bool} {hash : String} {i k tenantId : Id}
    {s : Stake} (mine : h.stake i = some s) (platform : s.tenantId = legacyTenant)
    (found : h.code (pairing, k) = some ⟨hash, false⟩) {used : Bool × Id → Bool}
    (consumed : used (pairing, k) = true) :
    Redeemed (pairing, hash) tenantId (.device i) h
      ((h.handOver i tenantId s.version).useUp used) := by
  refine ⟨rfl, i, rfl, ⟨s, mine, platform⟩, ⟨_, put_same _ _ _, rfl⟩, fun j => ?_, k, found, ?_⟩
  · rw [version_put (h := h) (i := i) (s := ⟨tenantId, s.version + 1, false⟩) rfl]
    split
    · next here => rw [here, version_of_stake mine]
    · rfl
  · refine Option.map_eq_some_iff.mpr ⟨_, found, ?_⟩
    rw [consumed]
    rfl

theorem redeemable_safe {Q : Id × Id → (AssetDb → AssetDb) → List AssetLock → AssetDb → Prop}
    {pairing : Bool} {hash : String}
    (next : ∀ t k i, ownership.Rely held db t → t.holdings.code (pairing, k) = some ⟨hash, false⟩ →
      Q (k, i) id (held ++ [⟨if pairing then .pairing k else .claim k, .exclusive⟩]) t) :
    Safe ownership Q (redeemable new pairing hash) id held db := by
  cases pairing with
  | true =>
      simp only [redeemable, if_true, safe_bind, safe_selectFor, safe_require, safe_pure]
      intro t rely _ row found
      obtain ⟨mem, like⟩ := Table.first?_some found
      obtain ⟨named, pending, -⟩ := of_decide_eq_true like
      rw [show pairable new (id t) hash = some row from found]
      refine next t row.id row.terminalId rely ((Table.view_of_find? _ (Table.find?_of_mem mem)).trans ?_)
      rw [PairingCode.code, named, pending]
      rfl
  | false =>
      simp only [redeemable, Bool.false_eq_true, if_false, safe_bind, safe_selectFor, safe_require,
        safe_pure]
      intro t rely _ row found
      obtain ⟨mem, like⟩ := Table.first?_some found
      obtain ⟨named, pending, -⟩ := of_decide_eq_true like
      rw [show claimable new (id t) hash = some row from found]
      refine next t row.id row.terminalId rely ((Table.view_of_find? _ (Table.find?_of_mem mem)).trans ?_)
      rw [DeviceClaim.code, named, pending]
      rfl

theorem store_safe {Q : MerchantStore → (AssetDb → AssetDb) → List AssetLock → AssetDb → Prop}
    {storeId : Option Id} (next : ∀ row t, ownership.Rely held db t → Q row pending held t) :
    Safe ownership Q (store p storeId) pending held db := by
  simp only [store, safe_bind, safe_require, safe_select, safe_ensure, safe_pure]
  intro _ _ t rely _ row _ _
  exact next row t rely

/-- What a claim knows of the device and the code before it writes. -/
structure Claimable (t : OwnedTerminal) (code : Bool × Id) (hash : String) (h : Holdings) : Prop where
  mine : h.stake t.id = some t.stake
  unused : h.code code = some ⟨hash, false⟩

theorem handOver_safe {Q : Unit → (AssetDb → AssetDb) → List AssetLock → AssetDb → Prop}
    {t : OwnedTerminal} {store : MerchantStore} {name : String} {pairing : Bool} {code : Bool × Id}
    {hash : String} (ready : Ready L (Unchanged (Claimable t code hash)) id held db)
    (locked : ⟨.terminal t.id, .exclusive⟩ ∈ L) (unfrozen : t.ownershipFrozen = false)
    (next : ∀ pending held u, Ready L (fun h h' => Claimable t code hash h ∧
      h' = h.handOver t.id p.tenantId t.ownershipVersion) pending held u → Q () pending held u) :
    Safe ownership Q (handOver new p t store name pairing) id held db := by
  simp only [handOver, safe_bind, safe_change, safe_insert]
  intro t₁ rely₁ _ t₂ rely₂ _ t₃ rely₃ inv₃ _
  have begun := ((ready.rely rely₁).append.rely rely₂).append.rely rely₃
  refine next _ _ _ (begun.append.first inv₃ (List.Subset.refl L)
    (fun _ mem => List.mem_append_left _ (begun.locked mem)) ?_)
  intro t₄ u w _ _ _ at_w inv
  obtain ⟨same, claimable⟩ := at_w
  rw [← same] at claimable ⊢
  rw [holdings_handedOver (s := t.stake)]
  · exact ⟨moves_handOver inv locked claimable.mine unfrozen, claimable, rfl⟩
  · exact claimable.mine
  · intro t' same
    rw [OwnedTerminal.stake, OwnedTerminal.stake, Stake.mk.injEq] at same
    rw [OwnedTerminal.stake, same.2.1, same.2.2, unfrozen]
    rfl
  · exact fun _ => rfl
  · rfl
  · rfl
  · exact inv.later claimable.mine

theorem consume_safe {Q : Unit → (AssetDb → AssetDb) → List AssetLock → AssetDb → Prop}
    {pairing : Bool} {k tenantId : Id} {t : OwnedTerminal} {hash : String}
    (locked : ⟨if pairing then .pairing k else .claim k, .exclusive⟩ ∈ L)
    (platform : t.tenantId = legacyTenant)
    (ready : Ready L (fun h h' => Claimable t (pairing, k) hash h ∧
      h' = h.handOver t.id tenantId t.ownershipVersion) pending held db)
    (next : ∀ L' pending held u, L ⊆ L' →
      Ready L' (Redeemed (pairing, hash) tenantId (.device t.id)) pending held u →
        Q () pending held u) :
    Safe ownership Q (consume new p pairing k) pending held db := by
  cases pairing with
  | true =>
      simp only [consume, if_true]
      refine change_safe ready (G := Redeemed (true, hash) tenantId (.device t.id)) (fun v => ?_)
        fun pending held u v ready => next _ _ _ _ (List.subset_append_left _ _) ready
      intro t₁ u w _ _ _ at_w inv
      obtain ⟨claimable, same⟩ := at_w
      have written : ({ w with
          pairings := w.pairings.modify k fun c => { c with status := .claimed } } :
            AssetDb).holdings = w.holdings.useUp fun q => q.1 && decide (q.2 = k) :=
        holdings_withdrawn (fun j => decide (j = k)) (by decide) fun _ => rfl
      refine ⟨(congrArg (Moves _ w.holdings) written).mpr (moves_useUp inv fun q j used => ?_),
        (congrArg (Redeemed (true, hash) tenantId (.device t.id) u.holdings) written).mpr ?_⟩
      · obtain ⟨rfl, here⟩ := Bool.and_eq_true_iff.mp used
        cases of_decide_eq_true here
        exact List.mem_append_left _ locked
      · rw [same]
        exact redeemed_handOver claimable.mine platform claimable.unused (by simp)
  | false =>
      simp only [consume, Bool.false_eq_true, if_false]
      refine change_safe ready (G := Redeemed (false, hash) tenantId (.device t.id)) (fun v => ?_)
        fun pending held u v ready => next _ _ _ _ (List.subset_append_left _ _) ready
      intro t₁ u w _ _ _ at_w inv
      obtain ⟨claimable, same⟩ := at_w
      have written : ({ w with
          claims := w.claims.modify k fun c =>
            { c with consumedAt := some new.now, consumedBy := some p.tenantId } } :
            AssetDb).holdings = w.holdings.useUp fun q => !q.1 && decide (q.2 = k) :=
        holdings_consumed _ fun _ => rfl
      refine ⟨(congrArg (Moves _ w.holdings) written).mpr (moves_useUp inv fun q j used => ?_),
        (congrArg (Redeemed (false, hash) tenantId (.device t.id) u.holdings) written).mpr ?_⟩
      · obtain ⟨off, here⟩ := Bool.and_eq_true_iff.mp used
        cases of_decide_eq_true here
        cases q with
        | true => cases off
        | false => exact List.mem_append_left _ locked
      · rw [same]
        exact redeemed_handOver claimable.mine platform claimable.unused (by simp)

theorem performClaim_safe {data : ClaimData} {code : String} {l : AssetLock} (mem : l ∈ held) :
    Safe ownership
      (fun response pending held t => ∃ L, l ∈ L ∧
        Ready L (Redeemed (data.pairing, settings.tokenHash code) p.tenantId response)
          pending held t)
      (performClaim settings new p data code) id held db := by
  simp only [performClaim, safe_bind]
  refine redeemable_safe fun t₁ k i _ unused => ?_
  simp only [safe_selectFor, safe_require, safe_ensure]
  intro t₂ rely₂ _ t found claimable
  have named : t.id = i := Table.key_of_find? found
  subst named
  rw [show (id t₂).terminals.find? t.id = some t from found]
  have begun : Ready [l, ⟨if data.pairing then .pairing k else .claim k, .exclusive⟩,
        ⟨.terminal t.id, .exclusive⟩]
      (Unchanged (Claimable t (data.pairing, k) (settings.tokenHash code))) id
      (held ++ [⟨if data.pairing then .pairing k else .claim k, .exclusive⟩] ++
        [⟨.terminal t.id, .exclusive⟩]) t₂ := by
    refine ready_start (by simp [mem]) fun u rely _ => ⟨rfl, ?_, ?_⟩
    · exact (stake_kept rely (by simp)).trans (stake_of_find? found)
    · refine (code_kept rely (by simp)).trans ?_
      exact (code_kept rely₂ (by simp)).trans unused
  refine blocking_safe fun b t₃ rely₃ _ => store_safe fun store t₄ rely₄ => ?_
  intro _ name _
  refine handOver_safe ((begun.rely rely₃).rely rely₄) (by simp) claimable.2
    fun pending held u ready => ?_
  refine consume_safe (by simp) claimable.1 ready fun L' pending held u sub ready => ?_
  exact record_safe ready fun pending held u ready => ⟨L', sub (by simp), ready⟩

/-- A request is answered for its key: again with what is stored, or with what it does now. -/
theorem idempotent_safe {Q : AssetResponse → (AssetDb → AssetDb) → List AssetLock → AssetDb → Prop}
    {operation : AssetOperation} {key : Option String} {data : Json}
    {execute : AssetScript AssetResponse} {G : AssetResponse → Holdings → Holdings → Prop}
    (executed : ∀ l held t, l ∈ held → Safe ownership
      (fun response pending held t => ∃ L, l ∈ L ∧ Ready L (G response) pending held t)
      execute id held t)
    (kept : ∀ response h h', G response h h' → h'.answered = h.answered)
    (named : ∀ response h h' text, operation = .unbind text → G response h h' →
      TakesEffect text response h')
    (again : ∀ name ∈ key, ∀ L held t response,
      Ready L (Unchanged fun h => h.answered (p.tenantId, operation, name) = some response) id held t →
        Q response id held t)
    (now : ∀ name ∈ key, ∀ L pending held t response,
      Ready L (fun h h' => h.answered (p.tenantId, operation, name) = none ∧ ∃ m, G response h m ∧
        h' = { m with answered := put m.answered (p.tenantId, operation, name) response })
        pending held t → Q response pending held t) :
    Safe ownership Q (idempotent settings p operation key data execute) id [] db := by
  simp only [idempotent, safe_bind, safe_require, safe_lock, safe_select]
  intro name given t₁ _ _ t₂ _ _
  have given := (Option.filter_eq_some_iff.mp given).1
  have locked : (⟨.operation (p.tenantId, operation, name), .exclusive⟩ : AssetLock) ∈
      ([] : List AssetLock) ++ [⟨.operation (p.tenantId, operation, name), .exclusive⟩] :=
    List.mem_singleton_self _
  cases row : (id t₂).operations.find? (p.tenantId, operation, name) with
  | some o =>
      simp only [safe_bind, safe_ensure, safe_pure]
      intro _
      refine again name given _ _ _ _ (ready_start (List.Subset.refl _) fun u rely _ => ⟨rfl, ?_⟩)
      exact (answer_kept rely locked).trans (Table.view_of_find? _ row)
  | none =>
      simp only [safe_bind]
      have vacant : t₂.holdings.answered (p.tenantId, operation, name) = none :=
        (Table.view_eq_none _).mpr row
      refine Safe.since (Safe.mono ?_ (executed _ _ t₂ locked))
      rintro response pending held t ⟨L, mem, ready⟩ rely sub
      have known : Ready L (fun h h' => h.answered (p.tenantId, operation, name) = none ∧
          G response h h') pending held t := by
        refine ready.learn (List.Subset.refl L) ready.locked fun u rely' wrote => ⟨?_, wrote⟩
        rw [answer_kept rely' mem, answer_kept rely locked, vacant]
      simp only [safe_pure]
      refine insert_safe known (G := fun h h' => h.answered (p.tenantId, operation, name) = none ∧
        ∃ m, G response h m ∧
          h' = { m with answered := put m.answered (p.tenantId, operation, name) response })
        (fun v _ => ?_) fun pending held t ready => now name given _ _ _ _ _ ready
      intro t u w _ _ _ at_w inv
      obtain ⟨vacant, wrote⟩ := at_w
      have free : w.holdings.answered (p.tenantId, operation, name) = none := by
        rw [kept _ _ _ wrote, vacant]
      rw [holdings_operation]
      · refine ⟨moves_answer inv (List.mem_append_left _ mem) free fun text unbind => ?_,
          vacant, _, wrote, rfl⟩
        obtain ⟨i, k, status, version, s, device, answer, _, _, r, there, _, mine⟩ :=
          named _ _ _ text unbind wrote
        exact ⟨k, status, version, r, answer, there, mine ▸ device⟩
      · exact (Table.view_eq_none _).mp free

theorem claim_safe (data : ClaimData) (key : Option String) :
    Safe ownership (Commits ownership (Good settings))
      (perform settings ⟨p, new, .claim data key⟩) id [] db := by
  simp only [perform, claim, safe_bind, safe_require, safe_pure]
  intro code given
  refine idempotent_safe (G := Redeemed (data.pairing, settings.tokenHash code) p.tenantId)
    (fun l held t mem => performClaim_safe mem) (fun _ _ _ redeemed => redeemed.answered)
    (fun response h h' text unbind _ => ?_) (fun name mem L held t response ready => ?_)
    fun name mem L pending held t response ready => ?_
  · cases paired : data.pairing with
    | true => simp [paired] at unbind
    | false => simp [paired] at unbind
  · cases mem
    refine ready.commits fun h h' _ stored => ⟨fun vacant => ?_, fun _ => ?_⟩
    · exact absurd (vacant.symm.trans stored.2) (Option.some_ne_none response).symm
    · rw [stored.1]
      exact sameVersions_refl h
  · cases mem
    refine ready.commits fun h h' _ wrote => ⟨fun _ => ?_, fun stored => absurd wrote.1 stored⟩
    obtain ⟨-, m, ⟨-, i, answer, taken⟩, rfl⟩ := wrote
    rw [given]
    exact ⟨i, answer, taken.before, taken.after, taken.version, taken.used⟩

theorem transfer_safe (text : String) (data : TransferData) (key : Option String) :
    Safe ownership (Commits ownership (Good settings))
      (perform settings ⟨p, new, .transfer text data key⟩) id [] db := by
  simp only [perform, transfer, safe_bind, safe_pure]
  refine idempotent_safe (G := Requested text) (fun l held t mem => requestTransfer_safe mem)
    (fun _ _ _ requested => requested.answered) (fun response h h' text' unbind _ => by cases unbind)
    (fun name mem L held t response ready => ?_) fun name mem L pending held t response ready => ?_
  · exact ready.commits fun h h' _ stored => stored.1 ▸ sameVersions_refl h
  · refine ready.commits fun h h' _ wrote => ?_
    obtain ⟨-, m, requested, rfl⟩ := wrote
    exact requested.versions

/-- What is stored takes effect as long as its transfer is active. -/
theorem standing_iff {h : Holdings} {tenantId : Id} {text name : String} {response : AssetResponse}
    (inv : h.Consistent) (stored : h.answered (tenantId, .unbind text, name) = some response) :
    TakesEffect text response h ↔ Standing (tenantId, .unbind text, name) h := by
  constructor
  · rintro ⟨i, k, status, version, s, -, answer, -, -, r, there, active, -⟩ response' stored'
    cases stored.symm.trans stored'
    exact ⟨k, status, version, r, answer, there, active⟩
  · intro standing
    obtain ⟨k, status, version, r, rfl, there, active⟩ := standing response stored
    obtain ⟨k', status', version', r', answer, there', device⟩ := inv.responses _ _ _ _ stored
    cases answer
    cases there.symm.trans there'
    obtain ⟨s, mine, frozen, -⟩ := inv.tickets k r there active
    exact ⟨r.terminalId, k, status, version, s, device, rfl, mine, frozen, r, there, active, rfl⟩

theorem unbind_safe (text : String) (data : TransferData) (header : Option String) :
    Safe ownership (Commits ownership (Good settings))
      (perform settings ⟨p, new, .unbind text data header⟩) id [] db := by
  simp only [perform, transfer, safe_bind, safe_pure]
  refine idempotent_safe (G := Requested text) (fun l held t mem => requestTransfer_safe mem)
    (fun _ _ _ requested => requested.answered) (fun response h h' text' unbind requested => ?_)
    (fun name mem L held t response ready => ?_) fun name mem L pending held t response ready => ?_
  · cases unbind
    exact requested.effect
  · cases mem
    refine ready.commits fun h h' inv stored => ?_
    obtain ⟨rfl, stored⟩ := stored
    exact ⟨sameVersions_refl _, standing_iff inv stored⟩
  · cases mem
    refine ready.commits fun h h' inv wrote => ?_
    obtain ⟨vacant, m, requested, rfl⟩ := wrote
    refine ⟨requested.versions, fun _ response stored => ?_, fun _ => requested.effect⟩
    exact absurd (vacant.symm.trans stored) (Option.some_ne_none response).symm

theorem perform_safe (r : OwnershipRequest) :
    Safe ownership (Commits ownership (Good settings)) (perform settings r) id [] db := by
  obtain ⟨p, new, operation⟩ := r
  cases operation with
  | issueClaim terminalId => exact issueClaim_safe terminalId
  | claim data key => exact claim_safe data key
  | update text version asked => exact update_safe text version asked
  | transfer text data key => exact transfer_safe text data key
  | unbind text data header => exact unbind_safe text data header
  | transferAction transferId version action => exact transferAction_safe transferId version action
  | createSession serialNumber proof expiresAt => exact createSession_safe serialNumber proof expiresAt
  | register r owned => exact register_safe r owned
  | tend i identityKind lifecycleStatus provisioning =>
      exact tend_safe i identityKind lifecycleStatus provisioning
  | office stores tenants work => exact office_safe stores tenants work

end Requests
end AssetRequests
end CoffeeCloud
