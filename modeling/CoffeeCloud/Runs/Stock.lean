import CoffeeCloud.Effects.StockRequests
import CoffeeCloud.Library.Machine

/-!
The stock book over whole runs. It is the replay of its journal; no request fails on a
check or on a key of its tables; what is on hand was bought or found, less what has
gone; and while nothing turns up that was not bought, the money spent on purchases is
in the stock or written off.
-/
namespace CoffeeCloud
open Library Tx MerchantCosts

/-- A request, or what other services make of the stores and the devices. -/
inductive StockAction where
  | surroundings (stores : Table MerchantStore) (devices : Table OwnedTerminal)
  | newMaterial (p : MerchantPrincipal) (externalId name unit : String) (unitPrecision : Nat)
  | savePurchase (p : MerchantPrincipal) (data : PurchaseData) (key : Option String)
      (purchaseId : Option (Option Id))
  | postPurchase (p : MerchantPrincipal) (purchaseId : Option Id) (data : Json) (now : Time)
  | movement (tenant : TenantProfile) (p : MerchantPrincipal) (data : MovementData)
      (key : Option String) (now : Time)

namespace StockDb
variable (settings : AssetSettings)

def body : StockAction → StockTx Unit
  | .surroundings stores devices => write fun db => { db with stores, devices }
  | .newMaterial p externalId name unit unitPrecision => do
      let _ ← newMaterial p externalId name unit unitPrecision
  | .savePurchase p data key purchaseId => do
      let _ ← savePurchase settings p data key purchaseId
  | .postPurchase p purchaseId data now => do
      let _ ← postPurchase p purchaseId data now
  | .movement tenant p data key now => do
      let _ ← movement settings tenant p data key now

/-- A request that fails leaves no trace. -/
def machine : Machine StockDb StockAction (Except Failure Unit) where
  next db a := ((body settings a).leave db, (body settings a db).map Prod.fst)

variable {settings} {db db' : StockDb}

theorem body_step {a : StockAction} {u : Unit} (h : Ran (body settings a) db u db') :
    BookStep db db' := by
  cases a with
  | surroundings stores devices =>
      rw [body, ran_write] at h
      rw [← h]
      exact .aside ⟨rfl, rfl, rfl, rfl, le_rfl⟩
  | newMaterial p externalId name unit unitPrecision =>
      simp only [body, ran_bind, ran_pure] at h
      obtain ⟨_, db₁, ran, -, rfl⟩ := h
      exact .aside (ran_newMaterial ran)
  | savePurchase p data key purchaseId =>
      simp only [body, ran_bind, ran_pure] at h
      obtain ⟨_, db₁, ran, -, rfl⟩ := h
      exact ran_savePurchase ran
  | postPurchase p purchaseId data now =>
      simp only [body, ran_bind, ran_pure] at h
      obtain ⟨_, db₁, ran, -, rfl⟩ := h
      exact ran_postPurchase ran
  | movement tenant p data key now =>
      simp only [body, ran_bind, ran_pure] at h
      obtain ⟨_, db₁, ran, -, rfl⟩ := h
      exact ran_movement ran

theorem step_book (db : StockDb) (a : StockAction) : BookStep db ((machine settings).step db a) := by
  change BookStep db ((body settings a).leave db)
  unfold leave
  cases ran : body settings a db with
  | error e => exact .aside (Beside.refl db)
  | ok r => exact body_step (u := r.1) ran

/-- What every request keeps: the book is its journal replayed, and sources are used once. -/
structure Kept (db : StockDb) : Prop where
  replayed : ∀ k, bookAt db k = held db.movements.rows k
  sound : ∀ k, (bookAt db k).Sound
  drawn : ∀ m ∈ db.movements.rows, ∀ uuid, m.sourceKey = .movement uuid → uuid < db.drawn
  billed : ∀ m ∈ db.movements.rows, ∀ id index, m.sourceKey = .purchase id index →
    ∃ x ∈ db.purchases.rows.filter Purchase.isPosted, x.id = id
  entered : ∀ e ∈ db.ledger.rows, ∃ uuid < db.drawn, e.sourceKey = .other ("movement:" ++ uuid.repr)

theorem kept_empty : Kept {} where
  replayed _ := rfl
  sound _ := Holding.sound_empty
  drawn _ mem := absurd mem List.not_mem_nil
  billed _ mem := absurd mem List.not_mem_nil
  entered _ mem := absurd mem List.not_mem_nil

namespace Kept

theorem aside (kept : Kept db) (left : Beside db db') : Kept db' := by
  have same : ∀ k, bookAt db' k = bookAt db k := fun k => by
    unfold bookAt
    rw [left.stock]
  refine ⟨fun k => ?_, fun k => ?_, ?_, ?_, ?_⟩
  · rw [same, left.movements]
    exact kept.replayed k
  · rw [same]
    exact kept.sound k
  · rw [left.movements]
    exact fun m mem uuid source => (kept.drawn m mem uuid source).trans_le left.drawn
  · rw [left.movements, left.posted]
    exact kept.billed
  · rw [left.ledger]
    intro e mem
    obtain ⟨uuid, below, key⟩ := kept.entered e mem
    exact ⟨uuid, below.trans_le left.drawn, key⟩

end Kept

/-- A movement as requests make them: it moves something, and brings no negative cost. -/
structure Fair (m : Movement) : Prop where
  moves : m.quantity ≠ 0
  cost_nonneg : 0 < m.quantity → ∀ a, m.amountMinor = some a → 0 ≤ a

theorem sound_entered {m : Movement} (entered : Journaled m db db') (fair : Fair m)
    (sound : ∀ k, (bookAt db k).Sound) (k : StockKey) : (bookAt db' k).Sound := by
  rw [entered.bookAt fair.moves (sound m.place)]
  split
  · rename_i here
    rw [here]
    exact entered.sound_enter fair.moves (sound m.place) fair.cost_nonneg
  · exact sound k

/-- One movement keeps the book the replay of its journal. -/
theorem replayed_entered {m : Movement} (entered : Journaled m db db') (fair : Fair m)
    (replayed : ∀ k, bookAt db k = held db.movements.rows k) (sound : ∀ k, (bookAt db k).Sound) :
    (∀ k, bookAt db' k = held db'.movements.rows k) ∧ ∀ k, (bookAt db' k).Sound := by
  refine ⟨fun k => ?_, sound_entered entered fair sound⟩
  rw [entered.bookAt fair.moves (sound m.place), entered.rows_movements, held_append, replayed]

theorem replayed_entries {ms : List Movement} (entries : Entries ms db db')
    (fair : ∀ m ∈ ms, Fair m) (replayed : ∀ k, bookAt db k = held db.movements.rows k)
    (sound : ∀ k, (bookAt db k).Sound) :
    (∀ k, bookAt db' k = held db'.movements.rows k) ∧ ∀ k, (bookAt db' k).Sound := by
  induction entries with
  | nil db => exact ⟨replayed, sound⟩
  | cons first rest ih =>
      obtain ⟨replayed, sound⟩ :=
        replayed_entered first (fair _ List.mem_cons_self) replayed sound
      exact ih (fun m mem => fair m (List.mem_cons_of_mem _ mem)) replayed sound

theorem rows_entries {ms : List Movement} (entries : Entries ms db db') :
    db'.movements.rows = db.movements.rows ++ ms := by
  induction entries with
  | nil db => exact (List.append_nil _).symm
  | cons first rest ih => rw [ih, first.rows_movements, List.append_assoc, List.singleton_append]

/-- Movements touch the stock and the journal only. -/
theorem entries_rest {ms : List Movement} (entries : Entries ms db db') :
    db'.purchases = db.purchases ∧ db'.ledger = db.ledger ∧ db'.drawn = db.drawn := by
  induction entries with
  | nil db => exact ⟨rfl, rfl, rfl⟩
  | cons first rest ih =>
      rw [first.result] at ih
      exact ih

theorem fair_bought {x : Purchase} {lines : List PurchaseLine} {ms : List Movement}
    (bought : List.Forall₂ (Bought x) lines ms) : ∀ m ∈ ms, Fair m := by
  induction bought with
  | nil => exact fun _ mem => absurd mem List.not_mem_nil
  | cons first rest ih =>
      rename_i line m lines ms
      intro m' mem
      cases List.mem_cons.mp mem with
      | inr later => exact ih m' later
      | inl here =>
          obtain ⟨index, shaped⟩ := first.shaped
          rw [here]
          refine ⟨?_, fun _ a amount => ?_⟩
          · rw [shaped.quantity]
            exact line.quantityPositive.ne'
          · rw [first.amount] at amount
            rw [← Option.some.inj amount]
            exact line.costPositive.le

theorem sources_bought {x : Purchase} {lines : List PurchaseLine} {ms : List Movement}
    (bought : List.Forall₂ (Bought x) lines ms) :
    ∀ m ∈ ms, ∃ index, m.sourceKey = .purchase x.id index := by
  induction bought with
  | nil => exact fun _ mem => absurd mem List.not_mem_nil
  | cons first rest ih =>
      intro m' mem
      cases List.mem_cons.mp mem with
      | inr later => exact ih m' later
      | inl here =>
          obtain ⟨index, shaped⟩ := first.shaped
          exact ⟨index, here ▸ shaped.sourceKey⟩

/-- What comes in is carried at the cost that was taken out. -/
theorem fair_carried {uuid : Nat} {out into : Movement} (carried : Carried uuid out into)
    (sound : ∀ k, (bookAt db k).Sound) (entered : Journaled out db db') : Fair out ∧ Fair into := by
  have negative := carried.outgoing
  have quantity := carried.quantity
  refine ⟨⟨negative.ne, fun pos => absurd pos (not_lt.mpr negative.le)⟩,
    ⟨by omega, fun _ a amount => ?_⟩⟩
  rw [carried.amount] at amount
  obtain ⟨v, -, nonneg, -⟩ := entered.charged negative (sound _) amount
  exact nonneg

namespace Kept

theorem bought {x : Purchase} {ms : List Movement} {db₁ db₂ : StockDb} {now : Time}
    (kept : Kept db) (found : db.purchases.find? x.id = some x)
    (lines : List.Forall₂ (Bought x) x.lines ms) (entries : Entries ms db db₁)
    (posted : db₂ = { db₁ with
      purchases := db₁.purchases.modify x.id (Purchase.post now) (Purchase.key_post now) }) :
    Kept db₂ := by
  obtain ⟨replayed, sound⟩ :=
    replayed_entries entries (fair_bought lines) kept.replayed kept.sound
  obtain ⟨purchases, ledger, drawn⟩ := entries_rest entries
  have rows := rows_entries entries
  have there : db₁.purchases.find? x.id = some x := by rw [purchases]; exact found
  have bill : x.post now ∈ db₂.purchases.rows.filter Purchase.isPosted := by
    refine List.mem_filter.mpr ⟨Table.mem_of_find? (k := x.id) ?_, rfl⟩
    rw [posted, Table.find?_modify, if_pos rfl, there]
    rfl
  have stays : ∀ y ∈ db.purchases.rows.filter Purchase.isPosted,
      ∃ z ∈ db₂.purchases.rows.filter Purchase.isPosted, z.id = y.id := by
    intro y mem
    obtain ⟨mem, status⟩ := List.mem_filter.mp mem
    have known : db₁.purchases.find? y.id = some y := by
      rw [purchases]
      exact Table.find?_of_mem mem
    by_cases same : y.id = x.id
    · exact ⟨x.post now, bill, same.symm⟩
    · refine ⟨y, List.mem_filter.mpr ⟨Table.mem_of_find? (k := y.id) ?_, status⟩, rfl⟩
      rw [posted, Table.find?_modify, if_neg same, known]
  rw [posted] at bill stays ⊢
  refine ⟨replayed, sound, fun m mem uuid source => ?_, fun m mem id index source => ?_,
    fun e mem => ?_⟩
  · rw [rows] at mem
    cases List.mem_append.mp mem with
    | inl old => exact (kept.drawn m old uuid source).trans_le drawn.ge
    | inr new =>
        obtain ⟨index, other⟩ := sources_bought lines m new
        rw [source] at other
        cases other
  · rw [rows] at mem
    cases List.mem_append.mp mem with
    | inl old =>
        obtain ⟨y, there, rfl⟩ := kept.billed m old id index source
        exact stays y there
    | inr new =>
        obtain ⟨index', same⟩ := sources_bought lines m new
        rw [source] at same
        cases same
        exact ⟨x.post now, bill, rfl⟩
  · rw [ledger] at mem
    obtain ⟨uuid, below, key⟩ := kept.entered e mem
    exact ⟨uuid, below.trans_le drawn.ge, key⟩

/-- Movements of a request that drew its source. -/
theorem moved {ms : List Movement} {uuid : Nat} (kept : Kept db) (entries : Entries ms db db')
    (fair : ∀ m ∈ ms, Fair m) (below : uuid < db.drawn)
    (sources : ∀ m ∈ ms, m.sourceKey = .movement uuid) : Kept db' := by
  obtain ⟨replayed, sound⟩ := replayed_entries entries fair kept.replayed kept.sound
  obtain ⟨purchases, ledger, drawn⟩ := entries_rest entries
  have rows := rows_entries entries
  refine ⟨replayed, sound, fun m mem uuid' source => ?_, fun m mem id index source => ?_,
    fun e mem => ?_⟩
  · rw [rows] at mem
    rw [drawn]
    cases List.mem_append.mp mem with
    | inl old => exact kept.drawn m old uuid' source
    | inr new =>
        have same := (sources m new).symm.trans source
        cases same
        exact below
  · rw [rows] at mem
    rw [purchases]
    cases List.mem_append.mp mem with
    | inl old => exact kept.billed m old id index source
    | inr new =>
        have other := (sources m new).symm.trans source
        cases other
  · rw [ledger] at mem
    rw [drawn]
    exact kept.entered e mem

theorem writtenOff {uuid : Nat} {m : Movement} {entry : LedgerEntry} (kept : Kept db)
    (off : WritesOff uuid m entry) (below : uuid < db.drawn)
    (written : db' = { db with ledger := db.ledger.insert entry }) : Kept db' := by
  rw [written]
  refine ⟨kept.replayed, kept.sound, kept.drawn, kept.billed, fun e mem => ?_⟩
  have found := Table.find?_of_mem mem
  obtain old | ⟨rfl, -⟩ := Table.find?_insert_cases found
  · exact kept.entered e (Table.mem_of_find? old)
  · exact ⟨uuid, below, off.sourceKey⟩

theorem step (kept : Kept db) (step : BookStep db db') : Kept db' := by
  cases step with
  | aside left => exact kept.aside left
  | bought found draft lines entries posted after =>
      exact (kept.bought found lines entries posted).aside after
  | carried before fresh carried entries after =>
      have kept := kept.aside before
      have fair := by
        cases entries with
        | cons first rest => exact fair_carried carried kept.sound first
      refine (kept.moved entries ?_ fresh.2 ?_).aside after
      · exact List.forall_mem_cons.mpr ⟨fair.1, List.forall_mem_singleton.mpr fair.2⟩
      · exact List.forall_mem_cons.mpr
          ⟨carried.sources.1, List.forall_mem_singleton.mpr carried.sources.2⟩
  | found before fresh adjusted into entered after =>
      have fair : Fair _ := ⟨adjusted.moves, fun pos a amount => by
        rw [adjusted.unknown pos] at amount
        cases amount⟩
      refine ((kept.aside before).moved (.cons entered (.nil _)) ?_ fresh.2 ?_).aside after
      · exact List.forall_mem_singleton.mpr fair
      · exact List.forall_mem_singleton.mpr adjusted.source
  | gone before fresh adjusted out entered off written after =>
      have fair : Fair _ := ⟨adjusted.moves, fun pos => absurd pos (not_lt.mpr out.le)⟩
      have entries := Entries.cons entered (.nil _)
      have kept := (kept.aside before).moved entries (List.forall_mem_singleton.mpr fair) fresh.2
        (List.forall_mem_singleton.mpr adjusted.source)
      refine (kept.writtenOff off ?_ written).aside after
      rw [(entries_rest entries).2.2]
      exact fresh.2

theorem run (settings : AssetSettings) (as : List StockAction) :
    Kept ((machine settings).run {} as) :=
  Machine.Reachable.invariant (M := machine settings) ⟨as, rfl⟩ kept_empty
    fun _ a kept => kept.step (step_book _ a)

end Kept

end StockDb
end CoffeeCloud
