import CoffeeCloud.Runs.Stock

/-!
The accounts of the stock book. What a tenant has of a material is what its posted
purchases brought, and what waste and adjustments made of that; and as long as no
adjustment adds goods of no known cost, all that was spent on purchases is in the
stock or has been written off in the ledger.
-/
namespace CoffeeCloud
open Library Tx MerchantCosts

/-- What a purchase brings of a material. -/
def Purchase.brings (i : Id) (x : Purchase) : Int :=
  ((x.lines.filter fun l => l.materialId = i).map (·.quantity)).sum

/-- `totalCostMinor` of a purchase. -/
def Purchase.cost (x : Purchase) : Int := (x.lines.map (·.totalCostMinor)).sum

namespace StockDb

def ofMaterial (t i : Id) (k : StockKey) : Bool := k.1 = t ∧ k.2.1 = i

def billedTo (t : Id) (x : Purchase) : Bool := x.isPosted && decide (x.tenantId = t)

/-- What a tenant has of a material. -/
def onHand (db : StockDb) (t i : Id) : Int :=
  db.stock.sumWhere (fun r => ofMaterial t i (Keyed.key r)) (·.quantity)

def bought (db : StockDb) (t i : Id) : Int := db.purchases.sumWhere (billedTo t) (Purchase.brings i)

def corrects (t i : Id) (m : Movement) : Bool :=
  ofMaterial t i m.place && decide (m.type = .waste ∨ m.type = .adjustment)

/-- What waste took and adjustments added or took. -/
def corrected (db : StockDb) (t i : Id) : Int := db.movements.sumWhere (corrects t i) (·.quantity)

/-- What the stock of a tenant is worth, as far as that is known. -/
def worth (db : StockDb) (t : Id) : Int :=
  db.stock.sumWhere (fun r => decide ((Keyed.key r).1 = t)) fun r => r.valueMinor.getD 0

def spent (db : StockDb) (t : Id) : Int := db.purchases.sumWhere (billedTo t) Purchase.cost

def writtenOff (db : StockDb) (t : Id) : Int :=
  db.ledger.sumWhere (fun e => e.tenantId = t ∧ e.kind = .waste) fun e => e.amountMinor.getD 0

/-- An adjustment has added goods. -/
def Surplus (db : StockDb) (t : Id) : Prop :=
  ∃ m ∈ db.movements.rows, m.tenantId = t ∧ m.type = .adjustment ∧ 0 < m.quantity

variable {db db' : StockDb} {t i : Id}

section Untouched

theorem sumWhere_posted {t' : Id} (left : Beside db db') (f : Purchase → Int) :
    db'.purchases.sumWhere (billedTo t') f = db.purchases.sumWhere (billedTo t') f := by
  have split : ∀ rows : List Purchase, rows.filter (billedTo t') =
      (rows.filter Purchase.isPosted).filter fun x => decide (x.tenantId = t') := fun rows => by
    rw [List.filter_filter]
    exact List.filter_congr fun x _ => Bool.and_comm _ _
  unfold Table.sumWhere
  rw [split, split, left.posted]

theorem onHand_beside (left : Beside db db') : db'.onHand t i = db.onHand t i := by
  rw [onHand, left.stock, onHand]

theorem corrected_beside (left : Beside db db') : db'.corrected t i = db.corrected t i := by
  rw [corrected, left.movements, corrected]

end Untouched

section Quantities
variable {m : Movement}

theorem onHand_journaled (journaled : Journaled m db db') :
    db'.onHand t i = db.onHand t i + if ofMaterial t i m.place then m.quantity else 0 := by
  have sum := journaled.sumWhere_stock (ofMaterial t i) (·.quantity) rfl
  unfold onHand
  have settled : (settledRow db m).quantity = (found db m).quantity + m.quantity := rfl
  rw [settled] at sum
  by_cases own : ofMaterial t i m.place = true
  · simp only [own, if_true] at sum ⊢
    omega
  · rw [if_neg own, if_neg own] at sum
    rw [if_neg own]
    omega

theorem corrected_journaled (journaled : Journaled m db db') :
    db'.corrected t i = db.corrected t i + if corrects t i m then m.quantity else 0 := by
  unfold corrected
  rw [journaled.result]
  exact Table.sumWhere_insert _ _ _ _ journaled.fresh

/-- What the lines of a purchase bring, they bring its tenant, and correct nothing. -/
theorem onHand_bought {x : Purchase} {lines : List PurchaseLine} {ms : List Movement}
    (each : List.Forall₂ (Bought x) lines ms) (entries : Entries ms db db') :
    db'.onHand t i = db.onHand t i + (if x.tenantId = t then
        ((lines.filter fun l => l.materialId = i).map (·.quantity)).sum else 0) ∧
      db'.corrected t i = db.corrected t i := by
  induction each generalizing db with
  | nil =>
      cases entries
      simp
  | cons first rest ih =>
      rename_i line m lines ms
      cases entries with
      | cons entered entries =>
      obtain ⟨quantity, correction⟩ := ih entries
      obtain ⟨index, shaped⟩ := first.shaped
      rw [quantity, correction, onHand_journaled entered, corrected_journaled entered]
      have place : ofMaterial t i m.place = decide (x.tenantId = t ∧ line.materialId = i) := by
        rw [ofMaterial, Movement.place, shaped.tenantId, shaped.materialId]
      have plain : corrects t i m = false := by simp [corrects, shaped.type]
      rw [place, plain, shaped.quantity]
      constructor
      · by_cases own : x.tenantId = t <;> by_cases same : line.materialId = i <;>
          simp [own, same, add_assoc]
      · simp

theorem bought_posted {x : Purchase} {now : Time} (known : db.purchases.find? x.id = some x)
    (draft : x.status = .draft)
    (posted : db' = { db with
      purchases := db.purchases.modify x.id (Purchase.post now) (Purchase.key_post now) })
    (f : Purchase → Int) (same : f (x.post now) = f x) :
    db'.purchases.sumWhere (billedTo t) f =
      db.purchases.sumWhere (billedTo t) f + if x.tenantId = t then f x else 0 := by
  have sum := Table.sumWhere_modify (billedTo t) f (Purchase.key_post now) known
  have before : billedTo t x = false := by simp [billedTo, Purchase.isPosted, draft]
  have after : billedTo t (x.post now) = decide (x.tenantId = t) := rfl
  rw [before, after, same] at sum
  rw [posted]
  simpa using sum

/-- What is on hand beyond what was bought and corrected. -/
def imbalance (db : StockDb) (t i : Id) : Int := db.onHand t i - db.bought t i - db.corrected t i

theorem imbalance_beside (left : Beside db db') : db'.imbalance t i = db.imbalance t i := by
  rw [imbalance, onHand_beside left, corrected_beside left, bought, sumWhere_posted left]
  rfl

theorem imbalance_journaled (journaled : Journaled m db db') :
    db'.imbalance t i = db.imbalance t i
      + if ofMaterial t i m.place && !corrects t i m then m.quantity else 0 := by
  have purchases : db'.bought t i = db.bought t i := by
    rw [journaled.result]
    rfl
  rw [imbalance, onHand_journaled journaled, corrected_journaled journaled, purchases, imbalance]
  cases own : ofMaterial t i m.place with
  | false => simp [corrects, own]
  | true => cases corrects t i m <;> simp <;> omega

/-- A correction is one of its place. -/
theorem corrects_of_type (type : m.type = .waste ∨ m.type = .adjustment) :
    corrects t i m = ofMaterial t i m.place := by
  simp [corrects, type]

theorem imbalance_carried {uuid : Nat} {out into : Movement} (carried : Carried uuid out into)
    (entries : Entries [out, into] db db') : db'.imbalance t i = db.imbalance t i := by
  cases entries with
  | cons first entries =>
  cases entries with
  | cons second entries =>
  cases entries
  have place : ofMaterial t i into.place = ofMaterial t i out.place := by
    rw [ofMaterial, ofMaterial, Movement.place, carried.tenantId, carried.materialId]
    rfl
  have arrives : corrects t i into = false := by
    cases carried.types.2 with
    | inl type => simp [corrects, type]
    | inr type => simp [corrects, type]
  have leaves : corrects t i out = false := by
    cases carried.types.2 with
    | inl type => simp [corrects, carried.types.1, type]
    | inr type => simp [corrects, carried.types.1, type]
  rw [imbalance_journaled second, imbalance_journaled first, place, arrives, leaves, carried.quantity]
  cases ofMaterial t i out.place <;> simp

theorem imbalance_corrected (type : m.type = .waste ∨ m.type = .adjustment)
    (journaled : Journaled m db db') : db'.imbalance t i = db.imbalance t i := by
  rw [imbalance_journaled journaled, corrects_of_type type]
  cases ofMaterial t i m.place <;> simp

theorem imbalance_bought {db₁ : StockDb} {x : Purchase} {ms : List Movement} {now : Time}
    (known : db.purchases.find? x.id = some x) (draft : x.status = .draft)
    (lines : List.Forall₂ (Bought x) x.lines ms) (entries : Entries ms db db₁)
    (posted : db' = { db₁ with
      purchases := db₁.purchases.modify x.id (Purchase.post now) (Purchase.key_post now) }) :
    db'.imbalance t i = db.imbalance t i := by
  obtain ⟨quantity, correction⟩ := onHand_bought (t := t) (i := i) lines entries
  have purchases := (entries_rest entries).1
  have bill : db'.bought t i = db₁.bought t i + if x.tenantId = t then x.brings i else 0 :=
    bought_posted (by rw [purchases]; exact known) draft posted (Purchase.brings i) rfl
  have stocked : db'.onHand t i = db₁.onHand t i := by
    rw [posted]
    rfl
  have corrections : db'.corrected t i = db₁.corrected t i := by
    rw [posted]
    rfl
  have before : db₁.bought t i = db.bought t i := by rw [bought, purchases, bought]
  rw [imbalance, stocked, quantity, corrections, correction, bill, before, imbalance, Purchase.brings]
  omega

theorem imbalance_step (step : BookStep db db') : db'.imbalance t i = db.imbalance t i := by
  cases step with
  | aside left => exact imbalance_beside left
  | bought known draft lines entries posted after =>
      rw [imbalance_beside after, imbalance_bought known draft lines entries posted]
  | carried before fresh carried entries after =>
      rw [imbalance_beside after, imbalance_carried carried entries, imbalance_beside before]
  | found before fresh adjusted into journaled after =>
      rw [imbalance_beside after, imbalance_corrected adjusted.corrects journaled,
        imbalance_beside before]
  | gone before fresh adjusted out journaled off written after =>
      rw [imbalance_beside after, written, ← imbalance_beside before,
        ← imbalance_corrected adjusted.corrects journaled]
      rfl

end Quantities

section Values
variable {m : Movement}

/-- What every place of a tenant holds is of known value. -/
def Valued (db : StockDb) (t : Id) : Prop := ∀ k : StockKey, k.1 = t → (bookAt db k).value.isSome

theorem value_enter {h : Holding} {v : Int} (known : h.value = some v)
    (paid : m.amountMinor.isSome)
    (emptied : h.quantity + m.quantity = 0 → v + m.worth.getD 0 = 0) :
    (h.enter m).value = some (v + m.worth.getD 0) := by
  obtain ⟨a, amount⟩ := Option.isSome_iff_exists.mp paid
  rw [Holding.enter]
  by_cases nothing : h.quantity + m.quantity = 0
  · rw [emptied nothing]
    exact if_pos nothing
  · simp [nothing, known, Movement.worth, amount]

/-- Where every value is known, a movement moves the worth of its place by its own. -/
theorem valued_journaled (entered : Journaled m db db') (fair : Fair m)
    (sound : ∀ k, (bookAt db k).Sound) (valued : Valued db t)
    (paid : m.tenantId = t → 0 < m.quantity → m.amountMinor.isSome) :
    Valued db' t ∧ (m.tenantId = t → m.amountMinor.isSome) ∧
      db'.worth t = db.worth t + if m.tenantId = t then m.worth.getD 0 else 0 := by
  have book := entered.bookAt fair.moves (sound m.place)
  have row := entered.sumWhere_stock (fun k => decide (k.1 = t)) (fun r => r.valueMinor.getD 0) rfl
  change db'.worth t + _ = db.worth t + _ at row
  have remaining := weigh_remaining entered.enough fair.moves
    (by rw [found_holding]; exact sound _) entered.cost
  by_cases own : m.tenantId = t
  · obtain ⟨v, known⟩ := Option.isSome_iff_exists.mp (valued m.place own)
    have holding : (found db m).valueMinor = some v := by
      rw [← known, ← found_holding]
      rfl
    have amount : m.amountMinor.isSome := by
      cases lt_or_gt_of_ne fair.moves with
      | inr into => exact paid own into
      | inl out =>
          have stocked : (found db m).quantity ≠ 0 := by
            have enough := entered.enough
            omega
          rw [entered.cost]
          by_cases emptied : (found db m).quantity + m.quantity = 0 <;>
            simp [weigh, out, emptied, stocked, holding]
    have closed : (found db m).holding.quantity + m.quantity = 0 → v + m.worth.getD 0 = 0 := by
      intro emptied
      have out : m.quantity < 0 := by
        have before : 0 ≤ (found db m).holding.quantity := by
          rw [found_holding]
          exact (sound _).nonneg
        have moves := fair.moves
        omega
      have all : m.amountMinor = some v := by
        rw [entered.cost, ← holding]
        simp only [weigh, out, if_true]
        exact if_pos emptied
      simp [Movement.worth, all, out]
    have settled : (settledRow db m).valueMinor = some (v + m.worth.getD 0) :=
      remaining.trans (value_enter holding amount closed)
    refine ⟨fun k there => ?_, fun _ => amount, ?_⟩
    · rw [book]
      split
      · rename_i here
        rw [here, ← found_holding, value_enter holding amount closed]
        rfl
      · exact valued k there
    · have place : m.place.1 = t := own
      simp only [place, decide_true, if_true, holding, settled, Option.getD_some] at row
      rw [if_pos own]
      omega
  · have place : ¬ m.place.1 = t := own
    refine ⟨fun k there => ?_, fun yes => absurd yes own, ?_⟩
    · have apart : k ≠ m.place := by
        intro here
        rw [here] at there
        exact place there
      rw [book, if_neg apart]
      exact valued k there
    · simp only [place, decide_false, Bool.false_eq_true, if_false] at row
      rw [if_neg own]
      omega

/-- The lines of a purchase are worth to its tenant what they cost. -/
theorem valued_bought {x : Purchase} {lines : List PurchaseLine} {ms : List Movement}
    (each : List.Forall₂ (Bought x) lines ms) (entries : Entries ms db db')
    (replayed : ∀ k, bookAt db k = held db.movements.rows k) (sound : ∀ k, (bookAt db k).Sound)
    (valued : Valued db t) :
    Valued db' t ∧ db'.worth t = db.worth t +
      if x.tenantId = t then (lines.map (·.totalCostMinor)).sum else 0 := by
  induction each generalizing db with
  | nil =>
      cases entries
      exact ⟨valued, by simp⟩
  | cons first rest ih =>
      rename_i line m lines ms
      have fair : Fair m := fair_bought (.cons first rest) m List.mem_cons_self
      cases entries with
      | cons entered entries =>
      obtain ⟨index, shaped⟩ := first.shaped
      have paid : m.amountMinor.isSome := by
        rw [first.amount]
        rfl
      obtain ⟨valued, -, worth⟩ := valued_journaled entered fair sound valued fun _ _ => paid
      obtain ⟨replayed, sound⟩ := replayed_entered entered fair replayed sound
      obtain ⟨valued, later⟩ := ih entries replayed sound valued
      have kept : ¬ m.quantity < 0 := by
        have pos := line.quantityPositive
        rw [shaped.quantity]
        omega
      have brings : m.worth.getD 0 = line.totalCostMinor := by
        simp [Movement.worth, first.amount, kept]
      refine ⟨valued, ?_⟩
      rw [later, worth, shaped.tenantId, brings, List.map_cons, List.sum_cons]
      split <;> omega

theorem not_surplus_journaled (entered : Journaled m db db') (none : ¬ Surplus db' t) :
    ¬ Surplus db t ∧ ¬ (m.tenantId = t ∧ m.type = .adjustment ∧ 0 < m.quantity) := by
  have rows := entered.rows_movements
  constructor
  · intro some
    obtain ⟨m', mem, surplus⟩ := some
    exact none ⟨m', by rw [rows]; exact List.mem_append_left _ mem, surplus⟩
  · intro surplus
    exact none ⟨m, by rw [rows]; exact List.mem_append_right _ List.mem_cons_self, surplus⟩

theorem not_surplus_entries {ms : List Movement} (entries : Entries ms db db')
    (none : ¬ Surplus db' t) : ¬ Surplus db t := by
  induction entries with
  | nil db => exact none
  | cons first rest ih => exact (not_surplus_journaled first (ih none)).1

/-- All that was spent is in the stock or written off. -/
structure Accounted (db : StockDb) (t : Id) : Prop where
  valued : Valued db t
  balance : db.worth t + db.writtenOff t = db.spent t

theorem accounted_empty : Accounted {} t := ⟨fun _ _ => rfl, rfl⟩

theorem accounted_beside (left : Beside db db') (accounted : Accounted db t) :
    Accounted db' t := by
  refine ⟨fun k own => ?_, ?_⟩
  · rw [bookAt, left.stock]
    exact accounted.valued k own
  · rw [spent, sumWhere_posted left, worth, left.stock, writtenOff, left.ledger]
    exact accounted.balance

theorem surplus_beside (left : Beside db db') : Surplus db' t ↔ Surplus db t := by
  rw [Surplus, left.movements, Surplus]

theorem accounted_bought {db₁ : StockDb} {x : Purchase} {ms : List Movement} {now : Time}
    (kept : Kept db) (known : db.purchases.find? x.id = some x) (draft : x.status = .draft)
    (lines : List.Forall₂ (Bought x) x.lines ms) (entries : Entries ms db db₁)
    (posted : db' = { db₁ with
      purchases := db₁.purchases.modify x.id (Purchase.post now) (Purchase.key_post now) })
    (accounted : Accounted db t) : Accounted db' t := by
  obtain ⟨valued, worth⟩ := valued_bought (t := t) lines entries kept.replayed kept.sound accounted.valued
  obtain ⟨purchases, ledger, -⟩ := entries_rest entries
  have bill : db'.spent t = db₁.spent t + if x.tenantId = t then x.cost else 0 :=
    bought_posted (by rw [purchases]; exact known) draft posted Purchase.cost rfl
  have before : db₁.spent t = db.spent t := by rw [spent, purchases, spent]
  have stocked : db'.worth t = db₁.worth t := by
    rw [posted]
    rfl
  have off : db'.writtenOff t = db.writtenOff t := by
    rw [posted, writtenOff, ledger]
    rfl
  have balance := accounted.balance
  refine ⟨?_, ?_⟩
  · rw [posted]
    exact valued
  · rw [bill, before, stocked, worth, off, ← balance, Purchase.cost]
    omega

/-- What is carried is worth at the one place what it was worth at the other. -/
theorem accounted_carried {uuid : Nat} {out into : Movement} (kept : Kept db)
    (carried : Carried uuid out into) (entries : Entries [out, into] db db')
    (accounted : Accounted db t) : Accounted db' t := by
  obtain ⟨-, ledger, -⟩ := entries_rest entries
  have purchases := (entries_rest entries).1
  cases entries with
  | cons first entries =>
  cases entries with
  | cons second entries =>
  cases entries
  have fair := fair_carried carried kept.sound first
  obtain ⟨valued, paid, left⟩ := valued_journaled (t := t) first fair.1 kept.sound accounted.valued
    fun _ into => absurd into (not_lt.mpr carried.outgoing.le)
  obtain ⟨-, sound⟩ := replayed_entered first fair.1 kept.replayed kept.sound
  obtain ⟨valued, -, arrived⟩ := valued_journaled (t := t) second fair.2 sound valued fun own _ => by
    rw [carried.amount]
    exact paid (carried.tenantId ▸ own)
  have quantity := carried.quantity
  have outgoing := carried.outgoing
  have opposite : into.worth.getD 0 = -out.worth.getD 0 := by
    have comes : ¬ into.quantity < 0 := by omega
    rw [Movement.worth, Movement.worth, carried.amount]
    cases out.amountMinor <;> simp [outgoing, comes]
  refine ⟨valued, ?_⟩
  rw [arrived, left, carried.tenantId, opposite, writtenOff, ledger, spent, purchases]
  have balance := accounted.balance
  rw [writtenOff, spent] at balance
  split <;> omega

/-- Goods that turn up at another tenant's place. -/
theorem accounted_found {uuid : Nat} (kept : Kept db) (adjusted : Adjusted uuid m)
    (into : 0 < m.quantity) (entered : Journaled m db db')
    (elsewhere : ¬ (m.tenantId = t ∧ m.type = .adjustment ∧ 0 < m.quantity))
    (accounted : Accounted db t) : Accounted db' t := by
  have type : m.type = .adjustment := by
    cases adjusted.type with
    | inl waste => exact absurd into (not_lt.mpr waste.2.le)
    | inr type => exact type
  have other : m.tenantId ≠ t := fun own => elsewhere ⟨own, type, into⟩
  have fair : Fair m := ⟨adjusted.moves, fun _ a amount => by
    rw [adjusted.unknown into] at amount
    cases amount⟩
  obtain ⟨purchases, ledger, -⟩ := entries_rest (.cons entered (.nil _))
  obtain ⟨valued, -, worth⟩ := valued_journaled entered fair kept.sound accounted.valued
    fun own => absurd own other
  refine ⟨valued, ?_⟩
  rw [worth, if_neg other, writtenOff, ledger, spent, purchases, Int.add_zero]
  exact accounted.balance

/-- What was written off, once a request has written off what its movement took. -/
theorem writtenOff_insert {uuid : Nat} {entry : LedgerEntry} (off : WritesOff uuid m entry)
    (fresh : ∀ e ∈ db.ledger.rows, ∃ n < uuid, e.sourceKey = .other ("movement:" ++ n.repr)) :
    StockDb.writtenOff { db with ledger := db.ledger.insert entry } t =
      db.writtenOff t + if m.tenantId = t then m.amountMinor.getD 0 else 0 := by
  have free : db.ledger.find? (Keyed.key entry) = none := by
    cases taken : db.ledger.find? (Keyed.key entry) with
    | none => rfl
    | some old =>
        obtain ⟨n, below, key⟩ := fresh old (Table.mem_of_find? taken)
        have same : old.sourceKey = entry.sourceKey := congrArg Prod.snd (Table.key_of_find? taken)
        rw [key, off.sourceKey, SourceKey.other.injEq, String.append_right_inj] at same
        have number := Nat.repr_injective same
        omega
  have sum := Table.sumWhere_insert db.ledger entry (fun e => e.tenantId = t ∧ e.kind = .waste)
    (fun e => e.amountMinor.getD 0) free
  rw [off.tenantId, off.kind, off.amount] at sum
  simpa [StockDb.writtenOff] using sum

/-- What is taken away is written off at what it was worth. -/
theorem accounted_gone {db₁ : StockDb} {uuid : Nat} {entry : LedgerEntry}
    (sound : ∀ k, (bookAt db k).Sound)
    (fresh : ∀ e ∈ db.ledger.rows, ∃ n < uuid, e.sourceKey = .other ("movement:" ++ n.repr))
    (out : m.quantity < 0) (entered : Journaled m db db₁) (off : WritesOff uuid m entry)
    (written : db' = { db₁ with ledger := db₁.ledger.insert entry })
    (accounted : Accounted db t) : Accounted db' t := by
  obtain ⟨purchases, ledger, -⟩ := entries_rest (.cons entered (.nil _))
  have fair : Fair m := ⟨out.ne, fun into => absurd into (not_lt.mpr out.le)⟩
  obtain ⟨valued, paid, worth⟩ := valued_journaled entered fair sound accounted.valued
    fun _ into => absurd into (not_lt.mpr out.le)
  rw [← ledger] at fresh
  have more := writtenOff_insert (t := t) off fresh
  have kept : db₁.writtenOff t = db.writtenOff t := by rw [StockDb.writtenOff, ledger, StockDb.writtenOff]
  have bills : db₁.spent t = db.spent t := by rw [spent, purchases, spent]
  have balance := accounted.balance
  rw [written]
  refine ⟨valued, ?_⟩
  change db₁.worth t + _ = db₁.spent t
  rw [more, kept, bills, worth, ← balance]
  by_cases own : m.tenantId = t
  · obtain ⟨a, amount⟩ := Option.isSome_iff_exists.mp (paid own)
    simp only [own, if_true, Movement.worth, amount, out, Option.map_some, Option.getD_some]
    omega
  · simp only [own, if_false]
    omega

/-- A request leaves what was spent accounted for, unless goods have been added. -/
theorem accounted_step (kept : Kept db) (step : BookStep db db') (none : ¬ Surplus db' t)
    (accounted : ¬ Surplus db t → Accounted db t) : Accounted db' t := by
  cases step with
  | aside left => exact accounted_beside left (accounted ((surplus_beside left).not.mp none))
  | bought known draft lines entries posted after =>
      rename_i db₁ db₂ x ms now
      have none : ¬ Surplus db₁ t := by
        have same := (surplus_beside after).not.mp none
        rw [posted] at same
        exact same
      exact accounted_beside after (accounted_bought kept known draft lines entries posted
        (accounted (not_surplus_entries entries none)))
  | carried before fresh carried entries after =>
      have none := not_surplus_entries entries ((surplus_beside after).not.mp none)
      have accounted := accounted ((surplus_beside before).not.mp none)
      exact accounted_beside after
        (accounted_carried (kept.aside before) carried entries (accounted_beside before accounted))
  | found before fresh adjusted into entered after =>
      obtain ⟨none, fits⟩ := not_surplus_journaled entered ((surplus_beside after).not.mp none)
      have accounted := accounted_beside before (accounted ((surplus_beside before).not.mp none))
      exact accounted_beside after (accounted_found (kept.aside before) adjusted into entered fits accounted)
  | gone before fresh adjusted out entered off written after =>
      rename_i db₀ db₁ db₂ uuid m entry
      have none : ¬ Surplus db₁ t := by
        have same := (surplus_beside after).not.mp none
        rw [written] at same
        exact same
      obtain ⟨none, -⟩ := not_surplus_journaled entered none
      have accounted := accounted_beside before (accounted ((surplus_beside before).not.mp none))
      refine accounted_beside after
        (accounted_gone (kept.aside before).sound (fun e mem => ?_) out entered off written accounted)
      rw [before.ledger] at mem
      obtain ⟨n, below, key⟩ := kept.entered e mem
      exact ⟨n, below.trans_le fresh.1, key⟩

end Values

section Results
variable (settings : AssetSettings) (as : List StockAction)

theorem held_quantity (movements : List Movement) (k : StockKey) :
    (held movements k).quantity =
      ((movements.filter fun m => m.place = k).map (·.quantity)).sum := by
  unfold held
  generalize movements.filter (fun m => m.place = k) = ms
  suffices ∀ h : Holding, (ms.foldl Holding.enter h).quantity = h.quantity + (ms.map (·.quantity)).sum by
    rw [this]
    exact Int.zero_add _
  induction ms with
  | nil => exact fun h => (Int.add_zero _).symm
  | cons m ms ih =>
      intro h
      rw [List.foldl_cons, ih, List.map_cons, List.sum_cons, ← Int.add_assoc]
      rfl

/-- After any requests, a place holds what its journal replays to: the sum of its movements, never
less than nothing, and worth nothing once it is empty. -/
theorem book_replays (k : StockKey) :
    bookAt ((machine settings).run {} as) k = held ((machine settings).run {} as).movements.rows k ∧
      (bookAt ((machine settings).run {} as) k).quantity =
        ((((machine settings).run {} as).movements.rows.filter fun m => m.place = k).map
          (·.quantity)).sum ∧
      (bookAt ((machine settings).run {} as) k).Sound := by
  have kept := Kept.run settings as
  refine ⟨kept.replayed k, ?_, kept.sound k⟩
  rw [kept.replayed k, held_quantity]

theorem imbalance_run (t i : Id) : ((machine settings).run {} as).imbalance t i = 0 :=
  Machine.Reachable.invariant (M := machine settings) (I := fun db => db.imbalance t i = 0)
    ⟨as, rfl⟩ rfl fun db a balanced => (imbalance_step (step_book db a)).trans balanced

/-- After any requests, what is on hand was bought, and corrected since. -/
theorem goods_accounted (t i : Id) :
    ((machine settings).run {} as).onHand t i =
      ((machine settings).run {} as).bought t i + ((machine settings).run {} as).corrected t i := by
  have balanced := imbalance_run settings as t i
  unfold imbalance at balanced
  omega

/-- After any requests, unless goods have been added, every value is known, and what was spent on
purchases is in the stock or written off. -/
theorem money_accounted (t : Id) :
    Surplus ((machine settings).run {} as) t ∨ Accounted ((machine settings).run {} as) t := by
  have both : Kept ((machine settings).run {} as) ∧
      (¬ Surplus ((machine settings).run {} as) t → Accounted ((machine settings).run {} as) t) :=
    Machine.Reachable.invariant (M := machine settings)
      (I := fun db => Kept db ∧ (¬ Surplus db t → Accounted db t)) ⟨as, rfl⟩
      ⟨kept_empty, fun _ => accounted_empty⟩ fun db a held =>
        ⟨held.1.step (step_book db a), fun none => accounted_step held.1 (step_book db a) none held.2⟩
  exact or_iff_not_imp_left.mpr both.2

end Results

end StockDb
end CoffeeCloud
