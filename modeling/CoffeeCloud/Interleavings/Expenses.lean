import CoffeeCloud.Services.Expenses

/-!
Requests about expenses that overlap. The lock on the row of an expense protects its
entries in the ledger with it; so they stand as its status says, and each day of an
expense is booked once, and reversed once.
-/
namespace CoffeeCloud
open Library

inductive ExpenseOperation where
  | create (data : ExpenseData) (location : Except Failure (Option ExpenseLocation)) (id : Id)
  | action (expenseId : Option Id) (data : Json) (reverse : Bool)
  /-- What another writer enters in the ledger, under a key of its own. -/
  | book (key : String) (entry : LedgerEntry)

structure ExpenseRequest where
  p : MerchantPrincipal
  now : Time
  operation : ExpenseOperation

namespace MerchantCosts

def perform (tenants : Id → TenantProfile) (r : ExpenseRequest) : ExpenseScript (Option Expense) :=
  match r.operation with
  | .create data location id => do
      let row ← createExpense r.p data location id
      pure (some row)
  | .action expenseId data reverse => do
      let row ← expenseAction (tenants r.p.tenantId) r.p expenseId data reverse r.now
      pure (some row)
  | .book key entry => do
      ledger { entry with sourceKey := .other key }
      pure none

end MerchantCosts

def SourceKey.isOf (reverse : Bool) (expenseId : Id) : SourceKey → Bool
  | .expense r e _ => r = reverse && e = expenseId
  | .other _ => false

/-- How far an expense has come. -/
def ExpenseStatus.rank : ExpenseStatus → Nat
  | .draft => 0
  | .posted => 1
  | .reversed => 2

namespace ExpenseDb
variable (tenants : Id → TenantProfile)

/-- The entries of an expense, of its posting or of its reversal. -/
def entries (db : ExpenseDb) (expenseId : Id) (reverse : Bool) : List LedgerEntry :=
  db.ledger.rows.filter fun x => x.sourceKey.isOf reverse expenseId

/-- One entry for each day. -/
def Spread (e : Expense) (reverse : Bool) (xs : List LedgerEntry) : Prop :=
  ∃ reason, xs = (List.range e.days).map (e.entry (tenants e.tenantId) reverse reason)

/-- The entries of an expense are those its status speaks of. -/
def Books (posted reversed : List LedgerEntry) : Option Expense → Prop
  | none => posted = [] ∧ reversed = []
  | some e => e.first ≤ e.last ∧
      (if e.status = .draft then posted = [] else Spread tenants e false posted) ∧
      if e.status = .reversed then Spread tenants e true reversed else reversed = []

def Booked (db : ExpenseDb) : Prop :=
  ∀ id, Books tenants (db.entries id false) (db.entries id true) (db.expenses.find? id)

/-- An expense stays and its status does not go back. -/
def Follows (db db' : ExpenseDb) : Prop := ∀ id e, db.expenses.find? id = some e →
  ∃ e', db'.expenses.find? id = some e' ∧ e.status.rank ≤ e'.status.rank

theorem follows_refl (db : ExpenseDb) : Follows db db := fun _ e found => ⟨e, found, le_rfl⟩

theorem Follows.trans {a b c : ExpenseDb} (h : Follows a b) (k : Follows b c) : Follows a c := by
  intro id e found
  obtain ⟨e', found', le⟩ := h id e found
  obtain ⟨e'', found'', le'⟩ := k id e' found'
  exact ⟨e'', found'', le.trans le'⟩

/-- An expense and its entries are the same. -/
def Same (id : Id) (db db' : ExpenseDb) : Prop :=
  db'.expenses.find? id = db.expenses.find? id ∧ ∀ r, db'.entries id r = db.entries id r

theorem same_refl (id : Id) (db : ExpenseDb) : Same id db db := ⟨rfl, fun _ => rfl⟩

theorem Same.trans {id : Id} {a b c : ExpenseDb} (h : Same id a b) (k : Same id b c) :
    Same id a c := ⟨k.1.trans h.1, fun r => (k.2 r).trans (h.2 r)⟩

/-- What a lock protects of the expenses and their entries. -/
def protects : ExpenseResource → ExpenseDb → ExpenseDb → Prop
  | .expense id, db, db' => Same id db db'
  | .ledger _, _, _ => True

def accounting : Discipline ExpenseDb ExpenseResource where
  inv := Booked tenants
  always := Follows
  keeps := protects
  always_refl := follows_refl
  always_trans := Follows.trans
  keeps_refl k db := by
    cases k with
    | expense id => exact same_refl id db
    | ledger _ => trivial
  keeps_trans {k a b c} h h' := by
    cases k with
    | expense id => exact Same.trans h h'
    | ledger _ => trivial

section Steps
variable {tenants} {db db' : ExpenseDb} {id : Id} {row : Expense} {tenant : TenantProfile}
  {reverse : Bool} {reason : Json}

theorem mem_entries {x : LedgerEntry} :
    x ∈ db.entries id reverse ↔ x ∈ db.ledger.rows ∧ x.sourceKey.isOf reverse id = true :=
  List.mem_filter

/-- What another writer enters is no entry of an expense. -/
theorem entries_insert_other {entry : LedgerEntry} {key : String}
    (other : entry.sourceKey = .other key) (ledger : db'.ledger = db.ledger.insert entry) :
    db'.entries id reverse = db.entries id reverse := by
  rw [entries, entries, ledger]
  cases taken : db.ledger.find? (Keyed.key entry) with
  | some x =>
      rw [Table.insert_of_taken]
      rw [taken]
      exact Option.some_ne_none x
  | none =>
      rw [Table.rows_insert _ _ taken, List.filter_append, List.filter_singleton, other]
      exact List.append_nil _

/-- The entries of the days, where none of them was booked before. -/
theorem entries_bookAll (none : db.entries row.id reverse = [])
    (ledger : db'.ledger = ((List.range row.days).map (row.entry tenant reverse reason)).foldl
      Table.insert db.ledger) (r : Bool) :
    db'.entries id r = db.entries id r ++
      if r = reverse ∧ id = row.id then
        (List.range row.days).map (row.entry tenant reverse reason)
      else [] := by
  have fresh : ∀ x ∈ (List.range row.days).map (row.entry tenant reverse reason),
      db.ledger.find? (Keyed.key x) = .none := by
    intro x mem
    obtain ⟨i, -, rfl⟩ := List.mem_map.mp mem
    cases found : db.ledger.find? (Keyed.key (row.entry tenant reverse reason i)) with
    | none => rfl
    | some y =>
        have key : (y.tenantId, y.sourceKey) = (row.tenantId, .expense reverse row.id i) :=
          Table.key_of_find? found
        have mine : y ∈ db.entries row.id reverse := by
          refine mem_entries.mpr ⟨Table.mem_of_find? found, ?_⟩
          rw [(Prod.mk.inj key).2]
          simp [SourceKey.isOf]
        rw [none] at mine
        cases mine
  have distinct : (((List.range row.days).map (row.entry tenant reverse reason)).map
      Keyed.key).Nodup := by
    rw [List.map_map]
    refine List.nodup_range.map fun i j same => ?_
    have keys : SourceKey.expense reverse row.id i = .expense reverse row.id j :=
      (Prod.mk.inj same).2
    cases keys
    rfl
  rw [entries, ledger, Table.rows_foldl_insert fresh distinct, List.filter_append, entries]
  congr 1
  split
  · rename_i mine
    rw [List.filter_eq_self]
    intro x mem
    obtain ⟨i, -, rfl⟩ := List.mem_map.mp mem
    simp [Expense.entry, SourceKey.isOf, mine]
  · rename_i other
    rw [List.filter_eq_nil_iff]
    intro x mem
    obtain ⟨i, -, rfl⟩ := List.mem_map.mp mem
    simp only [Expense.entry, SourceKey.isOf, Bool.and_eq_true, decide_eq_true_eq]
    rintro ⟨rfl, rfl⟩
    exact other ⟨rfl, rfl⟩

/-- What a request may do: its expense was to be posted, or to be reversed. -/
theorem admissible_true {data : Json} (admitted : MerchantCosts.admissible row data reverse = .ok true) :
    row.status = if reverse then .posted else .draft := by
  revert admitted
  cases reverse <;> cases hs : row.status <;> simp [MerchantCosts.admissible, hs] <;> split <;> simp

/-- An expense that is posted or reversed stands with its entries, and no other is touched. -/
theorem booked_advance {data : Json} {now : Time} (booked : Booked tenants db)
    (found : db.expenses.find? row.id = some row)
    (admitted : MerchantCosts.admissible row data reverse = .ok true)
    (expenses : db'.expenses = db.expenses.modify row.id (·.advance reverse now))
    (ledger : db'.ledger = ((List.range row.days).map
      (row.entry (tenants row.tenantId) reverse reason)).foldl Table.insert db.ledger) :
    Booked tenants db' ∧ Follows db db' ∧ ∀ id, id ≠ row.id → Same id db db' := by
  have status := admissible_true admitted
  have before := booked row.id
  rw [found] at before
  obtain ⟨interval, posted, reversed⟩ := before
  have none : db.entries row.id reverse = [] := by
    cases reverse with
    | false =>
        have draft : row.status = .draft := status
        rwa [if_pos draft] at posted
    | true =>
        have open' : row.status = .posted := status
        rwa [if_neg (by simp [open'])] at reversed
  have entries (i : Id) (r : Bool) : db'.entries i r = _ := entries_bookAll none ledger r
  have other (i : Id) (ne : i ≠ row.id) : Same i db db' := by
    refine ⟨by rw [expenses, Table.find?_modify _ _ _ _ (by intro; rfl), if_neg ne], fun r => ?_⟩
    rw [entries, if_neg fun h => ne h.2, List.append_nil]
  have mine : db'.expenses.find? row.id = some (row.advance reverse now) := by
    rw [expenses, Table.find?_modify _ _ _ _ (by intro; rfl), if_pos rfl, found, Option.map_some]
  refine ⟨fun i => ?_, fun i e there => ?_, other⟩
  · by_cases same : i = row.id
    · subst same
      rw [mine]
      refine ⟨interval, ?_, ?_⟩
      · rw [if_neg (by cases reverse <;> simp [Expense.advance])]
        rw [entries]
        cases reverse with
        | false =>
            rw [none, if_pos ⟨rfl, rfl⟩]
            exact ⟨reason, rfl⟩
        | true =>
            have open' : row.status = .posted := status
            rw [if_neg (by simp [open'])] at posted
            rw [if_neg (by simp), List.append_nil]
            exact posted
      · rw [entries]
        cases reverse with
        | false =>
            have draft : row.status = .draft := status
            rw [if_neg (by simp [draft])] at reversed
            rw [if_neg (by simp [Expense.advance]), if_neg (by simp), List.append_nil]
            exact reversed
        | true =>
            rw [if_pos (by simp [Expense.advance]), none, if_pos ⟨rfl, rfl⟩]
            exact ⟨reason, rfl⟩
    · obtain ⟨row', entries'⟩ := other i same
      rw [row', entries', entries']
      exact booked i
  · by_cases same : i = row.id
    · subst same
      cases found.symm.trans there
      refine ⟨_, mine, ?_⟩
      rw [status]
      cases reverse <;> simp [Expense.advance, ExpenseStatus.rank]
    · exact ⟨e, (other i same).1.trans there, le_rfl⟩

/-- An expense that is entered is a draft without entries. -/
theorem booked_insert (booked : Booked tenants db) (key : row.id = id)
    (fresh : db.expenses.find? id = none) (draft : row.status = .draft) (interval : row.first ≤ row.last)
    (expenses : db'.expenses = db.expenses.insert row) (ledger : db'.ledger = db.ledger) :
    Booked tenants db' ∧ Follows db db' ∧ ∀ i, i ≠ id → Same i db db' := by
  subst key
  have find (i : Id) : db'.expenses.find? i = if i = row.id then some row else db.expenses.find? i := by
    rw [expenses]
    exact Table.find?_insert _ _ _ fresh
  have entries (i : Id) (r : Bool) : db'.entries i r = db.entries i r := by
    rw [ExpenseDb.entries, ExpenseDb.entries, ledger]
  refine ⟨fun i => ?_, fun i e there => ?_, fun i ne => ?_⟩
  · rw [find, entries, entries]
    split
    · rename_i same
      subst same
      obtain ⟨posted, reversed⟩ := fresh ▸ booked row.id
      refine ⟨interval, ?_, ?_⟩
      · rwa [if_pos draft]
      · rwa [if_neg (by simp [draft])]
    · exact booked i
  · refine ⟨e, ?_, le_rfl⟩
    rw [find, if_neg ?_, there]
    rintro rfl
    rw [fresh] at there
    cases there
  · exact ⟨by rw [find, if_neg ne], entries i⟩

end Steps

end ExpenseDb

def LedgerEntry.amount (x : LedgerEntry) : Int := x.amountMinor.getD 0

/-- The entries are one a day ended the interval of the expense, and they add up to its amount in
parts that differ by one at most. -/
structure Expense.Allocated (e : Expense) (zone : Zone) (kind : LedgerKind)
    (xs : List LedgerEntry) : Prop where
  kind : ∀ x ∈ xs, x.kind = kind
  known : ∀ x ∈ xs, x.amountMinor.isSome
  daily : ∀ d, (xs.filter fun x => zone.day x.occurredAt = d).length =
    if e.first ≤ d ∧ d ≤ e.last then 1 else 0
  total : (xs.map LedgerEntry.amount).sum = e.amountMinor
  even : ∀ x ∈ xs, ∀ y ∈ xs, x.amount ≤ y.amount + 1

namespace ExpenseDb

/-- What an expense has taken from the result, in the entries that `p` selects. -/
def net (db : ExpenseDb) (expenseId : Id) (p : LedgerEntry → Bool) : Int :=
  (((db.entries expenseId false).filter p).map LedgerEntry.amount).sum -
    (((db.entries expenseId true).filter p).map LedgerEntry.amount).sum

/-- The ledger says of an expense what its status says. -/
structure Exact (tenants : Id → TenantProfile) (db : ExpenseDb) (e : Expense) : Prop where
  draft : e.status = .draft → db.entries e.id false = []
  posted : e.status ≠ .draft →
    e.Allocated (tenants e.tenantId).zone .expense (db.entries e.id false)
  unreversed : e.status ≠ .reversed → db.entries e.id true = []
  reversed : e.status = .reversed →
    e.Allocated (tenants e.tenantId).zone .expenseReversal (db.entries e.id true) ∧
      ∀ d, db.net e.id (fun x => (tenants e.tenantId).zone.day x.occurredAt = d) = 0
  net : db.net e.id (fun _ => true) = if e.status = .posted then e.amountMinor else 0

section Facts
variable {tenants : Id → TenantProfile} {db : ExpenseDb} {e : Expense} {reverse : Bool}
  {xs ys : List LedgerEntry}

theorem length_filter_range (first d : Int) (n : Nat) :
    ((List.range n).filter fun i : Nat => first + i = d).length =
      if first ≤ d ∧ d < first + n then 1 else 0 := by
  induction n with
  | zero => simp
  | succ n ih =>
      rw [List.range_succ, List.filter_append, List.length_append, ih, List.filter_singleton]
      by_cases here : first + n = d
      · simp only [here, decide_true, cond_true, List.length_singleton, Nat.cast_succ]
        split <;> split <;> omega
      · simp only [here, decide_false, cond_false, List.length_nil, Nat.cast_succ]
        split <;> split <;> omega

/-- Which of its entries are on a day is a matter of their index. -/
theorem filter_entries (zone : Zone) (environment : String) (reason : Json) (d : Int) :
    ((List.range e.days).map (e.entry ⟨zone, environment⟩ reverse reason)).filter
        (fun x => zone.day x.occurredAt = d) =
      ((List.range e.days).filter fun i : Nat => e.first + i = d).map
        (e.entry ⟨zone, environment⟩ reverse reason) := by
  rw [List.filter_map]
  congr 1
  apply List.filter_congr
  intro i _
  simp only [Function.comp_apply, Expense.entry, zone.day_midnight]

theorem Spread.allocated (spread : Spread tenants e reverse xs) (interval : e.first ≤ e.last) :
    e.Allocated (tenants e.tenantId).zone (if reverse then .expenseReversal else .expense) xs := by
  obtain ⟨reason, rfl⟩ := spread
  have mem {x : LedgerEntry} (h : x ∈ (List.range e.days).map
      (e.entry (tenants e.tenantId) reverse reason)) :
      ∃ i, x = e.entry (tenants e.tenantId) reverse reason i := by
    obtain ⟨i, -, rfl⟩ := List.mem_map.mp h
    exact ⟨i, rfl⟩
  constructor
  · intro x h
    obtain ⟨i, rfl⟩ := mem h
    rfl
  · intro x h
    obtain ⟨i, rfl⟩ := mem h
    rfl
  · intro d
    rw [filter_entries (tenants e.tenantId).zone (tenants e.tenantId).environment, List.length_map,
      length_filter_range]
    congr 1
    rw [eq_iff_iff, Expense.days]
    omega
  · rw [List.map_map]
    exact Shares.sum_share (by rw [Expense.days]; omega)
  · intro x h y h'
    obtain ⟨i, rfl⟩ := mem h
    obtain ⟨j, rfl⟩ := mem h'
    exact Shares.share_le i j

/-- A reversal books the same amounts on the same days. -/
theorem Spread.cancels (posted : Spread tenants e false xs) (reversed : Spread tenants e true ys)
    (d : Int) :
    ((xs.filter fun x => (tenants e.tenantId).zone.day x.occurredAt = d).map
        LedgerEntry.amount).sum =
      ((ys.filter fun x => (tenants e.tenantId).zone.day x.occurredAt = d).map
        LedgerEntry.amount).sum := by
  obtain ⟨reason, rfl⟩ := posted
  obtain ⟨reason', rfl⟩ := reversed
  rw [filter_entries (tenants e.tenantId).zone (tenants e.tenantId).environment,
    filter_entries (tenants e.tenantId).zone (tenants e.tenantId).environment, List.map_map,
    List.map_map]
  rfl

theorem Booked.exact (booked : Booked tenants db) (found : db.expenses.find? e.id = some e) :
    Exact tenants db e := by
  obtain ⟨interval, posted, reversed⟩ := found ▸ booked e.id
  have taken : e.status ≠ .draft → Spread tenants e false (db.entries e.id false) := by
    intro later
    rwa [if_neg later] at posted
  have returned : e.status = .reversed → Spread tenants e true (db.entries e.id true) := by
    intro ended
    rwa [if_pos ended] at reversed
  have nothing : e.status = .draft → db.entries e.id false = [] := by
    intro draft
    rwa [if_pos draft] at posted
  have open' : e.status ≠ .reversed → db.entries e.id true = [] := by
    intro before
    rwa [if_neg before] at reversed
  refine ⟨nothing, fun later => (taken later).allocated interval, open', fun ended => ?_, ?_⟩
  · have later : e.status ≠ .draft := by simp [ended]
    exact ⟨(returned ended).allocated interval,
      fun d => Int.sub_eq_zero.mpr ((taken later).cancels (returned ended) d)⟩
  · have all (xs : List LedgerEntry) : xs.filter (fun _ => true) = xs := List.filter_true xs
    rw [ExpenseDb.net, all, all]
    cases stands : e.status with
    | draft => rw [nothing stands, open' (by simp [stands])]; rfl
    | posted =>
        rw [open' (by simp [stands]), ((taken (by simp [stands])).allocated interval).total]
        exact Int.sub_zero _
    | reversed =>
        rw [((taken (by simp [stands])).allocated interval).total,
          ((returned stands).allocated interval).total]
        exact Int.sub_self _

end Facts
end ExpenseDb

namespace MerchantCosts
open ExpenseDb

variable {tenants : Id → TenantProfile} {db : ExpenseDb} {p : MerchantPrincipal} {now : Time}

/-- A commit keeps the books and takes no status back. -/
def Onward (_ : Option Expense) (db db' : ExpenseDb) : Prop := Follows db db'

/-- What the lock on an expense leaves as it is until the end. -/
def Held (row : Expense) (held : List ExpenseLock) (db : ExpenseDb) : Prop :=
  ⟨.expense row.id, .exclusive⟩ ∈ held ∧ db.expenses.find? row.id = some row

theorem Held.rely {row : Expense} {held : List ExpenseLock} {db db' : ExpenseDb}
    (h : Held row held db) (rely : (accounting tenants).Rely held db db') : Held row held db' :=
  ⟨h.1, (rely.2 _ h.1).1.trans h.2⟩

theorem Held.append {row : Expense} {held others : List ExpenseLock} {db : ExpenseDb}
    (h : Held row held db) : Held row (held ++ others) db :=
  ⟨List.mem_append_left _ h.1, h.2⟩

theorem commits_of {pending : ExpenseDb → ExpenseDb} {held : List ExpenseLock} {id : Id}
    {answer : Option Expense} (locked : ⟨.expense id, .exclusive⟩ ∈ held)
    (kept : ∀ t, (accounting tenants).Rely held db t → Booked tenants t →
      Booked tenants (pending t) ∧ Follows t (pending t) ∧
        ∀ i, i ≠ id → Same i t (pending t)) :
    Commits (accounting tenants) Onward answer pending held db := by
  intro t rely inv
  obtain ⟨booked, follows, same⟩ := kept t rely inv
  refine ⟨booked, ⟨follows, fun k free => ?_⟩, follows⟩
  cases k with
  | ledger _ => trivial
  | expense i =>
      refine same i ?_
      rintro rfl
      exact free locked

/-- A commit that changes no expense and none of their entries. -/
theorem commits_same {pending : ExpenseDb → ExpenseDb} {held : List ExpenseLock}
    {answer : Option Expense} (same : ∀ t i, Same i t (pending t)) :
    Commits (accounting tenants) Onward answer pending held db := by
  intro t rely inv
  have follows : Follows t (pending t) := fun i e found => ⟨e, (same t i).1.trans found, le_rfl⟩
  refine ⟨fun i => ?_, ⟨follows, fun k _ => ?_⟩, follows⟩
  · rw [(same t i).1, (same t i).2, (same t i).2]
    exact inv i
  · cases k with
    | ledger _ => trivial
    | expense i => exact same t i

theorem bookAll_safe {Q : Unit → (ExpenseDb → ExpenseDb) → List ExpenseLock → ExpenseDb → Prop}
    {entries : List LedgerEntry} {pending : ExpenseDb → ExpenseDb} {held : List ExpenseLock}
    (next : ∀ pending' held' t, (∀ u, (pending' u).expenses = (pending u).expenses ∧
      (pending' u).ledger = entries.foldl Table.insert (pending u).ledger) →
        Q () pending' held' t) :
    Safe (accounting tenants) Q (bookAll entries) pending held db := by
  induction entries generalizing pending held db with
  | nil => exact next _ _ _ fun u => ⟨rfl, rfl⟩
  | cons entry entries ih =>
      simp only [bookAll, ledger, safe_bind, safe_change]
      intro t rely inv
      exact ih fun pending' held' t' same => next _ _ _ same

theorem expenseAction_safe (expenseId : Option Id) (data : Json) (reverse : Bool) :
    Safe (accounting tenants) (Commits (accounting tenants) Onward)
      (perform tenants ⟨p, now, .action expenseId data reverse⟩) id [] db := by
  simp only [perform, expenseAction, safe_bind, safe_selectFor, safe_require, safe_ensure]
  intro t _ inv row found _
  have there := Option.filter_eq_some_iff.mp found
  obtain ⟨i, _, at_i⟩ := Option.bind_eq_some_iff.mp there.1
  have key : row.id = i := Table.key_of_find? at_i
  have tenant : row.tenantId = p.tenantId := of_decide_eq_true there.2
  have locked : Held row ([] ++ (expenseRow t p.tenantId expenseId).toList.map fun e =>
      (⟨.expense e.id, .exclusive⟩ : ExpenseLock)) t := by
    refine ⟨?_, key ▸ at_i⟩
    rw [show expenseRow t p.tenantId expenseId = some row from found]
    simp
  cases admitted : admissible row data reverse with
  | error e => trivial
  | ok due =>
      cases due with
      | false => exact commits_same fun u i => same_refl i u
      | true =>
          simp only [safe_bind]
          refine Safe.carry Held.rely Held.append locked (bookAll_safe fun pending held t₁ booked => ?_)
          intro held₁
          simp only [record, safe_change, safe_pure]
          intro t₂ rely₂ _ t₃ rely₃ _
          have held₃ := (held₁.rely rely₂).append.rely rely₃
          refine commits_of (List.mem_append_left _ held₃.1) fun u rely inv => ?_
          have same := (booked u).1
          have entered := (booked u).2
          rw [← tenant] at entered
          exact booked_advance inv (held₃.rely rely.left).2 admitted (by simp only [same, id_eq]; rfl)
            entered

theorem allocation_safe {Q : Option (Int × Int) → (ExpenseDb → ExpenseDb) → List ExpenseLock →
      ExpenseDb → Prop} {data : ExpenseData} {method : AllocationMethod}
    {pending : ExpenseDb → ExpenseDb} {held : List ExpenseLock}
    (next : ∀ interval : Option (Int × Int), (∀ d ∈ interval, d.1 ≤ d.2) →
      Q interval pending held db) :
    Safe (accounting tenants) Q (allocation data method) pending held db := by
  cases method with
  | once => exact next none (by simp)
  | dailyEqual =>
      simp only [allocation, safe_bind, safe_require, safe_ensure, safe_pure]
      intro start _ last _ within
      refine next _ fun d mem => ?_
      cases mem
      exact Int.sub_nonneg.mp within.1

theorem createExpense_safe (data : ExpenseData)
    (location : Except Failure (Option ExpenseLocation)) (id : Id) :
    Safe (accounting tenants) (Commits (accounting tenants) Onward)
      (perform tenants ⟨p, now, .create data location id⟩) (fun u => u) [] db := by
  simp only [perform, createExpense, safe_bind, safe_require]
  intro category _ method _ amount _ occurredOn _
  refine allocation_safe fun interval ordered => ?_
  cases location with
  | error e => trivial
  | ok location =>
      simp only [record, safe_bind, safe_insert, safe_change, safe_pure]
      intro t _ _ free t₂ rely₂ _
      have mine : ⟨.expense id, .exclusive⟩ ∈ [] ++ [(⟨.expense id, .exclusive⟩ : ExpenseLock)] :=
        List.mem_singleton_self _
      refine commits_of (List.mem_append_left _ mine) fun u rely inv => ?_
      have unused : t.expenses.find? id = none := Option.not_isSome_iff_eq_none.mp (by simp [free])
      have still := (rely₂.trans rely.left).2 _ mine
      refine booked_insert inv rfl (still.1.trans unused) rfl ?_ rfl rfl
      cases interval with
      | none => exact le_rfl
      | some d => exact ordered d rfl

theorem book_safe (key : String) (entry : LedgerEntry) :
    Safe (accounting tenants) (Commits (accounting tenants) Onward)
      (perform tenants ⟨p, now, .book key entry⟩) id [] db := by
  simp only [perform, ledger, safe_bind, safe_change, safe_pure]
  intro t _ _
  exact commits_same fun u i => ⟨rfl, fun r => entries_insert_other rfl rfl⟩

theorem perform_safe (r : ExpenseRequest) :
    Safe (accounting tenants) (Commits (accounting tenants) Onward) (perform tenants r) id [] db := by
  obtain ⟨p, now, operation⟩ := r
  cases operation with
  | create data location id => exact createExpense_safe data location id
  | action expenseId data reverse => exact expenseAction_safe expenseId data reverse
  | book key entry => exact book_safe key entry

/-- The commit brings the expense to the status. -/
def Enters (status : ExpenseStatus) (id : Id) (c : Commit ExpenseDb (Option Expense)) : Prop :=
  (∀ e, c.before.expenses.find? id = some e → e.status ≠ status) ∧
    ∃ e, c.after.expenses.find? id = some e ∧ e.status = status

theorem rank_injective {s t : ExpenseStatus} (same : s.rank = t.rank) : s = t := by
  cases s <;> cases t <;> first | rfl | cases same

/-- Where statuses do not go back, none is entered twice. -/
theorem enters_once {status : ExpenseStatus} {id : Id} {c c' : Commit ExpenseDb (Option Expense)}
    (between : Follows c.after c'.before) (after : Follows c'.before c'.after) :
    ¬ (Enters status id c ∧ Enters status id c') := by
  rintro ⟨⟨-, e, found, at_e⟩, other, e', found', at_e'⟩
  obtain ⟨f, there, up⟩ := between id e found
  obtain ⟨f', there', up'⟩ := after id f there
  cases found'.symm.trans there'
  rw [at_e] at up
  rw [at_e'] at up'
  exact other f there (rank_injective (le_antisymm up' up))

end MerchantCosts
end CoffeeCloud
