import CoffeeCloud.Services.Ledger
import CoffeeCloud.Services.Reports

/-!
Reports add up. What the aggregates bring to a day is a sum, in which an unknown
amount absorbs the others; the rows of a report and its totals are sums over days,
and a day is the same in every report that it is in.
-/
namespace CoffeeCloud
open Library

/-! What the writers of a ledger may leave unknown. -/

section Writers
variable {ledger : LedgerTable} {o : MoneyOrder} {e : LedgerEntry}

/-- The kinds whose amount a writer may not know. -/
def LedgerKind.mayBeUnknown : LedgerKind → Bool
  | .material | .waste | .fee | .costAdjustment => true
  | _ => false

/-- The amount of an entry is there, unless its kind is a cost that may be unknown. -/
def LedgerEntry.Stated (e : LedgerEntry) : Prop :=
  e.amountMinor = none → e.kind.mayBeUnknown = true

def Stated (ledger : LedgerTable) : Prop := ∀ e ∈ ledger.rows, e.Stated

theorem Stated.insert (stated : Stated ledger) (one : e.Stated) : Stated (ledger.insert e) := by
  intro x mem
  rcases Table.find?_insert_cases (Table.find?_of_mem mem) with there | ⟨rfl, -⟩
  · exact stated x (Table.mem_of_find? there)
  · exact one

theorem Stated.insertAll {es : List LedgerEntry} (stated : Stated ledger)
    (each : ∀ e ∈ es, e.Stated) : Stated (es.foldl Table.insert ledger) := by
  induction es generalizing ledger with
  | nil => exact stated
  | cons e es ih =>
      exact ih (stated.insert (each e List.mem_cons_self)) fun x mem =>
        each x (List.mem_cons_of_mem e mem)

theorem stated_some {amount : Int} (h : e.amountMinor = some amount) : e.Stated := by
  intro unknown
  rw [h] at unknown
  cases unknown

theorem Stated.apply (stated : Stated ledger) (w : LedgerWrite) : Stated (w.apply ledger) := by
  cases w with
  | payment order new =>
      simp only [LedgerWrite.apply, RecordMoney.payment]
      split
      · exact stated
      · exact (stated.insert (stated_some rfl)).insert fun _ => rfl
  | refund order payment new =>
      simp only [LedgerWrite.apply, RecordMoney.refund]
      split
      · exact stated
      · have refunded := stated.insert (e := order.entry .refund (some new.amountMinor)
          payment.environment "refund" new.id (new.completedAt.getD new.updatedAt) "ACTUAL")
          (stated_some rfl)
        split
        · exact refunded.insert (stated_some rfl)
        · exact refunded
  | order new paid refunds =>
      simp only [LedgerWrite.apply, RecordMoney.order]
      split
      · exact stated
      · split
        · exact stated
        · refine (stated.insert (stated_some rfl)).insertAll fun e mem => ?_
          obtain ⟨r, -, rfl⟩ := List.mem_map.mp mem
          exact stated_some rfl
  | waste p tenant loc uuid cost now => exact stated.insert fun _ => rfl
  | expense e tenant reverse reason index => exact stated.insert (stated_some rfl)
  | foreign entry =>
      refine stated.insert fun _ => ?_
      have foreign := entry.2
      cases kind : entry.1.kind <;> rw [kind] at foreign <;> cases foreign <;> rfl

theorem Booked.stated (booked : Booked ledger) : Stated ledger :=
  booked.invariant (fun _ mem => nomatch mem) fun _ w stated => stated.apply w

end Writers

namespace MerchantReports

section Amounts
variable {a b : Amount} {values : ReportValues}

/-- The difference, unknown where one of the two is. -/
def diff (a b : Amount) : Amount :=
  if a = ⊤ ∨ b = ⊤ then ⊤ else ((a.untopD 0 - b.untopD 0 : Int) : Amount)

theorem diff_eq_top_iff : diff a b = ⊤ ↔ a = ⊤ ∨ b = ⊤ := by
  unfold diff
  split
  · next unknown => exact ⟨fun _ => unknown, fun _ => rfl⟩
  · next known =>
      exact ⟨fun top => absurd top WithTop.coe_ne_top, fun unknown => absurd unknown known⟩

theorem minus_ok (left : a ≠ ⊤) (right : b ≠ ⊤) : minus a b = .ok (diff a b) := by
  have known : ¬ (a = ⊤ ∨ b = ⊤) := not_or.mpr ⟨left, right⟩
  rw [minus, diff, if_neg known, if_neg known]

theorem sum_eq_top_iff {xs : List Amount} : xs.sum = ⊤ ↔ ⊤ ∈ xs := by
  induction xs with
  | nil => simp
  | cons x xs ih => rw [List.sum_cons, WithTop.add_eq_top, ih, List.mem_cons, eq_comm]

theorem sum_apply (xs : List ReportValues) (k : ReportField) :
    xs.sum k = (xs.map fun v => v k).sum := by
  induction xs with
  | nil => rfl
  | cons x xs ih =>
      rw [List.sum_cons, List.map_cons, List.sum_cons, ← ih]
      rfl

/-- The loop over the fields is a sum. -/
theorem add_eq (target source : ReportValues) : add target source = target + source := by
  funext key
  unfold add
  split
  · next unknown => exact (WithTop.add_eq_top.mpr unknown).symm
  · rfl

/-- What a row is finished from: its money is known, and its revenue unless there is a material cost
that is not. -/
def Known (values : ReportValues) : Prop :=
  values .receivedMinor ≠ ⊤ ∧ values .refundedMinor ≠ ⊤ ∧
    (values .materialCostMinor ≠ ⊤ → values .recognizedRevenueMinor ≠ ⊤)

theorem known_zero : Known 0 :=
  ⟨WithTop.zero_ne_top, WithTop.zero_ne_top, fun _ => WithTop.zero_ne_top⟩

theorem Known.add {other : ReportValues} (h : Known values) (h' : Known other) :
    Known (values + other) := by
  refine ⟨WithTop.add_ne_top.mpr ⟨h.1, h'.1⟩, WithTop.add_ne_top.mpr ⟨h.2.1, h'.2.1⟩, ?_⟩
  intro material
  obtain ⟨here, there⟩ := WithTop.add_ne_top.mp material
  exact WithTop.add_ne_top.mpr ⟨h.2.2 here, h'.2.2 there⟩

theorem known_sum {xs : List ReportValues} (h : ∀ v ∈ xs, Known v) : Known xs.sum := by
  induction xs with
  | nil => exact known_zero
  | cons x xs ih =>
      rw [List.sum_cons]
      exact (h x List.mem_cons_self).add (ih fun v mem => h v (List.mem_cons_of_mem x mem))

def gross (values : ReportValues) : Amount :=
  diff (values .recognizedRevenueMinor) (values .materialCostMinor)

def profit (values : ReportValues) : Amount :=
  diff (diff (diff (gross values) (values .wasteCostMinor)) (values .paymentFeeMinor))
    (values .operatingExpenseMinor)

/-- An estimate is unknown where the revenue or one of the costs is. -/
theorem profit_eq_top_iff : profit values = ⊤ ↔
    values .recognizedRevenueMinor = ⊤ ∨ ∃ k ∈ costs, values k = ⊤ := by
  simp [profit, gross, diff_eq_top_iff, costs, or_assoc]

/-- The three results are those of the row's own fields, and unknown with them. -/
structure Derived (f : Finished) : Prop where
  netCash : f.netCashMinor = diff (f.values .receivedMinor) (f.values .refundedMinor)
  grossProfit : f.grossProfitMinor = gross f.values
  estimatedProfit : f.estimatedProfitMinor = profit f.values
  missing : f.missing = missing f.values
  netUnknown : f.netCashMinor = ⊤ ↔ f.values .receivedMinor = ⊤ ∨ f.values .refundedMinor = ⊤
  grossUnknown : f.grossProfitMinor = ⊤ ↔
    f.values .recognizedRevenueMinor = ⊤ ∨ f.values .materialCostMinor = ⊤
  estimateUnknown : f.estimatedProfitMinor = ⊤ ↔
    f.values .recognizedRevenueMinor = ⊤ ∨ ∃ k ∈ costs, f.values k = ⊤

theorem Derived.ext {f g : Finished} (hf : Derived f) (hg : Derived g) (same : f.values = g.values) :
    f = g := by
  apply Finished.ext same
  · rw [hf.netCash, hg.netCash, same]
  · rw [hf.grossProfit, hg.grossProfit, same]
  · rw [hf.estimatedProfit, hg.estimatedProfit, same]
  · rw [hf.missing, hg.missing, same]

theorem missing_eq_nil : missing values = [] ↔
    values .materialCostMinor ≠ ⊤ ∧ values .wasteCostMinor ≠ ⊤ ∧ values .paymentFeeMinor ≠ ⊤ ∧
      values .operatingExpenseMinor ≠ ⊤ := by
  simp [missing, costs, List.filter_eq_nil_iff]

theorem grossProfit_ok (known : Known values) : grossProfit values = .ok (gross values) := by
  unfold grossProfit
  split
  · next unknown =>
      rw [gross, diff_eq_top_iff.mpr (.inr unknown)]
      rfl
  · next material => exact minus_ok (known.2.2 material) material

theorem estimatedProfit_ok (known : Known values) :
    estimatedProfit values (gross values) = .ok (profit values) := by
  unfold estimatedProfit
  split
  · next some_missing =>
      rw [profit, diff_eq_top_iff.mpr]
      · rfl
      · simp only [diff_eq_top_iff, gross]
        by_contra each
        simp only [not_or] at each
        obtain ⟨⟨⟨⟨-, material⟩, waste⟩, fee⟩, expense⟩ := each
        exact some_missing (missing_eq_nil.mpr ⟨material, waste, fee, expense⟩)
  · next complete =>
      obtain ⟨material, waste, fee, expense⟩ := missing_eq_nil.mp (not_not.mp complete)
      have first : gross values ≠ ⊤ := by
        simp [gross, diff_eq_top_iff, known.2.2 material, material]
      have second : diff (gross values) (values .wasteCostMinor) ≠ ⊤ := by
        simp [diff_eq_top_iff, first, waste]
      have third : diff (diff (gross values) (values .wasteCostMinor)) (values .paymentFeeMinor) ≠
          ⊤ := by
        simp [diff_eq_top_iff, first, waste, fee]
      rw [minus_ok first waste]
      change (minus _ (values .paymentFeeMinor) >>= _) = _
      rw [minus_ok second fee]
      exact minus_ok third expense

theorem finish_ok (known : Known values) :
    ∃ f, finish values = .ok f ∧ f.values = values ∧ Derived f := by
  refine ⟨⟨values, diff (values .receivedMinor) (values .refundedMinor), gross values,
    profit values, missing values⟩, ?_, rfl, rfl, rfl, rfl, rfl, diff_eq_top_iff, diff_eq_top_iff,
    profit_eq_top_iff⟩
  rw [finish, minus_ok known.1 known.2.1]
  change (grossProfit values >>= _) = _
  rw [grossProfit_ok known]
  change (estimatedProfit values (gross values) >>= _) = _
  rw [estimatedProfit_ok known]
  rfl

theorem known_of_minus {r : Amount} (h : minus a b = .ok r) : a ≠ ⊤ ∧ b ≠ ⊤ := by
  unfold minus at h
  split at h
  · cases h
  · next known => exact not_or.mp known

/-- A row that was finished was known. -/
theorem known_of_finish {f : Finished} (h : finish values = .ok f) : Known values := by
  unfold finish at h
  cases net : minus (values .receivedMinor) (values .refundedMinor) with
  | error e =>
      rw [net] at h
      cases h
  | ok r =>
      refine ⟨(known_of_minus net).1, (known_of_minus net).2, fun material => ?_⟩
      rw [net] at h
      change (grossProfit values >>= _) = _ at h
      rw [grossProfit, if_neg material] at h
      cases difference : minus (values .recognizedRevenueMinor) (values .materialCostMinor) with
      | error e =>
          rw [difference] at h
          cases h
      | ok g => exact (known_of_minus difference).1

end Amounts
section Days
variable {ks : List Int} {distinct : ks.Nodup} {f : Int → ReportValues}

def groupAmount (row : LedgerGroup) (sign : Int) : Amount :=
  if 0 < row.missing then ⊤ else ((sign * row.amount.getD 0 : Int) : Amount)

def paidOrders (row : LedgerGroup) : Amount :=
  if row.kind = .collection then ((row.orders : Int) : Amount) else 0

/-- What a row of the ledger's aggregate brings to its day. -/
def eventShare (row : LedgerGroup) : ReportValues :=
  match kindOf row.kind with
  | none => 0
  | some (field, sign) => Pi.single field (groupAmount row sign) +
      Pi.single .paidOrderCount (paidOrders row)

def deliveryShare (row : DeliveryGroup) : ReportValues :=
  Pi.single .deliveredCupCount ((row.cups : Int) : Amount) +
    Pi.single .materialCostMinor (if 0 < row.missing then ⊤ else 0)

theorem kindOf_counts {kind : LedgerKind} {field : ReportField} {sign : Int}
    (h : kindOf kind = some (field, sign)) :
    field ≠ .paidOrderCount ∧ field ≠ .deliveredCupCount := by
  cases kind <;> cases h <;> simp

theorem eventShare_of_none {row : LedgerGroup} (h : kindOf row.kind = none) :
    eventShare row = 0 := by
  rw [eventShare, h]

theorem eventShare_of_some {row : LedgerGroup} {field : ReportField} {sign : Int}
    (h : kindOf row.kind = some (field, sign)) :
    eventShare row = Pi.single field (groupAmount row sign) +
      Pi.single .paidOrderCount (paidOrders row) := by
  rw [eventShare, h]

theorem eventShare_paid {row : LedgerGroup} (other : row.kind ≠ .collection) :
    eventShare row .paidOrderCount = 0 := by
  cases kind : kindOf row.kind with
  | none => rw [eventShare_of_none kind, Pi.zero_apply]
  | some entry =>
      rw [eventShare_of_some kind, paidOrders, if_neg other, Pi.single_zero, add_zero,
        Pi.single_eq_of_ne (kindOf_counts kind).1.symm]

theorem eventShare_delivered (row : LedgerGroup) : eventShare row .deliveredCupCount = 0 := by
  cases kind : kindOf row.kind with
  | none => rw [eventShare_of_none kind, Pi.zero_apply]
  | some entry =>
      rw [eventShare_of_some kind, Pi.add_apply, Pi.single_eq_of_ne (kindOf_counts kind).2.symm,
        Pi.single_eq_of_ne (by simp), add_zero]

theorem update_add_single (values : ReportValues) (field : ReportField) (a : Amount) :
    Function.update values field (values field + a) = values + Pi.single field a := by
  funext k
  by_cases here : k = field
  · subst here
    simp
  · simp [here]

theorem update_top (values : ReportValues) (field : ReportField) :
    Function.update values field ⊤ = values + Pi.single field ⊤ := by
  rw [← update_add_single, WithTop.add_top]

/-- An unknown amount absorbs what was there, and what comes later. -/
theorem absorbed (values : ReportValues) (field : ReportField) (missing : Nat) (a : Amount) :
    (if 0 < missing then Function.update values field ⊤
      else if values field ≠ ⊤ then Function.update values field (values field + a)
      else values) = values + Pi.single field (if 0 < missing then ⊤ else a) := by
  split
  · exact update_top values field
  · split
    · exact update_add_single values field a
    · next unknown =>
        rw [← update_add_single, not_not.mp unknown, WithTop.top_add]
        exact (Function.update_eq_self_iff.mpr (not_not.mp unknown).symm).symm

/-- The count of paid orders is set, where nothing has counted before. -/
theorem collected {values : ReportValues} {row : LedgerGroup}
    (fresh : row.kind = .collection → values .paidOrderCount = 0) :
    (if row.kind = .collection then
        Function.update values .paidOrderCount ((row.orders : Int) : Amount) else values) =
      values + Pi.single .paidOrderCount (paidOrders row) := by
  unfold paidOrders
  split
  · next collection =>
      rw [← update_add_single, fresh collection, zero_add]
  · rw [Pi.single_zero, add_zero]

theorem bucket_ok (f : Int → ReportValues) {d : Int} (mem : d ∈ ks) :
    bucket (Dict.ofFn ks distinct f) d = .ok (f d) := by
  rw [bucket, Dict.get?_ofFn f mem]
  rfl

theorem set_share (f : Int → ReportValues) {d : Int} (mem : d ∈ ks) (share : ReportValues) :
    (Dict.ofFn ks distinct f).set d (f d + share) =
      Dict.ofFn ks distinct fun i => f i + if i = d then share else 0 := by
  rw [Dict.set_ofFn f mem]
  congr 1
  funext i
  by_cases here : i = d
  · subst here
    simp
  · simp [here]

theorem enterEvent_ok {row : LedgerGroup} (mem : row.day ∈ ks)
    (fresh : row.kind = .collection → f row.day .paidOrderCount = 0) :
    enterEvent (Dict.ofFn ks distinct f) row =
      .ok (Dict.ofFn ks distinct fun d => f d + if d = row.day then eventShare row else 0) := by
  unfold enterEvent
  cases kind : kindOf row.kind with
  | none =>
      rw [eventShare_of_none kind]
      simp only [ite_self, add_zero]
      rfl
  | some entry =>
      obtain ⟨field, sign⟩ := entry
      have still : row.kind = .collection →
          (f row.day + Pi.single field (groupAmount row sign) : ReportValues) .paidOrderCount =
            0 := by
        intro collection
        rw [Pi.add_apply, fresh collection, Pi.single_eq_of_ne (kindOf_counts kind).1.symm,
          add_zero]
      simp only [bucket_ok f mem]
      change Except.ok ((Dict.ofFn ks distinct f).set row.day _) = _
      rw [absorbed, ← groupAmount, collected still, add_assoc, ← eventShare_of_some kind,
        set_share f mem]

/-- Rows of the ledger's aggregate, in any order: each adds to its day. -/
theorem enterEvents_ok {rows : List LedgerGroup}
    (mem : ∀ row ∈ rows, row.day ∈ ks) (apart : (rows.map fun r => (r.day, r.kind)).Nodup)
    (fresh : ∀ row ∈ rows, row.kind = .collection → f row.day .paidOrderCount = 0) :
    rows.foldlM enterEvent (Dict.ofFn ks distinct f) =
      .ok (Dict.ofFn ks distinct fun d =>
        f d + ((rows.filter fun r => r.day = d).map eventShare).sum) := by
  induction rows generalizing f with
  | nil =>
      simp only [List.filter_nil, List.map_nil, List.sum_nil, add_zero]
      rfl
  | cons row rows ih =>
      rw [List.map_cons, List.nodup_cons] at apart
      rw [List.foldlM_cons, enterEvent_ok (mem row List.mem_cons_self)
        (fresh row List.mem_cons_self)]
      change List.foldlM enterEvent _ rows = _
      rw [ih (fun r there => mem r (List.mem_cons_of_mem row there)) apart.2]
      · congr 2
        funext d
        by_cases here : row.day = d
        · simp [here, add_assoc]
        · simp [here, Ne.symm here]
      · intro r there collection
        rw [Pi.add_apply, fresh r (List.mem_cons_of_mem row there) collection, zero_add]
        split
        · next same =>
            apply eventShare_paid
            intro also
            refine apart.1 (List.mem_map.mpr ⟨r, there, ?_⟩)
            rw [same, collection, also]
        · rfl

theorem enterDelivery_ok {row : DeliveryGroup} (mem : row.day ∈ ks)
    (fresh : f row.day .deliveredCupCount = 0) :
    enterDelivery (Dict.ofFn ks distinct f) row =
      .ok (Dict.ofFn ks distinct fun d => f d + if d = row.day then deliveryShare row else 0) := by
  unfold enterDelivery
  rw [bucket_ok f mem]
  change Except.ok ((Dict.ofFn ks distinct f).set row.day _) = _
  rw [← set_share f mem]
  congr 2
  have counted : Function.update (f row.day) .deliveredCupCount ((row.cups : Int) : Amount) =
      f row.day + Pi.single .deliveredCupCount ((row.cups : Int) : Amount) := by
    rw [← update_add_single, fresh, zero_add]
  rw [counted, deliveryShare, ← add_assoc]
  split
  · exact update_top _ _
  · rw [Pi.single_zero, add_zero]

theorem enterDeliveries_ok {rows : List DeliveryGroup}
    (mem : ∀ row ∈ rows, row.day ∈ ks) (apart : (rows.map DeliveryGroup.day).Nodup)
    (fresh : ∀ row ∈ rows, f row.day .deliveredCupCount = 0) :
    rows.foldlM enterDelivery (Dict.ofFn ks distinct f) =
      .ok (Dict.ofFn ks distinct fun d =>
        f d + ((rows.filter fun r => r.day = d).map deliveryShare).sum) := by
  induction rows generalizing f with
  | nil =>
      simp only [List.filter_nil, List.map_nil, List.sum_nil, add_zero]
      rfl
  | cons row rows ih =>
      rw [List.map_cons, List.nodup_cons] at apart
      rw [List.foldlM_cons, enterDelivery_ok (mem row List.mem_cons_self)
        (fresh row List.mem_cons_self)]
      change List.foldlM enterDelivery _ rows = _
      rw [ih (fun r there => mem r (List.mem_cons_of_mem row there)) apart.2]
      · congr 2
        funext d
        by_cases here : row.day = d
        · simp [here, add_assoc]
        · simp [here, Ne.symm here]
      · intro r there
        rw [Pi.add_apply, fresh r (List.mem_cons_of_mem row there), zero_add, if_neg]
        · rfl
        · intro same
          exact apart.1 (List.mem_map.mpr ⟨r, there, same⟩)

end Days

section Groups
variable {zone : CivilZone} {tenantId : Id} {db : ReportDb} {q : ReportQuery} {d : Int}

/-- A row of the ledger that a report is about, whenever it was. -/
def concerns (tenantId : Id) (q : ReportQuery) (e : LedgerEntry) : Bool :=
  e.tenantId = tenantId ∧ e.environment = q.environment ∧
    q.storeId.all (fun s => e.storeId = some s) ∧ q.device.all fun t => e.terminalId = some t

def concernsOrder (tenantId : Id) (q : ReportQuery) (o : MerchantOrder) : Bool :=
  o.tenantId = tenantId ∧ o.status = .ready ∧ o.environment = q.environment ∧
    q.storeId.all (fun s => o.storeId = some s) ∧ q.device.all fun t => o.terminalId = t

/-- A moment is in a period exactly if its day is. -/
theorem within_iff {t : Time} :
    (zone.midnight q.start ≤ t ∧ t < zone.midnight q.stop) ↔
      q.start ≤ zone.day t ∧ zone.day t < q.stop := by
  rw [zone.begins, ← not_le, zone.begins, not_le]

theorem selects_iff {e : LedgerEntry} : selects zone tenantId q e = true ↔
    concerns tenantId q e = true ∧ q.start ≤ zone.day e.occurredAt ∧
      zone.day e.occurredAt < q.stop := by
  rw [← within_iff]
  simp only [selects, concerns, decide_eq_true_eq]
  tauto

theorem mem_days : d ∈ days q ↔ q.start ≤ d ∧ d < q.stop := by
  simp only [days, List.mem_map, List.mem_range]
  constructor
  · rintro ⟨i, lt, rfl⟩
    omega
  · rintro ⟨le, lt⟩
    exact ⟨(d - q.start).toNat, by omega, by omega⟩

theorem nodup_days : (days q).Nodup := by
  refine List.Nodup.map ?_ List.nodup_range
  intro i j same
  simpa using same

def entriesOn (zone : CivilZone) (tenantId : Id) (db : ReportDb) (q : ReportQuery) (d : Int) :
    List LedgerEntry :=
  db.ledger.rows.filter fun e => concerns tenantId q e ∧ zone.day e.occurredAt = d

def deliveredOn (zone : CivilZone) (tenantId : Id) (db : ReportDb) (q : ReportQuery) (d : Int) :
    List MerchantOrder :=
  db.orders.rows.filter fun o => concernsOrder tenantId q o ∧
    o.completedAt.any fun t => zone.day t = d

/-- What the ledger and the orders say of one day. -/
def dayValues (zone : CivilZone) (tenantId : Id) (db : ReportDb) (q : ReportQuery) (d : Int) :
    ReportValues :=
  (((entriesOn zone tenantId db q d).map LedgerEntry.kind).dedup.map fun kind =>
      eventShare (groupOf zone (entriesOn zone tenantId db q d) (d, kind))).sum +
    deliveryShare ⟨d, (deliveredOn zone tenantId db q d).length,
      (deliveredOn zone tenantId db q d).countP (unbooked db.ledger)⟩

def selected (zone : CivilZone) (tenantId : Id) (db : ReportDb) (q : ReportQuery) :
    List LedgerEntry :=
  db.ledger.rows.filter (selects zone tenantId q)

theorem groupOf_selected (mem : d ∈ days q) (kind : LedgerKind) :
    groupOf zone (selected zone tenantId db q) (d, kind) =
      groupOf zone (entriesOn zone tenantId db q d) (d, kind) := by
  have same : (selected zone tenantId db q).filter (fun e => entryKey zone e = (d, kind)) =
      (entriesOn zone tenantId db q d).filter fun e => entryKey zone e = (d, kind) := by
    simp only [selected, entriesOn, List.filter_filter]
    apply List.filter_congr
    intro e _
    obtain ⟨first, last⟩ := mem_days.mp mem
    rw [Bool.eq_iff_iff]
    simp only [Bool.and_eq_true, decide_eq_true_eq, entryKey, Prod.mk.injEq, selects_iff]
    constructor
    · rintro ⟨⟨here, kind⟩, concerns, -⟩
      exact ⟨⟨here, kind⟩, concerns, here⟩
    · rintro ⟨⟨here, kind⟩, concerns, -⟩
      exact ⟨⟨here, kind⟩, concerns, here ▸ first, here ▸ last⟩
  rw [groupOf, groupOf, same]

theorem keys_ledgerGroups {rows : List LedgerEntry} :
    (ledgerGroups zone rows).map (fun r => (r.day, r.kind)) = (rows.map (entryKey zone)).dedup := by
  rw [ledgerGroups, List.map_map]
  exact List.map_id _

theorem day_ledgerGroups {row : LedgerGroup}
    (mem : row ∈ ledgerGroups zone (selected zone tenantId db q)) : row.day ∈ days q := by
  obtain ⟨key, there, rfl⟩ := List.mem_map.mp mem
  obtain ⟨e, kept, rfl⟩ := List.mem_map.mp (List.mem_dedup.mp there)
  exact mem_days.mpr (selects_iff.mp (List.mem_filter.mp kept).2).2

/-- The groups of a day are those of its own entries. -/
theorem events_sum (mem : d ∈ days q) {rows : List LedgerGroup}
    (perm : rows.Perm (ledgerGroups zone (selected zone tenantId db q))) :
    ((rows.filter fun r => r.day = d).map eventShare).sum =
      (((entriesOn zone tenantId db q d).map LedgerEntry.kind).dedup.map fun kind =>
        eventShare (groupOf zone (entriesOn zone tenantId db q d) (d, kind))).sum := by
  have keys : ((((selected zone tenantId db q).map (entryKey zone)).dedup).filter
      fun key => key.1 = d).Perm
        (((entriesOn zone tenantId db q d).map LedgerEntry.kind).dedup.map
          fun kind => (d, kind)) := by
    refine (List.perm_ext_iff_of_nodup ((List.nodup_dedup _).filter _)
      ((List.nodup_dedup _).map fun i j same => (Prod.mk.inj same).2)).mpr fun key => ?_
    simp only [List.mem_filter, List.mem_dedup, List.mem_map, decide_eq_true_eq, selected, entriesOn,
      selects_iff]
    obtain ⟨first, last⟩ := mem_days.mp mem
    constructor
    · rintro ⟨⟨e, ⟨there, concerns, -⟩, rfl⟩, here⟩
      exact ⟨e.kind, ⟨e, ⟨there, concerns, here⟩, rfl⟩, Prod.ext here.symm rfl⟩
    · rintro ⟨kind, ⟨e, ⟨there, concerns, here⟩, rfl⟩, rfl⟩
      exact ⟨⟨e, ⟨there, concerns, here ▸ first, here ▸ last⟩, Prod.ext here rfl⟩, rfl⟩
  rw [((perm.filter _).map _).sum_eq, ledgerGroups, List.filter_map, List.map_map]
  have regrouped := (keys.map fun key =>
    eventShare (groupOf zone (selected zone tenantId db q) key)).sum_eq
  rw [List.map_map] at regrouped
  refine regrouped.trans (congrArg List.sum (List.map_congr_left fun kind _ => ?_))
  exact congrArg eventShare (groupOf_selected mem kind)

theorem delivers_some {o : MerchantOrder} {t : Time} (h : delivers zone tenantId q o = some t) :
    concernsOrder tenantId q o = true ∧ o.completedAt = some t ∧ zone.day t ∈ days q := by
  unfold delivers at h
  split at h
  · next concerned =>
      obtain ⟨completed, within⟩ := Option.filter_eq_some_iff.mp h
      exact ⟨decide_eq_true concerned, completed,
        mem_days.mpr (within_iff.mp (of_decide_eq_true within))⟩
  · cases h

theorem delivers_on (mem : d ∈ days q) (o : MerchantOrder) :
    (delivers zone tenantId q o).any (fun t => zone.day t = d) =
      decide (concernsOrder tenantId q o ∧ o.completedAt.any fun t => zone.day t = d) := by
  rw [Bool.eq_iff_iff, Option.any_eq_true, decide_eq_true_iff, Option.any_eq_true]
  constructor
  · rintro ⟨t, delivered, here⟩
    obtain ⟨concerned, completed, -⟩ := delivers_some delivered
    exact ⟨concerned, t, completed, here⟩
  · rintro ⟨concerned, t, completed, here⟩
    refine ⟨t, ?_, here⟩
    have within := within_iff.mpr (mem_days.mp ((of_decide_eq_true here).symm ▸ mem))
    unfold delivers
    rw [if_pos (of_decide_eq_true concerned), completed]
    exact Option.filter_eq_some_iff.mpr ⟨rfl, decide_eq_true within⟩

/-- The deliveries of a day, in the order of their rows. -/
theorem deliveries_on (mem : d ∈ days q) :
    ((deliveries zone tenantId db q).filter fun r => r.1 = d).map (·.2) =
      deliveredOn zone tenantId db q d := by
  simp only [deliveries, deliveredOn]
  induction db.orders.rows with
  | nil => rfl
  | cons o rows ih =>
      rw [List.filter_cons, ← delivers_on mem, List.filterMap_cons]
      cases delivered : delivers zone tenantId q o with
      | none =>
          simp only [Option.map_none, Option.any_none, Bool.false_eq_true, if_false]
          exact ih
      | some t =>
          simp only [Option.map_some, Option.any_some, List.filter_cons]
          by_cases here : zone.day t = d
          · simp only [here, decide_true, if_true, List.map_cons, List.cons.injEq, true_and]
            exact ih
          · simp only [here, decide_false, Bool.false_eq_true, if_false]
            exact ih

theorem day_deliveryGroups {row : DeliveryGroup}
    (mem : row ∈ deliveryGroups db.ledger (deliveries zone tenantId db q)) : row.day ∈ days q := by
  obtain ⟨day, there, rfl⟩ := List.mem_map.mp mem
  obtain ⟨r, delivery, rfl⟩ := List.mem_map.mp (List.mem_dedup.mp there)
  obtain ⟨o, _, found⟩ := List.mem_filterMap.mp delivery
  obtain ⟨t, delivered, rfl⟩ := Option.map_eq_some_iff.mp found
  exact (delivers_some delivered).2.2

theorem days_deliveryGroups {rows : List (Int × MerchantOrder)} :
    (deliveryGroups db.ledger rows).map DeliveryGroup.day = (rows.map (·.1)).dedup := by
  rw [deliveryGroups, List.map_map]
  exact List.map_id _

theorem deliveries_sum (mem : d ∈ days q) {rows : List DeliveryGroup}
    (perm : rows.Perm (deliveryGroups db.ledger (deliveries zone tenantId db q))) :
    ((rows.filter fun r => r.day = d).map deliveryShare).sum =
      deliveryShare ⟨d, (deliveredOn zone tenantId db q d).length,
        (deliveredOn zone tenantId db q d).countP (unbooked db.ledger)⟩ := by
  have length : ((deliveries zone tenantId db q).filter fun r => r.1 = d).length =
      (deliveredOn zone tenantId db q d).length := by
    rw [← deliveries_on mem, List.length_map]
  have missing : ((deliveries zone tenantId db q).filter fun r => r.1 = d).countP
      (fun r => unbooked db.ledger r.2) =
      (deliveredOn zone tenantId db q d).countP (unbooked db.ledger) := by
    rw [← deliveries_on mem, List.countP_map]
    rfl
  have days : ((deliveries zone tenantId db q).map (·.1)).dedup.filter (fun i => i = d) =
      if d ∈ (deliveries zone tenantId db q).map (·.1) then [d] else [] := by
    rw [List.filter_eq, List.count_dedup]
    split
    · rfl
    · rfl
  rw [((perm.filter _).map _).sum_eq, deliveryGroups, List.filter_map, List.map_map]
  change (List.map _ (((deliveries zone tenantId db q).map (·.1)).dedup.filter
    fun i => i = d)).sum = _
  rw [days, ← length, ← missing]
  split
  · simp
  · next none =>
      have empty : (deliveries zone tenantId db q).filter (fun r => r.1 = d) = [] := by
        refine List.filter_eq_nil_iff.mpr fun r there same => none ?_
        exact List.mem_map.mpr ⟨r, there, of_decide_eq_true same⟩
      rw [empty]
      simp [deliveryShare]

theorem known_single {field : ReportField} {a : Amount} (cost : a ≠ ⊤ ∨ field ∉
    [ReportField.receivedMinor, .refundedMinor, .recognizedRevenueMinor]) :
    Known (Pi.single field a) := by
  have each : ∀ k ∈ [ReportField.receivedMinor, .refundedMinor, .recognizedRevenueMinor],
      (Pi.single field a : ReportValues) k ≠ ⊤ := by
    intro k mem
    by_cases here : k = field
    · subst here
      rw [Pi.single_eq_same]
      exact cost.resolve_right (not_not.mpr mem)
    · rw [Pi.single_eq_of_ne here]
      exact WithTop.zero_ne_top
  exact ⟨each _ (by simp), each _ (by simp), fun _ => each _ (by simp)⟩

/-- Where only costs are unknown, each row of the aggregate is known. -/
theorem known_eventShare {row : LedgerGroup}
    (h : 0 < row.missing → row.kind.mayBeUnknown = true) : Known (eventShare row) := by
  cases kind : kindOf row.kind with
  | none =>
      rw [eventShare_of_none kind]
      exact known_zero
  | some entry =>
      rw [eventShare_of_some kind]
      refine (known_single ?_).add (known_single (.inr (by simp)))
      by_cases missing : 0 < row.missing
      · right
        have unknown := h missing
        revert kind unknown
        cases row.kind <;> intro kind unknown <;> cases kind <;>
          simp [LedgerKind.mayBeUnknown] at unknown ⊢
      · left
        rw [groupAmount, if_neg missing]
        exact WithTop.coe_ne_top

theorem known_deliveryShare (row : DeliveryGroup) : Known (deliveryShare row) :=
  (known_single (.inr (by simp))).add (known_single (.inr (by simp)))

/-- A ledger that is booked has no day that is not known. -/
theorem known_dayValues (booked : Booked db.ledger) : Known (dayValues zone tenantId db q d) := by
  refine (known_sum fun v mem => ?_).add (known_deliveryShare _)
  obtain ⟨kind, -, rfl⟩ := List.mem_map.mp mem
  refine known_eventShare fun missing => ?_
  obtain ⟨e, there, unknown⟩ := List.countP_pos_iff.mp missing
  obtain ⟨listed, key⟩ := List.mem_filter.mp there
  have same : e.kind = kind := congrArg Prod.snd (of_decide_eq_true key)
  exact same ▸ booked.stated e (List.mem_filter.mp listed).1 (of_decide_eq_true unknown)

/-- The loops over the aggregates bring every day of the period to its values. -/
theorem daily_ok (zone : CivilZone) (tenantId : Id) (db : ReportDb) (q : ReportQuery)
    (order : RowOrder) : ∃ entered,
    (order.events (ledgerGroups zone (selected zone tenantId db q))).foldlM enterEvent (daysOf q) =
      .ok entered ∧
    (order.deliveries (deliveryGroups db.ledger (deliveries zone tenantId db q))).foldlM
      enterDelivery entered =
      .ok (Dict.ofFn (days q) nodup_days (dayValues zone tenantId db q)) := by
  have perm := order.events_perm (ledgerGroups zone (selected zone tenantId db q))
  have perm' := order.deliveries_perm (deliveryGroups db.ledger (deliveries zone tenantId db q))
  have start : daysOf q = Dict.ofFn (days q) nodup_days fun _ => 0 := Dict.foldl_set_empty _
  refine ⟨_, start ▸ enterEvents_ok (fun row mem => day_ledgerGroups (perm.mem_iff.mp mem))
    ((perm.map _).nodup_iff.mpr (keys_ledgerGroups ▸ List.nodup_dedup _)) fun _ _ _ => rfl, ?_⟩
  rw [enterDeliveries_ok (fun row mem => day_deliveryGroups (perm'.mem_iff.mp mem))
    ((perm'.map _).nodup_iff.mpr (days_deliveryGroups ▸ List.nodup_dedup _))]
  · congr 1
    apply Dict.ext_rows
    refine List.map_congr_left fun d mem => ?_
    beta_reduce
    rw [events_sum mem perm, deliveries_sum mem perm', zero_add]
    rfl
  · intro row _
    rw [zero_add, sum_apply, List.map_map]
    exact List.sum_eq_zero fun a mem => by
      obtain ⟨r, -, rfl⟩ := List.mem_map.mp mem
      exact eventShare_delivered r

end Groups

section Rows
variable {zone : CivilZone} {tenantId : Id} {db : ReportDb} {q : ReportQuery} {grain : Grain}
  {items : List (Int × ReportValues)} {groups : Dict PeriodKey ReportValues}

/-- The groups that the loop over the days fills. -/
def grouped (grain : Grain) (items : List (Int × ReportValues))
    (groups : Dict PeriodKey ReportValues) : Dict PeriodKey ReportValues :=
  items.foldl (fun groups i => addTo groups (periodKey grain i.1) i.2) groups

/-- The loop over the days finishes each of them. -/
theorem known_of_gather {totals : ReportValues}
    {gathered : Dict PeriodKey ReportValues × ReportValues}
    (h : gather grain items groups totals = .ok gathered) : ∀ i ∈ items, Known i.2 := by
  induction items generalizing groups totals with
  | nil => exact fun _ mem => nomatch mem
  | cons i items ih =>
      rw [gather] at h
      cases finished : finish i.2 with
      | error e =>
          rw [finished] at h
          cases h
      | ok f =>
          rw [finished] at h
          exact List.forall_mem_cons.mpr ⟨known_of_finish finished, ih h⟩

theorem gather_ok (known : ∀ i ∈ items, Known i.2) (totals : ReportValues) :
    gather grain items groups totals =
      .ok (grouped grain items groups, totals + (items.map (·.2)).sum) := by
  induction items generalizing groups totals with
  | nil =>
      rw [List.map_nil, List.sum_nil, add_zero]
      rfl
  | cons i items ih =>
      obtain ⟨f, finished, -⟩ := finish_ok (known i List.mem_cons_self)
      rw [gather, finished]
      change gather grain items _ _ = _
      rw [ih (fun i mem => known i (List.mem_cons_of_mem _ mem)), add_eq, List.map_cons,
        List.sum_cons, add_assoc]
      rfl

theorem sum_addTo (key : PeriodKey) (values : ReportValues) :
    ((addTo groups key values).items.map (·.2)).sum = (groups.items.map (·.2)).sum + values := by
  rw [addTo, add_eq, Dict.sum_set]

theorem sum_grouped : ((grouped grain items groups).items.map (·.2)).sum =
    (groups.items.map (·.2)).sum + (items.map (·.2)).sum := by
  induction items generalizing groups with
  | nil => rw [List.map_nil, List.sum_nil, add_zero]; rfl
  | cons i items ih =>
      change ((grouped grain items _).items.map _).sum = _
      rw [ih, sum_addTo, List.map_cons, List.sum_cons, add_assoc]

theorem known_grouped (before : ∀ g ∈ groups.items, Known g.2) (known : ∀ i ∈ items, Known i.2) :
    ∀ g ∈ (grouped grain items groups).items, Known g.2 := by
  induction items generalizing groups with
  | nil => exact before
  | cons i items ih =>
      refine ih ?_ fun i mem => known i (List.mem_cons_of_mem _ mem)
      apply Dict.forall_set before
      rw [add_eq]
      refine Known.add ?_ (known i List.mem_cons_self)
      cases found : groups.get? (periodKey grain i.1) with
      | none => exact known_zero
      | some v => exact before _ (Dict.mem_items_of_get? found)

/-- By days, every group is one day. -/
theorem grouped_day {ks : List Int} (distinct : ks.Nodup) (f : Int → ReportValues)
    (new : ∀ d ∈ ks, groups.get? (.day d) = none) :
    (grouped .day (ks.map fun d => (d, f d)) groups).items =
      groups.items ++ ks.map fun d => (.day d, f d) := by
  induction ks generalizing groups with
  | nil => exact (List.append_nil _).symm
  | cons d ks ih =>
      rw [List.nodup_cons] at distinct
      have none := new d List.mem_cons_self
      have first : addTo groups (.day d) (f d) = groups.set (.day d) (f d) := by
        rw [addTo, add_eq, none, Option.getD_none, zero_add]
      change (grouped .day (ks.map fun d => (d, f d)) (addTo groups (.day d) (f d))).items = _
      rw [first, ih distinct.2, Dict.items, Dict.rows_set_new groups none]
      · simp [Dict.items]
      · intro i mem
        rw [Dict.get?_set, if_neg]
        · exact new i (List.mem_cons_of_mem d mem)
        · intro same
          cases same
          exact distinct.1 mem

theorem finishRows_ok {rows : List (PeriodKey × ReportValues)} (known : ∀ g ∈ rows, Known g.2) :
    ∃ finished, rows.mapM finishRow = .ok finished ∧
      finished.map (fun r => (r.period, r.finished.values)) = rows ∧
      ∀ r ∈ finished, Derived r.finished := by
  induction rows with
  | nil => exact ⟨[], rfl, rfl, fun _ mem => absurd mem List.not_mem_nil⟩
  | cons g rows ih =>
      obtain ⟨f, finished, values, derived⟩ := finish_ok (known g List.mem_cons_self)
      obtain ⟨rest, mapped, listed, each⟩ := ih fun g mem => known g (List.mem_cons_of_mem _ mem)
      have one : finishRow g = .ok ⟨g.1, f⟩ := by rw [finishRow, finished]; rfl
      refine ⟨⟨g.1, f⟩ :: rest, ?_, ?_, ?_⟩
      · rw [List.mapM_cons, one, mapped]
        rfl
      · rw [List.map_cons, listed, values]
      · exact List.forall_mem_cons.mpr ⟨derived, each⟩

/-- What the days of a report come to. -/
def totalValues (zone : CivilZone) (tenantId : Id) (db : ReportDb) (q : ReportQuery) :
    ReportValues :=
  ((days q).map (dayValues zone tenantId db q)).sum

/-- A report is what becomes of the values of its days. -/
theorem rebuild_eq (zone : CivilZone) (tenantId : Id) (order : RowOrder) (db : ReportDb)
    (q : ReportQuery) :
    rebuild zone tenantId order db q = (do
      let (groups, totals) ← gather q.grain ((days q).map fun d => (d, dayValues zone tenantId db q d))
        .empty 0
      let totals ← finish totals
      let rows ← groups.items.mapM finishRow
      pure ⟨rows, totals⟩) := by
  obtain ⟨entered, first, second⟩ := daily_ok zone tenantId db q order
  unfold rebuild
  change ((order.events (ledgerGroups zone (selected zone tenantId db q))).foldlM enterEvent
    (daysOf q) >>= _) = _
  rw [first]
  change ((order.deliveries (deliveryGroups db.ledger (deliveries zone tenantId db q))).foldlM
    enterDelivery entered >>= _) = _
  rw [second]
  change (gather q.grain (Dict.items (Dict.ofFn (days q) nodup_days _)) _ _ >>= _) = _
  rw [Dict.items_ofFn]

/-- All days of a period are known. -/
def DaysKnown (zone : CivilZone) (tenantId : Id) (db : ReportDb) (q : ReportQuery) : Prop :=
  ∀ d ∈ days q, Known (dayValues zone tenantId db q d)

/-- A report that was returned was of known days. -/
theorem known_of_rebuild {order : RowOrder} {r : Report}
    (h : rebuild zone tenantId order db q = .ok r) : DaysKnown zone tenantId db q := by
  rw [rebuild_eq] at h
  intro d mem
  cases gathered : gather q.grain ((days q).map fun d => (d, dayValues zone tenantId db q d))
      .empty 0 with
  | error e =>
      rw [gathered] at h
      cases h
  | ok p => exact known_of_gather gathered _ (List.mem_map.mpr ⟨d, mem, rfl⟩)

theorem rebuild_ok (zone : CivilZone) (tenantId : Id) (order : RowOrder) (db : ReportDb)
    (q : ReportQuery) (daysKnown : DaysKnown zone tenantId db q) :
    ∃ r, rebuild zone tenantId order db q = .ok r ∧ Derived r.totals ∧
      (∀ row ∈ r.rows, Derived row.finished) ∧ r.totals.values = totalValues zone tenantId db q ∧
      r.rows.map (fun row => (row.period, row.finished.values)) =
        (grouped q.grain ((days q).map fun d => (d, dayValues zone tenantId db q d)) .empty).items := by
  have known : ∀ i ∈ (days q).map fun d => (d, dayValues zone tenantId db q d), Known i.2 := by
    intro i mem
    obtain ⟨d, there, rfl⟩ := List.mem_map.mp mem
    exact daysKnown d there
  have knownRows : ∀ g ∈ (grouped q.grain _ .empty).items, Known g.2 :=
    known_grouped (fun g mem => absurd mem List.not_mem_nil) known
  have sum : (((days q).map fun d => (d, dayValues zone tenantId db q d)).map (·.2)).sum =
      totalValues zone tenantId db q := by
    rw [List.map_map]
    rfl
  have knownTotals : Known (totalValues zone tenantId db q) := by
    rw [← sum]
    refine known_sum fun v mem => ?_
    obtain ⟨i, there, rfl⟩ := List.mem_map.mp mem
    exact known i there
  obtain ⟨totals, finished, values, derived⟩ := finish_ok knownTotals
  obtain ⟨rows, mapped, listed, each⟩ := finishRows_ok knownRows
  refine ⟨⟨rows, totals⟩, ?_, derived, each, values, listed⟩
  rw [rebuild_eq, gather_ok known, sum, zero_add]
  change (finish _ >>= _) = _
  rw [finished]
  change (List.mapM finishRow _ >>= _) = _
  rw [mapped]
  rfl

theorem sum_rows {r : Report}
    (listed : r.rows.map (fun row => (row.period, row.finished.values)) =
      (grouped q.grain ((days q).map fun d => (d, dayValues zone tenantId db q d)) .empty).items) :
    (r.rows.map fun row => row.finished.values).sum = totalValues zone tenantId db q := by
  have values : r.rows.map (fun row => row.finished.values) =
      (r.rows.map fun row => (row.period, row.finished.values)).map (·.2) := by
    rw [List.map_map]
    rfl
  rw [values, listed, sum_grouped, List.map_map]
  exact zero_add _

end Rows

section Unknown
variable {zone : CivilZone} {tenantId : Id} {db : ReportDb} {q : ReportQuery} {d : Int}
  {f : ReportField}

/-- What makes a field of a day unknown: an entry without its amount, or for the cost
of material an online order delivered without its material booked. -/
def Unknown (zone : CivilZone) (tenantId : Id) (db : ReportDb) (q : ReportQuery) (d : Int)
    (f : ReportField) : Prop :=
  (∃ e ∈ db.ledger.rows, concerns tenantId q e ∧ zone.day e.occurredAt = d ∧
      e.amountMinor = none ∧ (kindOf e.kind).any fun entry => entry.1 = f) ∨
    f = .materialCostMinor ∧ ∃ o ∈ db.orders.rows, concernsOrder tenantId q o ∧
      (o.completedAt.any fun t => zone.day t = d) ∧ unbooked db.ledger o

theorem eventShare_eq_top_iff {row : LedgerGroup} : eventShare row f = ⊤ ↔
    0 < row.missing ∧ (kindOf row.kind).any (fun entry => entry.1 = f) = true := by
  have counted : (Pi.single .paidOrderCount (paidOrders row) : ReportValues) f ≠ ⊤ := by
    by_cases here : f = .paidOrderCount
    · subst here
      rw [Pi.single_eq_same, paidOrders]
      split
      · exact WithTop.coe_ne_top
      · exact WithTop.zero_ne_top
    · rw [Pi.single_eq_of_ne here]
      exact WithTop.zero_ne_top
  cases kind : kindOf row.kind with
  | none =>
      rw [eventShare_of_none kind]
      simp
  | some entry =>
      rw [eventShare_of_some kind, Pi.add_apply, WithTop.add_eq_top, or_iff_left counted]
      by_cases here : f = entry.1
      · subst here
        rw [Pi.single_eq_same, groupAmount]
        split
        · next missing => simp [missing]
        · next none =>
            simp only [none, false_and, iff_false]
            exact WithTop.coe_ne_top
      · simp [here, Ne.symm here]

theorem deliveryShare_eq_top_iff {row : DeliveryGroup} : deliveryShare row f = ⊤ ↔
    f = .materialCostMinor ∧ 0 < row.missing := by
  have counted : (Pi.single .deliveredCupCount ((row.cups : Int) : Amount) : ReportValues) f ≠ ⊤ := by
    by_cases here : f = .deliveredCupCount
    · subst here
      rw [Pi.single_eq_same]
      exact WithTop.coe_ne_top
    · rw [Pi.single_eq_of_ne here]
      exact WithTop.zero_ne_top
  rw [deliveryShare, Pi.add_apply, WithTop.add_eq_top, or_iff_right counted]
  by_cases here : f = .materialCostMinor
  · subst here
    rw [Pi.single_eq_same]
    split
    · next missing => simp [missing]
    · next none => simp [none]
  · simp [here]

theorem dayValues_eq_top_iff :
    dayValues zone tenantId db q d f = ⊤ ↔ Unknown zone tenantId db q d f := by
  rw [dayValues, Pi.add_apply, WithTop.add_eq_top, sum_apply, sum_eq_top_iff,
    deliveryShare_eq_top_iff]
  apply or_congr
  · simp only [List.map_map, List.mem_map, List.mem_dedup, Function.comp_apply,
      eventShare_eq_top_iff, groupOf, List.countP_pos_iff, List.mem_filter, entriesOn, entryKey]
    constructor
    · rintro ⟨kind, -, ⟨e, ⟨⟨there, concerned⟩, key⟩, unknown⟩, feeds⟩
      obtain ⟨concerned, here⟩ := of_decide_eq_true concerned
      obtain rfl : e.kind = kind := congrArg Prod.snd (of_decide_eq_true key)
      exact ⟨e, there, concerned, here, of_decide_eq_true unknown, feeds⟩
    · rintro ⟨e, there, concerned, here, unknown, feeds⟩
      have listed := And.intro there (decide_eq_true (And.intro concerned here))
      exact ⟨e.kind, ⟨e, listed, rfl⟩,
        ⟨e, ⟨listed, decide_eq_true (Prod.ext here rfl)⟩, decide_eq_true unknown⟩, feeds⟩
  · simp only [List.countP_pos_iff, deliveredOn, List.mem_filter, decide_eq_true_eq, and_assoc]

theorem totalValues_eq_top_iff : totalValues zone tenantId db q f = ⊤ ↔
    ∃ d, q.start ≤ d ∧ d < q.stop ∧ Unknown zone tenantId db q d f := by
  rw [totalValues, sum_apply, sum_eq_top_iff, List.map_map, List.mem_map]
  simp only [mem_days, Function.comp_apply, dayValues_eq_top_iff, and_assoc]

end Unknown

section Periods
variable {zone : CivilZone} {tenantId : Id} {db : ReportDb} {q : ReportQuery} {m : Int}

/-- The period up to a day within it. -/
def before (q : ReportQuery) (m : Int) (within : q.start < m ∧ m < q.stop) : ReportQuery :=
  { q with
    stop := m
    interval := by
      have := q.interval
      omega }

/-- The period from a day within it. -/
def onwards (q : ReportQuery) (m : Int) (within : q.start < m ∧ m < q.stop) : ReportQuery :=
  { q with
    start := m
    interval := by
      have := q.interval
      omega }

theorem days_split (within : q.start < m ∧ m < q.stop) :
    days q = days (before q m within) ++ days (onwards q m within) := by
  have length : (q.stop - q.start).toNat = (m - q.start).toNat + (q.stop - m).toNat := by omega
  simp only [days, before, onwards, length, List.range_add, List.map_append, List.map_map]
  congr 1
  apply List.map_congr_left
  intro i _
  simp only [Function.comp_apply]
  omega

theorem totalValues_split (within : q.start < m ∧ m < q.stop) :
    totalValues zone tenantId db q =
      totalValues zone tenantId db (before q m within) +
        totalValues zone tenantId db (onwards q m within) := by
  rw [totalValues, days_split within, List.map_append, List.sum_append]
  rfl

end Periods

/-- What a report of a period says. -/
structure AddsUp (zone : CivilZone) (tenantId : Id) (db : ReportDb) (q : ReportQuery) (r : Report) :
    Prop where
  rows : r.totals.values = (r.rows.map fun row => row.finished.values).sum
  totals : Derived r.totals
  each : ∀ row ∈ r.rows, Derived row.finished
  unknown : ∀ f, r.totals.values f = ⊤ ↔
    ∃ d, q.start ≤ d ∧ d < q.stop ∧ Unknown zone tenantId db q d f
  days : q.grain = .day → ∀ d, q.start ≤ d → d < q.stop → ∃ row ∈ r.rows,
    row.period = .day d ∧ ∀ f, row.finished.values f = ⊤ ↔ Unknown zone tenantId db q d f
  regrouped : ∀ order grain, ∃ r', rebuild zone tenantId order db { q with grain } = .ok r' ∧
    r'.totals = r.totals
  split : ∀ order m within, ∃ r' r'',
    rebuild zone tenantId order db (before q m within) = .ok r' ∧
    rebuild zone tenantId order db (onwards q m within) = .ok r'' ∧
      r.totals.values = r'.totals.values + r''.totals.values

theorem rebuild_adds_up (zone : CivilZone) (tenantId : Id) (order : RowOrder) (db : ReportDb)
    (q : ReportQuery) (known : DaysKnown zone tenantId db q) :
    ∃ r, rebuild zone tenantId order db q = .ok r ∧ AddsUp zone tenantId db q r := by
  obtain ⟨r, done, totals, each, values, listed⟩ := rebuild_ok zone tenantId order db q known
  refine ⟨r, done, ?_, totals, each, ?_, ?_, ?_, ?_⟩
  · rw [values, sum_rows listed]
  · intro f
    rw [values, totalValues_eq_top_iff]
  · intro byDay d first last
    rw [byDay, grouped_day nodup_days _ fun d _ => Dict.get?_empty _] at listed
    have there : (PeriodKey.day d, dayValues zone tenantId db q d) ∈
        r.rows.map fun row => (row.period, row.finished.values) := by
      rw [listed]
      exact List.mem_map.mpr ⟨d, mem_days.mpr ⟨first, last⟩, rfl⟩
    obtain ⟨row, mem, same⟩ := List.mem_map.mp there
    refine ⟨row, mem, congrArg Prod.fst same, fun f => ?_⟩
    have values : row.finished.values = dayValues zone tenantId db q d := congrArg Prod.snd same
    rw [← dayValues_eq_top_iff, values]
  · intro order' grain
    obtain ⟨r', done', totals', -, values', -⟩ :=
      rebuild_ok zone tenantId order' db { q with grain } known
    exact ⟨r', done', totals'.ext totals (values'.trans values.symm)⟩
  · intro order' m within
    -- A day is the same in the whole and in its part.
    obtain ⟨first, last⟩ : DaysKnown zone tenantId db (before q m within) ∧
        DaysKnown zone tenantId db (onwards q m within) := by
      rw [DaysKnown, days_split within] at known
      exact List.forall_mem_append.mp known
    obtain ⟨r', done', -, -, values', -⟩ :=
      rebuild_ok zone tenantId order' db (before q m within) first
    obtain ⟨r'', done'', -, -, values'', -⟩ :=
      rebuild_ok zone tenantId order' db (onwards q m within) last
    refine ⟨r', r'', done', done'', ?_⟩
    rw [values, values', values'', totalValues_split within]

/-- A request is refused with its parameters; otherwise whatever report is returned adds up, whatever
the ledger, and one is returned of every ledger its writers leave. -/
theorem operating_adds_up (zone : CivilZone) (tenantId : Id) (order : RowOrder) (db : ReportDb)
    (today : Int) (params : ReportParams) :
    (∃ e, parseQuery db tenantId today params = .error e ∧
      operating zone tenantId order db today params = .error e) ∨
    ∃ q, parseQuery db tenantId today params = .ok q ∧
      (∀ r, operating zone tenantId order db today params = .ok r → AddsUp zone tenantId db q r) ∧
      (Booked db.ledger → ∃ r, operating zone tenantId order db today params = .ok r) := by
  cases parsed : parseQuery db tenantId today params with
  | error e =>
      refine .inl ⟨e, rfl, ?_⟩
      rw [operating, parsed]
      rfl
  | ok q =>
      have same : operating zone tenantId order db today params =
          rebuild zone tenantId order db q := by
        rw [operating, parsed]
        rfl
      refine .inr ⟨q, rfl, fun r done => ?_, fun booked => ?_⟩
      · rw [same] at done
        obtain ⟨r', again, adds⟩ :=
          rebuild_adds_up zone tenantId order db q (known_of_rebuild done)
        cases done.symm.trans again
        exact adds
      · obtain ⟨r, done, -⟩ :=
          rebuild_adds_up zone tenantId order db q fun d _ => known_dayValues booked
        exact ⟨r, same.trans done⟩

/-- An order of ten yuan. -/
def soldOrder : MoneyOrder :=
  { id := 5, tenantId := 1, merchantStoreId := some 2, terminalId := 3, status := .ready
    paymentMode := .online, paidPaymentId := some 4, totalAmountMinor := 1000, environment := .live
    completedAt := some 60, updatedAt := 60 }

def soldPayment : MoneyPayment := ⟨4, 1000, .live, some 30⟩

/-- It is paid and delivered, and three yuan of it are given back. -/
def soldWrites : List LedgerWrite :=
  [.payment soldOrder soldPayment, .order soldOrder (some soldPayment) [],
    .refund soldOrder soldPayment ⟨6, 300, .succeeded, some 90, 90⟩]

def soldDb : ReportDb where
  ledger := ledgerMachine.run .empty soldWrites
  orders := Table.empty.insert
    ⟨5, 1, some 2, 3, .live, .ready, .paid, .online, 0, some 60⟩
  stores := .empty

def asReturned : RowOrder := ⟨id, id, fun _ => .refl _, fun _ => .refl _⟩

/-- Of the sale the cash and the revenue are known, and what it cost is not. -/
theorem operating_adds_up_sale :
    ∃ q r, parseQuery soldDb 1 0 { deviceId := some "0" } = .ok q ∧
      operating (.fixed 0) 1 asReturned soldDb 0 { deviceId := some "0" } = .ok r ∧
      AddsUp (.fixed 0) 1 soldDb q r ∧ r.totals.values .refundedMinor = 300 ∧
        r.totals.netCashMinor = 700 ∧ r.totals.estimatedProfitMinor = ⊤ := by
  have adds := operating_adds_up (.fixed 0) 1 asReturned soldDb 0 { deviceId := some "0" }
  have counted : ((operating (.fixed 0) 1 asReturned soldDb 0 { deviceId := some "0" }).toOption.map
      fun r => (r.totals.values .refundedMinor, r.totals.netCashMinor,
        r.totals.estimatedProfitMinor)) = some (300, 700, ⊤) := by
    decide +kernel
  rcases adds with ⟨e, -, raised⟩ | ⟨q, parsed, adds, returns⟩
  · rw [raised] at counted
    cases counted
  · obtain ⟨r, done⟩ := returns ⟨soldWrites, rfl⟩
    rw [done] at counted
    simp only [Except.toOption, Option.map_some, Option.some.injEq, Prod.mk.injEq] at counted
    exact ⟨q, r, parsed, done, adds r done, counted⟩

end MerchantReports
end CoffeeCloud
