import CoffeeCloud.Library.SortedSet
import CoffeeCloud.Library.PartialMap
import CoffeeCloud.Schema

/-!
The leases of the telemetry cache. A device is dirty from the end of a write
until a worker claims it; then it is processing, under the token of the claim,
until that token settles it or the lease runs out. The two scripts run alone;
between them anything may happen. Over them stands what they mean for one
device: it is marked or not, and leased to a token or to none.
-/
namespace CoffeeCloud
open Library

/-- Tokens are drawn without repetition, so they are counted. -/
abbrev LeaseToken := Nat

structure Leases where
  dirty : SortedSet String Int := ∅
  processing : SortedSet String Time := ∅
  tokens : String → Option LeaseToken := fun _ => none

inductive SettleMode where
  | ack
  | retry
deriving DecidableEq

namespace Leases
variable {l : Leases} {now expires : Time} {limit : Nat} {token : LeaseToken}
  {id device : String} {ids result : List String} {mode : SettleMode}

/-! The scripts. -/

def releaseExpired (l : Leases) (id : String) : Leases where
  dirty := l.dirty.addNew 0 id
  processing := l.processing.erase id
  tokens := drop l.tokens id

def lease (expires : Time) (token : LeaseToken) (l : Leases) (id : String) : Leases where
  dirty := l.dirty.erase id
  processing := l.processing.insert id expires
  tokens := put l.tokens id token

/-- The loop over the dirty devices, with what it has returned so far. -/
def claimFrom (expires : Time) (token : LeaseToken) (limit : Nat) :
    List String → List String → Leases → List String × Leases
  | [], result, l => (result, l)
  | id :: ids, result, l =>
      if id ∈ l.processing then
        claimFrom expires token limit ids result l
      else if limit ≤ (result ++ [id]).length then
        (result ++ [id], lease expires token l id)
      else
        claimFrom expires token limit ids (result ++ [id]) (lease expires token l id)

def expire (now : Time) (l : Leases) : Leases :=
  (l.processing.upTo now).foldl releaseExpired l

def claim (now ttl : Time) (token : LeaseToken) (limit : Nat) (l : Leases) :
    List String × Leases :=
  claimFrom (now + ttl) token limit (expire now l).dirty.range [] (expire now l)

/-- With the answer of the script: whether the token was the current one. -/
def settle (id : String) (token : LeaseToken) (mode : SettleMode) (l : Leases) : Leases × Nat :=
  if l.tokens id = some token then
    ({ dirty := if mode = .retry then l.dirty.addNew 0 id else l.dirty
       processing := l.processing.erase id
       tokens := drop l.tokens id }, 1)
  else (l, 0)

/-- The second step of a write, for all devices it is about. -/
def mark (scores : List (String × Int)) (l : Leases) : Leases :=
  { l with dirty := scores.foldl (fun z s => z.insert s.1 s.2) l.dirty }

/-! What they mean for one device. -/

/-- A device as the scripts find it: whether it is dirty, and the lease there is on it. -/
@[ext] structure Standing where
  marked : Prop
  lease : Option (LeaseToken × Time)

/-- The device once the leases that have run out are released. -/
def Standing.released (now : Time) (s : Standing) : Standing :=
  match s.lease with
  | some (_, expires) => if expires ≤ now then ⟨True, none⟩ else s
  | none => s

def standing (l : Leases) (id : String) : Standing where
  marked := id ∈ l.dirty
  lease := (l.tokens id).bind fun token => (l.processing.lookup id).map fun at_ => (token, at_)

/-- Every device that is processing has a token, and no other. -/
def Matched (l : Leases) : Prop := ∀ id, (l.tokens id).isSome ↔ id ∈ l.processing

theorem matched_empty : Matched {} := fun _ => by simp

theorem Matched.lease_none (matched : l.Matched) :
    (l.standing id).lease = none ↔ id ∉ l.processing := by
  have same := matched id
  rw [← AList.lookup_isSome] at same ⊢
  simp only [standing]
  cases token : l.tokens id <;> cases expires : l.processing.lookup id <;> simp_all

theorem Matched.holds (matched : l.Matched) :
    l.tokens id = some token ↔ ∃ expires, (l.standing id).lease = some (token, expires) := by
  have same := matched id
  rw [← AList.lookup_isSome] at same
  simp only [standing]
  cases held : l.tokens id <;> cases expires : l.processing.lookup id <;> simp_all

theorem Matched.releaseExpired (matched : l.Matched) (id : String) :
    (l.releaseExpired id).Matched := by
  intro device
  simp only [Leases.releaseExpired, AList.mem_erase, drop]
  by_cases same : device = id
  · simp [same]
  · simp [same, matched device]

theorem Matched.leased (matched : l.Matched) (expires : Time) (token : LeaseToken) (id : String) :
    (l.lease expires token id).Matched := by
  intro device
  simp only [Leases.lease, AList.mem_insert, put]
  by_cases same : device = id
  · simp [same]
  · simp [same, matched device]

theorem standing_releaseExpired :
    (l.releaseExpired id).standing device =
      if device = id then ⟨True, none⟩ else l.standing device := by
  by_cases same : device = id
  · subst same
    simp [standing, releaseExpired, drop]
  · simp [standing, releaseExpired, drop, same, AList.lookup_erase_ne same]

theorem standing_lease :
    (l.lease expires token id).standing device =
      if device = id then ⟨False, some (token, expires)⟩ else l.standing device := by
  by_cases same : device = id
  · subst same
    simp [standing, lease, put]
  · simp [standing, lease, put, same, AList.lookup_insert_ne same]

theorem releaseExpired_all (matched : l.Matched) :
    (ids.foldl releaseExpired l).Matched ∧
      (ids.foldl releaseExpired l).standing device =
        if device ∈ ids then ⟨True, none⟩ else l.standing device := by
  induction ids generalizing l with
  | nil => exact ⟨matched, by simp⟩
  | cons id ids ih =>
      have rest := ih (matched.releaseExpired id)
      refine ⟨rest.1, ?_⟩
      rw [List.foldl_cons, rest.2, standing_releaseExpired]
      by_cases same : device = id <;> simp [same]

theorem Matched.expire (matched : l.Matched) (now : Time) : (l.expire now).Matched :=
  (@releaseExpired_all _ "" _ matched).1

theorem standing_expire (matched : l.Matched) :
    (l.expire now).standing device = (l.standing device).released now := by
  simp only [expire, (releaseExpired_all matched).2, SortedSet.mem_upTo]
  have same := matched device
  rw [← AList.lookup_isSome] at same
  simp only [standing, Standing.released]
  cases held : l.tokens device <;> cases expires : l.processing.lookup device <;> simp_all

/-- The loop leases devices that were not leased, and nothing happens to the others. -/
theorem claimFrom_grants (matched : l.Matched) :
    ∃ granted, (claimFrom expires token limit ids result l).1 = result ++ granted ∧
      granted.Nodup ∧ (∀ id ∈ granted, id ∈ ids ∧ (l.standing id).lease = none) ∧
      (claimFrom expires token limit ids result l).2.Matched ∧
      ∀ device, (claimFrom expires token limit ids result l).2.standing device =
        if device ∈ granted then ⟨False, some (token, expires)⟩ else l.standing device := by
  induction ids generalizing result l with
  | nil => exact ⟨[], by simp [claimFrom], by simp, by simp, matched, by simp [claimFrom]⟩
  | cons id ids ih =>
      by_cases busy : id ∈ l.processing
      · obtain ⟨granted, returned, nodup, free, kept, after⟩ := @ih _ result matched
        simp only [claimFrom, if_pos busy]
        exact ⟨granted, returned, nodup,
          fun id there => ⟨List.mem_cons_of_mem _ (free id there).1, (free id there).2⟩,
          kept, after⟩
      · have unleased : (l.standing id).lease = none := matched.lease_none.mpr busy
        by_cases full : limit ≤ (result ++ [id]).length
        · simp only [claimFrom, if_neg busy, if_pos full]
          refine ⟨[id], rfl, by simp, by simp [unleased], matched.leased _ _ _, ?_⟩
          intro device
          rw [standing_lease]
          simp
        · obtain ⟨granted, returned, nodup, free, kept, after⟩ :=
            @ih _ (result ++ [id]) (matched.leased expires token id)
          simp only [claimFrom, if_neg busy, if_neg full]
          -- The loop does not come back to a device it has leased.
          have once : id ∉ granted := by
            intro again
            have := (free id again).2
            rw [standing_lease] at this
            simp at this
          refine ⟨id :: granted, by simp [returned], List.nodup_cons.mpr ⟨once, nodup⟩, ?_, kept, ?_⟩
          · intro device there
            cases there with
            | head => exact ⟨List.mem_cons_self, unleased⟩
            | tail _ there =>
                have same : device ≠ id := fun same => once (same ▸ there)
                have free := free device there
                rw [standing_lease, if_neg same] at free
                exact ⟨List.mem_cons_of_mem _ free.1, free.2⟩
          · intro device
            rw [after device, standing_lease]
            by_cases same : device = id <;> by_cases there : device ∈ granted <;>
              simp [same, there]

/-- A claim leases devices that are dirty and not leased, once the leases that have run out are
released; nothing else happens to any device. -/
theorem claim_grants (matched : l.Matched) (now ttl : Time) (token : LeaseToken) (limit : Nat) :
    (claim now ttl token limit l).1.Nodup ∧
      (∀ id ∈ (claim now ttl token limit l).1,
        ((l.standing id).released now).marked ∧ ((l.standing id).released now).lease = none) ∧
      (claim now ttl token limit l).2.Matched ∧
      ∀ device, (claim now ttl token limit l).2.standing device =
        if device ∈ (claim now ttl token limit l).1 then ⟨False, some (token, now + ttl)⟩
        else (l.standing device).released now := by
  obtain ⟨granted, returned, nodup, free, kept, after⟩ :=
    @claimFrom_grants _ (now + ttl) limit token (l.expire now).dirty.range [] (matched.expire now)
  rw [List.nil_append] at returned
  refine ⟨returned ▸ nodup, fun id there => ?_, kept, fun device => ?_⟩
  · rw [claim, returned] at there
    rw [← standing_expire matched]
    exact ⟨SortedSet.mem_range.mp (free id there).1, (free id there).2⟩
  · rw [claim, after device, returned, standing_expire matched]

theorem Matched.settle (matched : l.Matched) (id : String) (token : LeaseToken)
    (mode : SettleMode) : (l.settle id token mode).1.Matched := by
  rw [Leases.settle]
  split
  · intro device
    simp only [AList.mem_erase, drop]
    by_cases same : device = id
    · simp [same]
    · simp [same, matched device]
  · exact matched

/-- A token that is not the current one settles nothing. -/
theorem settle_stale (stale : l.tokens id ≠ some token) : l.settle id token mode = (l, 0) :=
  if_neg stale

theorem standing_settle (current : l.tokens id = some token) :
    (l.settle id token mode).1.standing device =
      if device = id then ⟨(l.standing id).marked ∨ mode = .retry, none⟩
      else l.standing device := by
  rw [settle, if_pos current]
  by_cases same : device = id
  · subst same
    cases mode <;> simp [standing, drop]
  · cases mode <;> simp [standing, drop, same, AList.lookup_erase_ne same]

theorem Matched.mark (matched : l.Matched) (scores : List (String × Int)) :
    (l.mark scores).Matched := matched

theorem standing_mark {scores : List (String × Int)} :
    (l.mark scores).standing device =
      ⟨device ∈ scores.map Prod.fst ∨ (l.standing device).marked, (l.standing device).lease⟩ := by
  simp only [standing, mark, SortedSet.mem_foldl_insert]

end Leases
end CoffeeCloud
