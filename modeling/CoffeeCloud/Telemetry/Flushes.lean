import CoffeeCloud.Library.Machine
import CoffeeCloud.Telemetry.Leases

/-!
Writes to the hot state of devices, and the workers that flush it. A write sets
the hash of a device and then marks the device; a worker claims devices, reads
their hashes one by one, applies them in one transaction and settles the devices
one by one. Each step may fall between any two others, and a worker may stop
after any of its steps.
-/
namespace CoffeeCloud
open Library

/-- The hash of a device. -/
structure HotState where
  values : String → Option String := fun _ => none
  revision : Nat := 0

def HotState.write (values : List (String × String)) (state : HotState) : HotState where
  values := drop (values.foldl (fun m v => put m v.1 v.2) state.values) "progressPayload"
  revision := state.revision + 1

/-- A write that has set the hash: the revision it left there, and whether it has marked the
device too. -/
structure CacheWrite where
  deviceId : String
  revision : Nat
  finished : Bool := false

inductive FlushStage where
  | reading
  | committed
  | failed
deriving DecidableEq

/-- One pass of `flush_telemetry_batch`. -/
structure Flush where
  expires : Time
  claimed : List String
  reads : List HotState := []
  stage : FlushStage := .reading
  settled : Nat := 0
  running : Bool := true

structure TelemetrySystem where
  leases : Leases := {}
  hot : String → HotState := fun _ => {}
  writes : Nat → Option CacheWrite := fun _ => none
  started : Nat := 0
  /-- The passes, by the token they claimed with. -/
  flushes : LeaseToken → Option Flush := fun _ => none
  drawn : LeaseToken := 0
  clock : Time := 0

inductive TelemetryAction where
  | store (deviceId : String) (values : List (String × String))
  /-- The end of one write or of a batch of them, with the scores their devices are marked with. -/
  | mark (writes : List (Nat × Int))
  | claim (limit : Nat)
  | read (token : LeaseToken)
  | apply (token : LeaseToken) (commits : Bool)
  | settle (token : LeaseToken)
  | crash (token : LeaseToken)
  | wait (elapsed : Nat)

namespace Flush

/-- What `claim_dirty` hands on, as far as the reads have come. -/
def snapshots (f : Flush) : List (String × HotState) := f.claimed.zip f.reads

/-- The pass has read the device of the write at the write or after it. -/
def Saw (f : Flush) (w : CacheWrite) : Prop :=
  ∃ state, (w.deviceId, state) ∈ f.snapshots ∧ w.revision ≤ state.revision

/-- The device is leased to the pass: claimed, not settled since, and the lease has not run out. -/
def Holds (f : Flush) (clock : Time) (id : String) : Prop :=
  id ∈ f.claimed.drop f.settled ∧ clock < f.expires

def mode (f : Flush) : SettleMode := if f.stage = .committed then .ack else .retry

end Flush

namespace TelemetrySystem

def record (s : TelemetrySystem) (token : LeaseToken) (f : Flush) : TelemetrySystem :=
  { s with flushes := put s.flushes token f }

def next (s : TelemetrySystem) : TelemetryAction → TelemetrySystem
  | .store id values =>
      let state := (s.hot id).write values
      { s with
        hot := fun device => if device = id then state else s.hot device
        writes := put s.writes s.started { deviceId := id, revision := state.revision }
        started := s.started + 1 }
  | .mark marks => { s with
      leases := s.leases.mark
        (marks.filterMap fun m => (s.writes m.1).map fun w => (w.deviceId, m.2))
      writes := fun i =>
        if i ∈ marks.map Prod.fst then (s.writes i).map fun w => { w with finished := true }
        else s.writes i }
  | .claim limit =>
      let (claimed, leases) := s.leases.claim s.clock (seconds 30) s.drawn (max 1 limit)
      { s with
        leases
        flushes := put s.flushes s.drawn { expires := s.clock + seconds 30, claimed }
        drawn := s.drawn + 1 }
  | .read token =>
      match s.flushes token with
      | some f =>
          match f.claimed[f.reads.length]? with
          | some id =>
              if f.running ∧ f.stage = .reading then
                s.record token { f with reads := f.reads ++ [s.hot id] }
              else s
          | none => s
      | none => s
  | .apply token commits =>
      match s.flushes token with
      | some f =>
          if f.running ∧ f.stage = .reading ∧ f.reads.length = f.claimed.length then
            s.record token { f with stage := if commits then .committed else .failed }
          else s
      | none => s
  | .settle token =>
      match s.flushes token with
      | some f =>
          match f.claimed[f.settled]? with
          | some id =>
              if f.running ∧ f.stage ≠ .reading then
                { s.record token { f with settled := f.settled + 1 } with
                  leases := (s.leases.settle id token f.mode).1 }
              else s
          | none => s
      | none => s
  | .crash token => { s with flushes := adjust s.flushes token fun f => { f with running := false } }
  | .wait elapsed => { s with clock := s.clock + elapsed }

def machine : Machine TelemetrySystem TelemetryAction Unit where
  next s a := (next s a, ())

variable {s : TelemetrySystem}

/-- What a finished write has left: its device is marked, or the pass that holds it will read or has
read the device since, or a pass that committed has. -/
def Tracked (s : TelemetrySystem) (w : CacheWrite) : Prop :=
  (s.leases.standing w.deviceId).marked ∨
  (∃ token f expires, s.flushes token = some f ∧
    (s.leases.standing w.deviceId).lease = some (token, expires) ∧ w.deviceId ∈ f.claimed ∧
    ∀ state, (w.deviceId, state) ∈ f.snapshots → w.revision ≤ state.revision) ∨
  ∃ token f, s.flushes token = some f ∧ f.stage = .committed ∧ f.Saw w

structure Sound (s : TelemetrySystem) : Prop where
  matched : s.leases.Matched
  stored : ∀ i w, s.writes i = some w → w.revision ≤ (s.hot w.deviceId).revision
  undrawn : ∀ token, s.drawn ≤ token → s.flushes token = none
  complete : ∀ token f, s.flushes token = some f →
    f.claimed.Nodup ∧ (f.stage ≠ .reading → f.reads.length = f.claimed.length)
  held : ∀ token f id, s.flushes token = some f → f.Holds s.clock id →
    (s.leases.standing id).lease = some (token, f.expires)
  tracked : ∀ i w, s.writes i = some w → w.finished → s.Tracked w

theorem sound_empty : Sound {} where
  matched := Leases.matched_empty
  stored := by simp
  undrawn := by simp
  complete := by simp
  held := by simp
  tracked := by simp

theorem Sound.token_lt (sound : s.Sound) {token : LeaseToken} {f : Flush}
    (there : s.flushes token = some f) : token < s.drawn := by
  by_contra beyond
  have gone := sound.undrawn token (Nat.le_of_not_lt beyond)
  simp [gone] at there

/-! A pass that goes on. -/

theorem mem_zip_append {α β : Type} {xs : List α} {ys zs : List β} {p : α × β}
    (mem : p ∈ xs.zip ys) : p ∈ xs.zip (ys ++ zs) := by
  induction xs generalizing ys with
  | nil => simp at mem
  | cons x xs ih =>
      cases ys with
      | nil => simp at mem
      | cons y ys =>
          simp only [List.zip_cons_cons, List.mem_cons, List.cons_append] at mem ⊢
          exact mem.imp_right ih

theorem exists_zip {α β : Type} {xs : List α} {ys : List β} (same : xs.length = ys.length) {x : α}
    (mem : x ∈ xs) : ∃ y, (x, y) ∈ xs.zip ys := by
  induction xs generalizing ys with
  | nil => simp at mem
  | cons x' xs ih =>
      cases ys with
      | nil => simp at same
      | cons y ys =>
          cases mem with
          | head => exact ⟨y, List.mem_cons_self⟩
          | tail _ mem =>
              obtain ⟨y', there⟩ := ih (by simpa using same) mem
              exact ⟨y', List.mem_cons_of_mem _ there⟩

theorem mem_zip_concat {α β : Type} {xs : List α} {ys : List β} {y : β} {p : α × β}
    (mem : p ∈ xs.zip (ys ++ [y])) : p ∈ xs.zip ys ∨ xs[ys.length]? = some p.1 ∧ y = p.2 := by
  induction xs generalizing ys with
  | nil => simp at mem
  | cons x xs ih =>
      cases ys with
      | nil =>
          simp only [List.nil_append, List.zip_cons_cons, List.zip_nil_right, List.mem_cons,
            List.not_mem_nil, or_false] at mem
          simp [mem]
      | cons y' ys =>
          simp only [List.cons_append, List.zip_cons_cons, List.mem_cons] at mem ⊢
          cases mem with
          | inl here => exact .inl (.inl here)
          | inr later =>
              cases ih later with
              | inl before => exact .inl (.inr before)
              | inr last => exact .inr last

section Record
variable {token : LeaseToken} {f f' : Flush} {w : CacheWrite}

theorem flushes_record (there : s.flushes token = some f) {other : LeaseToken} {g : Flush}
    (found : s.flushes other = some g) :
    ∃ g', (s.record token f').flushes other = some g' ∧
      (other = token ∧ g = f ∧ g' = f' ∨ other ≠ token ∧ g' = g) := by
  by_cases same : other = token
  · subst same
    rw [there, Option.some.injEq] at found
    exact ⟨f', put_same _ _ _, .inl ⟨rfl, found.symm, rfl⟩⟩
  · exact ⟨g, (put_of_ne same).trans found, .inr ⟨same, rfl⟩⟩

theorem of_flushes_record {other : LeaseToken} {g : Flush}
    (found : (s.record token f').flushes other = some g) :
    other = token ∧ g = f' ∨ other ≠ token ∧ s.flushes other = some g := by
  by_cases same : other = token
  · subst same
    exact .inl ⟨rfl, (Option.some.inj ((put_same s.flushes other f').symm.trans found)).symm⟩
  · exact .inr ⟨same, (put_of_ne same).symm.trans found⟩

/-- What the pass reads next is no older than the writes there are. -/
theorem Tracked.record (tracked : s.Tracked w) (there : s.flushes token = some f)
    (claimed : f'.claimed = f.claimed) (commits : f.stage = .committed → f'.stage = .committed)
    (saw : f.Saw w → f'.Saw w)
    (recent : ∀ state, (w.deviceId, state) ∈ f'.snapshots →
      (w.deviceId, state) ∈ f.snapshots ∨ w.revision ≤ state.revision) :
    (s.record token f').Tracked w := by
  rcases tracked with marked | ⟨other, g, expires, found, leased, mem, fresh⟩ |
    ⟨other, g, found, committed, seen⟩
  · exact .inl marked
  · obtain ⟨g', found', ⟨-, rfl, rfl⟩ | ⟨-, rfl⟩⟩ := @flushes_record _ _ _ f' there _ _ found
    · refine .inr (.inl ⟨other, g', expires, found', leased, claimed ▸ mem, fun state here => ?_⟩)
      cases recent state here with
      | inl before => exact fresh state before
      | inr late => exact late
    · exact .inr (.inl ⟨other, g', expires, found', leased, mem, fresh⟩)
  · obtain ⟨g', found', ⟨-, rfl, rfl⟩ | ⟨-, rfl⟩⟩ := @flushes_record _ _ _ f' there _ _ found
    · exact .inr (.inr ⟨other, g', found', commits committed, saw seen⟩)
    · exact .inr (.inr ⟨other, g', found', committed, seen⟩)

theorem Sound.record (sound : s.Sound) (there : s.flushes token = some f)
    (complete : f'.claimed.Nodup ∧ (f'.stage ≠ .reading → f'.reads.length = f'.claimed.length))
    (expires : f'.expires = f.expires)
    (held : ∀ id, f'.Holds s.clock id → f.Holds s.clock id)
    (tracked : ∀ i w, s.writes i = some w → w.finished → (s.record token f').Tracked w) :
    (s.record token f').Sound where
  matched := sound.matched
  stored := sound.stored
  undrawn other beyond := by
    have before := sound.token_lt there
    have later : s.drawn ≤ other := beyond
    exact (put_of_ne (Nat.ne_of_gt (Nat.lt_of_lt_of_le before later))).trans
      (sound.undrawn other later)
  complete other g found := by
    rcases of_flushes_record found with ⟨-, rfl⟩ | ⟨-, found⟩
    · exact complete
    · exact sound.complete other g found
  held other g id found holds := by
    rcases of_flushes_record found with ⟨rfl, rfl⟩ | ⟨-, found⟩
    · exact expires ▸ sound.held other f id there (held id holds)
    · exact sound.held other g id found holds
  tracked := tracked

end Record

theorem Sound.store (sound : s.Sound) (id : String) (values : List (String × String)) :
    (s.next (.store id values)).Sound where
  matched := sound.matched
  stored i w found := by
    have grows : ∀ device, (s.hot device).revision ≤
        ((s.next (.store id values)).hot device).revision := by
      intro device
      simp only [next]
      split
      · next same =>
          subst same
          exact Nat.le_succ _
      · exact Nat.le_refl _
    by_cases new : i = s.started
    · subst new
      simp only [next, put_same, Option.some.injEq] at found
      subst found
      simp [next]
    · exact (sound.stored i w ((put_of_ne new).symm.trans found)).trans (grows _)
  undrawn := sound.undrawn
  complete := sound.complete
  held := sound.held
  tracked i w found done := by
    by_cases new : i = s.started
    · subst new
      simp only [next, put_same, Option.some.injEq] at found
      subst found
      simp at done
    · exact sound.tracked i w ((put_of_ne new).symm.trans found) done

theorem Sound.mark (sound : s.Sound) (marks : List (Nat × Int)) :
    (s.next (.mark marks)).Sound := by
  -- A write is marked together with its device, so only its mark is new.
  have before : ∀ i w, (s.next (.mark marks)).writes i = some w → ∃ w', s.writes i = some w' ∧
      w.deviceId = w'.deviceId ∧ w.revision = w'.revision ∧
      (w.finished → w'.finished ∨ i ∈ marks.map Prod.fst) := by
    intro i w found
    by_cases marked : i ∈ marks.map Prod.fst
    · simp only [next, if_pos marked, Option.map_eq_some_iff] at found
      obtain ⟨w', found, rfl⟩ := found
      exact ⟨w', found, rfl, rfl, fun _ => .inr marked⟩
    · simp only [next, if_neg marked] at found
      exact ⟨w, found, rfl, rfl, Or.inl⟩
  constructor
  · exact sound.matched.mark _
  · intro i w found
    obtain ⟨w', found, device, revision, -⟩ := before i w found
    rw [device, revision]
    exact sound.stored i w' found
  · exact sound.undrawn
  · exact sound.complete
  · intro token f id found holds
    simp only [next, Leases.standing_mark]
    exact sound.held token f id found holds
  · intro i w found done
    obtain ⟨w', found', device, revision, finished⟩ := before i w found
    simp only [Tracked, Flush.Saw, device, revision, next, Leases.standing_mark]
    cases finished done with
    | inl finished =>
        rcases sound.tracked i w' found' finished with marked | leased | flushed
        · exact .inl (.inr marked)
        · exact .inr (.inl leased)
        · exact .inr (.inr flushed)
    | inr marked =>
        refine .inl (.inl ?_)
        obtain ⟨m, there, rfl⟩ := List.mem_map.mp marked
        refine List.mem_map.mpr ⟨(w'.deviceId, m.2), List.mem_filterMap.mpr ⟨m, there, ?_⟩, rfl⟩
        rw [found', Option.map_some]

theorem Sound.claim (sound : s.Sound) (limit : Nat) : (s.next (.claim limit)).Sound := by
  obtain ⟨nodup, free, matched, after⟩ :=
    Leases.claim_grants sound.matched s.clock (seconds 30) s.drawn (max 1 limit)
  have old : ∀ {token g}, s.flushes token = some g →
      (s.next (.claim limit)).flushes token = some g := by
    intro token g found
    exact (put_of_ne (Nat.ne_of_lt (sound.token_lt found))).trans found
  have new : (s.next (.claim limit)).flushes s.drawn = some
      { expires := s.clock + seconds 30,
        claimed := (s.leases.claim s.clock (seconds 30) s.drawn (max 1 limit)).1 } :=
    put_same _ _ _
  constructor
  · exact matched
  · exact sound.stored
  · intro token beyond
    have later : s.drawn < token := beyond
    exact (put_of_ne (Nat.ne_of_gt later)).trans (sound.undrawn token (Nat.le_of_lt later))
  · intro token g found
    by_cases same : token = s.drawn
    · subst same
      rw [new, Option.some.injEq] at found
      subst found
      exact ⟨nodup, fun reads => absurd rfl reads⟩
    · exact sound.complete token g ((put_of_ne same).symm.trans found)
  · intro token g id found holds
    have later := after id
    by_cases same : token = s.drawn
    · subst same
      rw [new, Option.some.injEq] at found
      subst found
      have claimed := List.mem_of_mem_drop holds.1
      simp only [next]
      rw [later, if_pos claimed]
    · -- A lease that has not run out is not released, so nobody else gets it.
      have standing := sound.held token g id ((put_of_ne same).symm.trans found) holds
      have kept : (s.leases.standing id).released s.clock = s.leases.standing id := by
        have live : ¬ g.expires ≤ s.clock := not_le_of_gt holds.2
        simp only [Leases.Standing.released, standing, if_neg live]
      have unclaimed : id ∉ (s.leases.claim s.clock (seconds 30) s.drawn (max 1 limit)).1 := by
        intro claimed
        have unleased := (free id claimed).2
        rw [kept, standing] at unleased
        cases unleased
      simp only [next]
      rw [later, if_neg unclaimed, kept, standing]
  · intro i w found done
    have later := after w.deviceId
    by_cases claimed : w.deviceId ∈
        (s.leases.claim s.clock (seconds 30) s.drawn (max 1 limit)).1
    · rw [if_pos claimed] at later
      refine .inr (.inl ⟨s.drawn, _, s.clock + seconds 30, new, ?_, claimed, by
        simp [Flush.snapshots]⟩)
      simp only [next]
      rw [later]
    · rw [if_neg claimed] at later
      rcases sound.tracked i w found done with marked | ⟨token, g, expires, there, leased, rest⟩ |
        ⟨token, g, there, rest⟩
      · left
        simp only [next]
        rw [later, Leases.Standing.released]
        split
        · split
          · trivial
          · exact marked
        · exact marked
      · by_cases lapsed : expires ≤ s.clock
        · left
          simp only [next]
          rw [later]
          simp only [Leases.Standing.released, leased, if_pos lapsed]
        · right
          left
          refine ⟨token, g, expires, old there, ?_, rest⟩
          simp only [next]
          rw [later]
          simp only [Leases.Standing.released, leased, if_neg lapsed]
      · exact .inr (.inr ⟨token, g, old there, rest⟩)

theorem Sound.read (sound : s.Sound) (token : LeaseToken) : (s.next (.read token)).Sound := by
  simp only [next]
  cases there : s.flushes token with
  | none => exact sound
  | some f =>
      cases position : f.claimed[f.reads.length]? with
      | none =>
          simp only [position]
          exact sound
      | some id =>
          by_cases reading : f.running ∧ f.stage = .reading
          · simp only [position, if_pos reading]
            refine sound.record there ⟨(sound.complete token f there).1,
              fun later => absurd reading.2 later⟩ rfl (fun _ holds => holds) ?_
            intro i w found done
            refine (sound.tracked i w found done).record there rfl (fun committed => committed)
              ?_ ?_
            · intro ⟨state, here, recent⟩
              refine ⟨state, ?_, recent⟩
              simp only [Flush.snapshots] at here ⊢
              exact mem_zip_append here
            · intro state here
              simp only [Flush.snapshots] at here ⊢
              cases mem_zip_concat here with
              | inl before => exact .inl before
              | inr last =>
                  simp only [position, Option.some.injEq] at last
                  rw [← last.2, last.1]
                  exact .inr (sound.stored i w found)
          · simp only [position, if_neg reading]
            exact sound

theorem Sound.apply (sound : s.Sound) (token : LeaseToken) (commits : Bool) :
    (s.next (.apply token commits)).Sound := by
  simp only [next]
  cases there : s.flushes token with
  | none => exact sound
  | some f =>
      by_cases finished : f.running ∧ f.stage = .reading ∧ f.reads.length = f.claimed.length
      · simp only [if_pos finished]
        refine sound.record there ⟨(sound.complete token f there).1, fun _ => finished.2.2⟩ rfl
          (fun _ holds => holds) ?_
        intro i w found done
        refine (sound.tracked i w found done).record there rfl ?_ (fun saw => saw)
          (fun _ here => .inl here)
        intro committed
        rw [finished.2.1] at committed
        cases committed
      · simp only [if_neg finished]
        exact sound

theorem Sound.crash (sound : s.Sound) (token : LeaseToken) : (s.next (.crash token)).Sound := by
  simp only [next]
  cases there : s.flushes token with
  | none =>
      rw [adjust_eq_self (by simp [there])]
      exact sound
  | some f =>
      rw [adjust_of_some there]
      refine @Sound.record _ _ _ { f with running := false } sound there (sound.complete token f there)
        rfl (fun _ holds => holds) ?_
      intro i w found done
      exact (sound.tracked i w found done).record there rfl (fun committed => committed)
        (fun saw => saw) (fun _ here => .inl here)

/-- The token settles the device it has come to. Where it is the current one, the pass has read
every device, so an `ack` leaves a pass that committed behind. -/
theorem Sound.settleOne (sound : s.Sound) {token : LeaseToken} {f : Flush} {id : String}
    (there : s.flushes token = some f) (position : f.claimed[f.settled]? = some id)
    (ready : f.stage ≠ .reading) :
    Sound { s.record token { f with settled := f.settled + 1 } with
      leases := (s.leases.settle id token f.mode).1 } := by
  have claimed : id ∈ f.claimed := List.mem_of_getElem? position
  obtain ⟨nodup, complete⟩ := sound.complete token f there
  have rest : f.claimed.drop f.settled = id :: f.claimed.drop (f.settled + 1) :=
    List.drop_eq_getElem?_toList_append.trans (by rw [position, Option.toList_some]; rfl)
  have recorded : (s.record token { f with settled := f.settled + 1 }).Sound := by
    refine sound.record there (sound.complete token f there) rfl ?_ ?_
    · intro device holds
      exact ⟨rest ▸ List.mem_cons_of_mem _ holds.1, holds.2⟩
    · intro i w found done
      exact (sound.tracked i w found done).record there rfl (fun committed => committed)
        (fun saw => saw) (fun _ here => .inl here)
  by_cases current : s.leases.tokens id = some token
  · obtain ⟨expires, leased⟩ := sound.matched.holds.mp current
    refine { recorded with
      matched := sound.matched.settle _ _ _
      held := fun other g device found holds => ?_
      tracked := fun i w found done => ?_ }
    · have before := recorded.held other g device found holds
      have other_id : device ≠ id := by
        rintro rfl
        -- Whoever held the device under a lease held the current token.
        have same : other = token := by
          have agree := before.symm.trans leased
          simp only [Option.some.injEq, Prod.mk.injEq] at agree
          exact agree.1
        subst same
        have moved : g = { f with settled := f.settled + 1 } :=
          Option.some.inj (found.symm.trans (put_same _ _ _))
        subst moved
        have once : device ∉ f.claimed.drop (f.settled + 1) :=
          (List.nodup_cons.mp (rest ▸ nodup.sublist (List.drop_sublist _ _))).1
        exact once holds.1
      rw [Leases.standing_settle current, if_neg other_id]
      exact before
    · have before := recorded.tracked i w found done
      simp only [Tracked, Leases.standing_settle current]
      by_cases same : w.deviceId = id
      · rw [if_pos same]
        by_cases committed : f.stage = .committed
        · rcases before with marked | ⟨other, g, expires', found', leased', mem, fresh⟩ | flushed
          · exact .inl (.inl (same ▸ marked))
          · right
            right
            have here : other = token := by
              have agree := (same ▸ leased').symm.trans leased
              simp only [Option.some.injEq, Prod.mk.injEq] at agree
              exact agree.1
            subst here
            have moved : g = { f with settled := f.settled + 1 } :=
              Option.some.inj (found'.symm.trans (put_same _ _ _))
            subst moved
            obtain ⟨state, read⟩ := exists_zip (complete ready).symm mem
            exact ⟨other, _, found', committed, state, read, fresh state read⟩
          · exact .inr (.inr flushed)
        · exact .inl (.inr (by simp only [Flush.mode, if_neg committed]))
      · rw [if_neg same]
        exact before
  · rw [Leases.settle_stale current]
    exact recorded

theorem Sound.settle (sound : s.Sound) (token : LeaseToken) :
    (s.next (.settle token)).Sound := by
  simp only [next]
  cases there : s.flushes token with
  | none => exact sound
  | some f =>
      cases position : f.claimed[f.settled]? with
      | none =>
          simp only [position]
          exact sound
      | some id =>
          by_cases ready : f.running ∧ f.stage ≠ .reading
          · simp only [position, if_pos ready]
            exact sound.settleOne there position ready.2
          · simp only [position, if_neg ready]
            exact sound

theorem Sound.wait (sound : s.Sound) (elapsed : Nat) : (s.next (.wait elapsed)).Sound :=
  { sound with
    held := fun token f id found holds => by
      have later : s.clock + elapsed < f.expires := holds.2
      exact sound.held token f id found ⟨holds.1,
        (le_add_of_nonneg_right (Int.natCast_nonneg elapsed)).trans_lt later⟩ }

theorem Sound.step (sound : s.Sound) (a : TelemetryAction) : (s.next a).Sound := by
  cases a with
  | store id values => exact sound.store id values
  | mark marks => exact sound.mark marks
  | claim limit => exact sound.claim limit
  | read token => exact sound.read token
  | apply token commits => exact sound.apply token commits
  | settle token => exact sound.settle token
  | crash token => exact sound.crash token
  | wait elapsed => exact sound.wait elapsed

theorem sound_run (as : List TelemetryAction) : (machine.run {} as).Sound :=
  Machine.invariant_run (fun _ a sound _ => sound.step a) sound_empty
    (Machine.along_true machine {} as)

/-- A finished write is not lost: its device is still dirty or processing, or a flush that committed
read the device at the write or after it. -/
def Kept (s : TelemetrySystem) (w : CacheWrite) : Prop :=
  w.deviceId ∈ s.leases.dirty ∨ w.deviceId ∈ s.leases.processing ∨
    ∃ token f, s.flushes token = some f ∧ f.stage = .committed ∧ f.Saw w

theorem Sound.kept (sound : s.Sound) {i : Nat} {w : CacheWrite} (found : s.writes i = some w)
    (done : w.finished) : s.Kept w := by
  rcases sound.tracked i w found done with marked | ⟨token, f, expires, -, leased, -⟩ | flushed
  · exact .inl marked
  · right
    left
    by_contra free
    rw [sound.matched.lease_none.mpr free] at leased
    cases leased
  · exact .inr (.inr flushed)

/-- However writes, flushes, crashes and expiries fall between each other: every finished write is
flushed or still marked, a token that is not the current one settles nothing, and no device is
leased to two tokens at once. -/
theorem flushed_or_marked (as : List TelemetryAction) :
    (∀ i w, (machine.run {} as).writes i = some w → w.finished → (machine.run {} as).Kept w) ∧
    (∀ id token mode, (machine.run {} as).leases.tokens id ≠ some token →
      (machine.run {} as).leases.settle id token mode = ((machine.run {} as).leases, 0)) ∧
    ∀ token f token' f' id, (machine.run {} as).flushes token = some f →
      (machine.run {} as).flushes token' = some f' → f.Holds (machine.run {} as).clock id →
      f'.Holds (machine.run {} as).clock id → token = token' := by
  have sound := sound_run as
  refine ⟨fun i w found done => sound.kept found done,
    fun id token mode stale => Leases.settle_stale stale, ?_⟩
  intro token f token' f' id found found' holds holds'
  have one := sound.held token f id found holds
  have other := sound.held token' f' id found' holds'
  rw [one, Option.some.injEq, Prod.mk.injEq] at other
  exact other.1

end TelemetrySystem
end CoffeeCloud
