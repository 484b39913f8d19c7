import Relay.Proofs.Claiming
/-!
# The rules of a claim

What `Guard.claim` comes to on a store that no one else writes, by the live text under the
claim's key: a free key is taken with a fresh in-flight record; a completed record with a
result is replayed; an in-flight record younger than the liveness span is left to its owner;
anything else (a text that is no record, an older in-flight record, a completed record
without a result) is taken over with the fresh record. A store that is switched off fails the
claim's first call, and every call of a claim on such a store degrades it and writes nothing.

The age of a record is the wall clock less the record's time, taken as zero when negative. The
code computes it in 64 signed bits, and a record whose time is far enough in the past (the
least 64-bit integer, at any time after the epoch) makes that subtraction overflow, so
`claim_follows_rules` assumes it fits, as it assumes the fresh record's deadline falls before
the end of the monotonic clock. `claim_panics_on_oldest_record` is the overflow.
-/
namespace Relay.Cache.Guard

structure Rules (g : Guard) (c : Clock) (did : String) (live : Option String) (x : Claim) :
    Prop where
  acquired : x = .acquired ↔ live = none
  completed : ∀ r, x = .completed r ↔ ∃ raw rec, live = some raw ∧
    ClaimRecord.decode raw = .ok rec ∧ rec.state = .completed ∧ rec.result = some r
  inFlight : ∀ same owner, x = .inFlight same owner ↔ ∃ raw rec, live = some raw ∧
    ClaimRecord.decode raw = .ok rec ∧ rec.state = .inFlight ∧
    max 0 (c.wall.ms - rec.claimedAtMs) * 1000000 < (g.liveness.nanos : Int) ∧
    same = (rec.deliveryId == did) ∧ owner = rec.owner
  reclaimed : ∀ previous, x = .reclaimed previous ↔ ∃ raw, live = some raw ∧
    ((∃ e, ClaimRecord.decode raw = .error e) ∧ previous = none ∨
      ∃ rec, ClaimRecord.decode raw = .ok rec ∧ previous = some rec.owner ∧
        (rec.state = .inFlight ∧
            (g.liveness.nanos : Int) ≤ max 0 (c.wall.ms - rec.claimedAtMs) * 1000000 ∨
          rec.state = .completed ∧ rec.result = none))

def freshRecord (g : Guard) (c : Clock) (did : String) : ClaimRecord :=
  ⟨.inFlight, g.owner, did, c.wall.ms, none⟩

variable {g : Guard} {c : Clock} {did raw : String} {rec : ClaimRecord}

section Judging

theorem ofMillis_lt_liveness (d : Int) :
    Span.ofMillis d.toNat < g.liveness ↔ max 0 d * 1000000 < (g.liveness.nanos : Int) := by
  show d.toNat * 1000000 < g.liveness.nanos ↔ _
  omega

theorem judge_unreadable {e : Json.Stop} (h : ClaimRecord.decode raw = .error e) :
    g.judge c.wall did raw = .ok (.inr none) := by
  simp [judge, h]

theorem judge_readable (h : ClaimRecord.decode raw = .ok rec)
    (hfit : fitsInt64 (c.wall.ms - rec.claimedAtMs) = true) :
    g.judge c.wall did raw =
      match rec.state, rec.result with
      | .completed, some r => .ok (.inl (.completed r))
      | .inFlight, _ =>
        if max 0 (c.wall.ms - rec.claimedAtMs) * 1000000 < (g.liveness.nanos : Int) then
          .ok (.inl (.inFlight (rec.deliveryId == did) rec.owner))
        else .ok (.inr (some rec.owner))
      | .completed, none => .ok (.inr (some rec.owner)) := by
  have ha : age c.wall rec = .ok (Span.ofMillis (c.wall.ms - rec.claimedAtMs).toNat) := by
    simp [age, hfit]
  simp only [judge, h, ha, bind, Except.bind, pure, Except.pure]
  cases rec.state <;> cases rec.result <;> simp [ofMillis_lt_liveness]

end Judging

section Rows

variable (g c did)

theorem rules_absent : Rules g c did none .acquired where
  acquired := by simp
  completed r := by simp
  inFlight same owner := by simp
  reclaimed previous := by simp

theorem rules_unreadable {e : Json.Stop} (h : ClaimRecord.decode raw = .error e) :
    Rules g c did (some raw) (.reclaimed none) where
  acquired := by simp
  completed r := by simp [h]
  inFlight same owner := by simp [h]
  reclaimed previous := by simp [h, eq_comm]

theorem rules_completed {r : Reply} (h : ClaimRecord.decode raw = .ok rec)
    (hs : rec.state = .completed) (hr : rec.result = some r) :
    Rules g c did (some raw) (.completed r) where
  acquired := by simp
  completed r' := by simp [h, hs, hr, eq_comm]
  inFlight same owner := by simp [h, hs]
  reclaimed previous := by simp [h, hs, hr]

theorem rules_resultless (h : ClaimRecord.decode raw = .ok rec)
    (hs : rec.state = .completed) (hr : rec.result = none) :
    Rules g c did (some raw) (.reclaimed (some rec.owner)) where
  acquired := by simp
  completed r' := by simp [h, hs, hr]
  inFlight same owner := by simp [h, hs]
  reclaimed previous := by simp [h, hs, hr, eq_comm]

theorem rules_live (h : ClaimRecord.decode raw = .ok rec) (hs : rec.state = .inFlight)
    (hl : max 0 (c.wall.ms - rec.claimedAtMs) * 1000000 < (g.liveness.nanos : Int)) :
    Rules g c did (some raw) (.inFlight (rec.deliveryId == did) rec.owner) where
  acquired := by simp
  completed r' := by simp [h, hs]
  inFlight same owner := by
    simp [h, hs, hl]
    constructor <;> rintro ⟨rfl, rfl⟩ <;> exact ⟨rfl, rfl⟩
  reclaimed previous := by
    simp [h, hs]
    exact fun _ => hl

theorem rules_stale (h : ClaimRecord.decode raw = .ok rec) (hs : rec.state = .inFlight)
    (hl : (g.liveness.nanos : Int) ≤ max 0 (c.wall.ms - rec.claimedAtMs) * 1000000) :
    Rules g c did (some raw) (.reclaimed (some rec.owner)) where
  acquired := by simp
  completed r' := by simp [h, hs]
  inFlight same owner := by
    simp [h, hs]
    intro hlt
    omega
  reclaimed previous := by simp [h, hs, hl, eq_comm]

end Rows

section Calls

variable {s : Store} {op rid : String}

theorem claim_eq (g : Guard) (s : Store) (c : Clock) (op rid did : String) :
    g.claim s c op rid did =
      g.claimRounds c (key op rid) (freshRecord g c did).encode did rounds s := rfl

theorem claim_offline (ha : s.available = false) :
    g.claim s c op rid did = .ok (.degraded Store.offline, s) := by
  simp [claim_eq, rounds, claimRounds, Store.setIfAbsent, Store.check, ha, bind, Except.bind]

def written (g : Guard) (s : Store) (c : Clock) (op rid did : String) : Store :=
  s.put (key op rid) ⟨(freshRecord g c did).encode, some (c.mono + g.ttl.nanos)⟩

variable (ha : s.available = true) (hd : c.mono + g.ttl.nanos ≤ Clock.monoEnd)

include ha hd in
theorem claim_absent (hl : s.live? c.mono (key op rid) = none) :
    g.claim s c op rid did = .ok (.acquired, written g s c op rid did) := by
  simp [claim_eq, rounds, claimRounds, Store.setIfAbsent_ok s c ha, hl, Store.fresh,
    Clock.deadline, hd, Except.map, written]

include ha in
theorem claim_judged {x : Claim} (hl : s.live? c.mono (key op rid) = some raw)
    (hj : g.judge c.wall did raw = .ok (.inl x)) :
    g.claim s c op rid did = .ok (x, s) := by
  simp [claim_eq, rounds, claimRounds, Store.setIfAbsent_ok s c ha, hl, Store.get_ok s c ha, hj]

include ha hd in
theorem claim_taken_over {previous : Option String} (hl : s.live? c.mono (key op rid) = some raw)
    (hj : g.judge c.wall did raw = .ok (.inr previous)) :
    g.claim s c op rid did = .ok (.reclaimed previous, written g s c op rid did) := by
  simp [claim_eq, rounds, claimRounds, Store.setIfAbsent_ok s c ha, hl, Store.get_ok s c ha, hj,
    Store.compareAndSwap_ok s c ha, Store.fresh, Clock.deadline, hd, Except.map, written]

end Calls

theorem step_offline {s : Store} (ha : s.available = false) (k fresh : String)
    {cl : Concurrent.Claiming} (hcl : cl ≠ .setting 0) (hdone : ∀ x, cl ≠ .decided x) :
    Concurrent.Claiming.step g c k fresh did s cl = .ok (.decided (.degraded Store.offline), s) := by
  cases cl with
  | setting n =>
    cases n with
    | zero => exact absurd rfl hcl
    | succ n => simp [Concurrent.Claiming.step, Store.setIfAbsent, Store.check, ha, bind, Except.bind]
  | fetching left => simp [Concurrent.Claiming.step, Store.get, Store.check, ha, bind, Except.bind]
  | swapping left raw previous =>
    simp [Concurrent.Claiming.step, Store.compareAndSwap, Store.check, ha, bind, Except.bind]
  | decided x => exact absurd rfl (hdone x)

/-- The rules of a claim. On a store that no one else writes, at one clock reading, a claim of
the request `rid` for the delivery `did` ends without a panic when the fresh record's deadline
falls before the end of the monotonic clock and the age of a readable record under the key fits
in 64 bits. A store that is switched on takes the fresh record under the key exactly when the
claim comes to `acquired` or `reclaimed`, and is left as it was otherwise; what the claim comes to
follows `Rules`. A store that is switched off degrades the claim with its fault and is left as
it was, at the claim's first call as at any other. -/
theorem claim_follows_rules (g : Guard) (s : Store) (c : Clock) (op rid did : String)
    (hd : c.mono + g.ttl.nanos ≤ Clock.monoEnd)
    (hage : ∀ raw rec, s.live? c.mono (key op rid) = some raw →
      ClaimRecord.decode raw = .ok rec → fitsInt64 (c.wall.ms - rec.claimedAtMs) = true) :
    (s.available = true → ∃ x, g.claim s c op rid did =
        .ok (x, if x.shouldProcess then written g s c op rid did else s) ∧
      Rules g c did (s.live? c.mono (key op rid)) x) ∧
    (s.available = false → g.claim s c op rid did = .ok (.degraded Store.offline, s)) ∧
    (s.available = false → ∀ k fresh (cl : Concurrent.Claiming), cl ≠ .setting 0 →
      (∀ x, cl ≠ .decided x) →
      Concurrent.Claiming.step g c k fresh did s cl = .ok (.decided (.degraded Store.offline), s)) := by
  refine ⟨fun ha => ?_, claim_offline, fun ha k fresh _ hcl hdone => step_offline ha k fresh hcl hdone⟩
  cases hl : s.live? c.mono (key op rid) with
  | none => exact ⟨_, claim_absent ha hd hl, rules_absent g c did⟩
  | some raw =>
    cases hdec : ClaimRecord.decode raw with
    | error e =>
      exact ⟨_, claim_taken_over ha hd hl (judge_unreadable hdec), rules_unreadable g c did hdec⟩
    | ok rec =>
      -- a readable record is judged by its state, its result and, in flight, its age
      have hj : g.judge c.wall did raw = _ := judge_readable hdec (hage raw rec hl hdec)
      cases hs : rec.state <;> cases hr : rec.result <;> simp only [hs, hr] at hj
      · by_cases hlive : max 0 (c.wall.ms - rec.claimedAtMs) * 1000000 < (g.liveness.nanos : Int)
        · rw [if_pos hlive] at hj
          exact ⟨_, claim_judged ha hl hj, rules_live g c did hdec hs hlive⟩
        · rw [if_neg hlive] at hj
          exact ⟨_, claim_taken_over ha hd hl hj, rules_stale g c did hdec hs (by omega)⟩
      · by_cases hlive : max 0 (c.wall.ms - rec.claimedAtMs) * 1000000 < (g.liveness.nanos : Int)
        · rw [if_pos hlive] at hj
          exact ⟨_, claim_judged ha hl hj, rules_live g c did hdec hs hlive⟩
        · rw [if_neg hlive] at hj
          exact ⟨_, claim_taken_over ha hd hl hj, rules_stale g c did hdec hs (by omega)⟩
      · exact ⟨_, claim_taken_over ha hd hl hj, rules_resultless g c did hdec hs hr⟩
      · exact ⟨_, claim_judged ha hl hj, rules_completed g c did hdec hs hr⟩

def sampleGuard : Guard := { owner := "worker-a" }

def epoch : Clock := ⟨0, ⟨0⟩⟩

def staleRecord : ClaimRecord := ⟨.inFlight, "o", "5-0", -100000, none⟩

def staleStore : Store := { entries := [(key "op" "r1", ⟨staleRecord.encode, none⟩)] }

theorem claim_follows_rules_stale :
    epoch.mono + sampleGuard.ttl.nanos ≤ Clock.monoEnd ∧
    (∀ raw rec, staleStore.live? epoch.mono (key "op" "r1") = some raw →
      ClaimRecord.decode raw = .ok rec → fitsInt64 (epoch.wall.ms - rec.claimedAtMs) = true) ∧
    (staleStore.available = true → ∃ x, sampleGuard.claim staleStore epoch "op" "r1" "1-0" =
        .ok (x, if x.shouldProcess then written sampleGuard staleStore epoch "op" "r1" "1-0"
          else staleStore) ∧
      Rules sampleGuard epoch "1-0" (staleStore.live? epoch.mono (key "op" "r1")) x) ∧
    (staleStore.available = false →
      sampleGuard.claim staleStore epoch "op" "r1" "1-0" = .ok (.degraded Store.offline, staleStore)) ∧
    (staleStore.available = false → ∀ k fresh (cl : Concurrent.Claiming), cl ≠ .setting 0 →
      (∀ x, cl ≠ .decided x) →
      Concurrent.Claiming.step sampleGuard epoch k fresh "1-0" staleStore cl =
        .ok (.decided (.degraded Store.offline), staleStore)) := by
  have hd : epoch.mono + sampleGuard.ttl.nanos ≤ Clock.monoEnd := by decide
  -- the one record under the key is the stale one, and its age fits in 64 bits
  have hage : ∀ raw rec, staleStore.live? epoch.mono (key "op" "r1") = some raw →
      ClaimRecord.decode raw = .ok rec → fitsInt64 (epoch.wall.ms - rec.claimedAtMs) = true := by
    intro raw rec hl hdec
    have hraw : raw = staleRecord.encode := by
      simp [staleStore, Store.live?, Store.find?, Entry.isLive] at hl
      exact hl.symm
    have hread : (ClaimRecord.decode staleRecord.encode).toOption = some staleRecord := by
      decide +kernel
    rw [← hraw, hdec] at hread
    cases hread
    decide
  exact ⟨hd, hage, claim_follows_rules sampleGuard staleStore epoch "op" "r1" "1-0" hd hage⟩

def oldestRecordStore : Store :=
  { entries := [(key "op" "r1", ⟨(ClaimRecord.mk .inFlight "o" "5-0" int64Min none).encode, none⟩)] }

/-- The age of a record stamped with the least 64-bit time overflows at the epoch, and the
claim panics instead of taking the record over. -/
theorem claim_panics_on_oldest_record :
    sampleGuard.claim oldestRecordStore epoch "op" "r1" "5-0" = .error Panic.subOverflow := by
  have h : (match sampleGuard.claim oldestRecordStore epoch "op" "r1" "5-0" with
    | .error p => decide (p = Panic.subOverflow)
    | .ok _ => false) = true := by decide +kernel
  revert h
  cases sampleGuard.claim oldestRecordStore epoch "op" "r1" "5-0" with
  | error p => simp
  | ok v => simp

end Relay.Cache.Guard
