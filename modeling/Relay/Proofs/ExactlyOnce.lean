import Relay.Proofs.Crew
/-!
# Each request is processed once

A crew of workers handles deliveries of one lane whose envelopes all carry the request id
`rid`, interleaving at every call of the store, the operation and the broker. The claim of
the request, under `Guard.key lane.queue rid`, makes one of them the processor. The main
statement, `processed_once`: no two handlings are ever inside the operation at once, and once a
handling recorded the request's outcome, no handling calls the operation again and every
handling that begins later publishes the recorded result.

This rests on the assumptions of the claim protocol about time: the wall clock does not go
back, the claim's record does not expire, and a processor finishes before its record is as old
as the liveness span (`Timely`). It also needs every record that a worker writes to read back
as itself (`ReadsBack`): a record that the reader refuses is taken for abandoned, and its
request is taken over and processed again. The lane's resource must not put the claim's key
under its own prefix, or a change's eviction deletes the claim.

The proof is an invariant (`Inv`): at most one handling is at work, and it holds the live
record under the key; a handling about to take a record over judged it abandoned at an earlier
reading of the clock; and once an outcome is recorded, its record stays under the key and no
handling is at work.
-/
namespace Relay.Concurrent

open Cache

def Setup.key {ι : Type} (σ : Setup ι) (rid : String) : String := Guard.key σ.lane.queue rid

def Stage.Replays (rec : ClaimRecord) : Stage → Prop
  | .working _ _ _ => False
  | .publishing r _ => rec.result = some r
  | _ => True

namespace Crew

variable {ι : Type} [DecidableEq ι] (σ : Setup ι) (rid : String)

def Holds (w : Crew ι) (i : ι) (rec : ClaimRecord) : Prop :=
  ∃ st, w.stage i = some st ∧ st.held? = some rec

/-- A turn that keeps to the claim protocol's assumptions about time: the wall clock does not
go back, the claim's record does not expire while it is live, and a record held by a handling
at work is younger than the liveness span. -/
structure Timely (w : Crew ι) (t : Turn ι) : Prop where
  forward : w.now.wall.ms ≤ t.clock.wall.ms
  lasting : ∀ e, w.store.find? (σ.key rid) = some e → e.isLive w.now.mono = true →
    e.isLive t.clock.mono = true
  young : ∀ i rec, w.Holds i rec →
    ∃ a, Guard.age t.clock.wall rec = .ok a ∧ a < σ.bridge.guard.liveness

def Timed (w : Crew ι) : List (Turn ι) → Prop
  | [] => True
  | t :: ts => w.Timely σ rid t ∧ Timed (w.step σ t) ts

def ReadsBack (w : Crew ι) : Prop :=
  ∀ u i rec, (w.Noted u i (.claimed rec) ∨ w.Noted u i (.recorded rec)) →
    ClaimRecord.decode rec.encode = .ok rec

def readsBackB (w : Crew ι) : Bool :=
  w.notes.all fun n => match n.2 with
    | .claimed rec | .recorded rec => decide ((ClaimRecord.decode rec.encode).toOption = some rec)
    | _ => true

omit [DecidableEq ι] in
theorem readsBack_of_check {w : Crew ι} (h : w.readsBackB = true) : w.ReadsBack := by
  intro u i rec hu
  have hread : ∀ x, (i, x) ∈ w.notes → (x = .claimed rec ∨ x = .recorded rec) →
      (ClaimRecord.decode rec.encode).toOption = some rec := by
    rintro x hx (rfl | rfl) <;> simpa using List.all_eq_true.1 h _ hx
  have hx : (ClaimRecord.decode rec.encode).toOption = some rec := by
    rcases hu with hu | hu
    · exact hread _ (List.mem_of_getElem? hu) (.inl rfl)
    · exact hread _ (List.mem_of_getElem? hu) (.inr rfl)
  cases hd : ClaimRecord.decode rec.encode <;> simp [hd, Except.toOption] at hx ⊢
  exact hx

/-- At the turn `t`, the claim of a handling standing at `st` is won with `fresh`: it writes
the record on a free key, or swaps it for the record it judged abandoned, still there. -/
def Wins (w : Crew ι) (t : Turn ι) (st : Stage) (q : Request) (fresh : ClaimRecord) : Prop :=
  (∃ n, st = .claiming q fresh (.setting n) ∧ w.store.live? t.clock.mono (σ.key rid) = none) ∨
  ∃ n raw previous, st = .claiming q fresh (.swapping n raw previous) ∧
    w.store.live? t.clock.mono (σ.key rid) = some raw

structure Start (w : Crew ι) : Prop where
  idle : ∀ i st, w.stage i = some st → st = .idle
  quiet : w.notes = []
  available : w.store.available = true

structure Inv (w : Crew ι) : Prop where
  available : w.store.available = true
  requests : ∀ i st q, w.stage i = some st → st.request? = some q → q.requestId = rid
  fresh : ∀ i q rec cl, w.stage i = some (.claiming q rec cl) → rec.state = .inFlight
  heldFresh : ∀ i rec, w.Holds i rec → rec.state = .inFlight
  undecided : ∀ i q rec x, w.stage i ≠ some (.claiming q rec (.decided x))
  undegraded : ∀ i q p, w.stage i ≠ some (.working q none p)
  keyed : ∀ i q held p k, w.stage i = some (.working q held p) → p.key? = some k →
    hasPrefix (σ.lane.resource ++ ":") k = true
  unborn : ∀ i, w.stage i = some .idle → ∀ u x, ¬ w.Noted u i x
  single : ∀ i j ri rj, w.Holds i ri → w.Holds j rj → i = j
  holding : ∀ i rec, w.Holds i rec → w.store.live? w.now.mono (σ.key rid) = some rec.encode
  claimedNoted : ∀ i rec, w.Holds i rec → ∃ u, w.Noted u i (.claimed rec)
  judged : ∀ i q rec n raw previous,
    w.stage i = some (.claiming q rec (.swapping n raw previous)) →
    ∃ m : Moment, m.ms ≤ w.now.wall.ms ∧
      σ.bridge.guard.judge m (σ.delivery i).id raw = .ok (.inr previous)
  recordedShape : ∀ u i rec, w.Noted u i (.recorded rec) →
    rec.state = .completed ∧ ∃ m, rec.result = some m
  settled : ∀ u j rec, w.Noted u j (.recorded rec) →
    w.store.live? w.now.mono (σ.key rid) = some rec.encode ∧
      ∀ i q held p, w.stage i ≠ some (.working q held p)
  quietAfter : ∀ u j rec v i, w.Noted u j (.recorded rec) → w.Noted v i (.produced .invoked) →
    v < u
  late : ∀ u j rec b i st, w.Noted u j (.recorded rec) → w.Noted b i .began → u < b →
    w.stage i = some st → st.Replays rec
  publishedLate : ∀ u j rec b i v m, w.Noted u j (.recorded rec) → w.Noted b i .began → u < b →
    w.Noted v i (.published m) → rec.result = some m

variable {σ rid}

theorem stage_step_of {w : Crew ι} {t : Turn ι} (ha : w.store.available = true)
    (P : ι → Stage → Prop) (hw : ∀ i st, w.stage i = some st → P i st)
    (hmove : ∀ st st' s' b' x, w.stage t.who = some st →
      Stage.Moves (σ.bridge.ownedBy (σ.owner t.who)) σ.lane (σ.delivery t.who) t.clock t.answer
        w.store w.broker st st' s' b' x → P t.who st') :
    ∀ i st, (w.step σ t).stage i = some st → P i st := by
  intro i st hi
  rcases step_cases σ w t ha with ⟨-, he⟩ | he | ⟨st₀, st', s', b', x, hst, hm, he⟩ <;> rw [he] at hi
  · exact hw i st hi
  · rcases update_eq_some hi with ⟨-, h⟩ | ⟨-, hi⟩
    · cases h
    · exact hw i st hi
  · rcases update_eq_some hi with ⟨rfl, h⟩ | ⟨-, hi⟩
    · cases h
      exact hmove st₀ _ s' b' x hst hm
    · exact hw i st hi

theorem ReadsBack.of_step {w : Crew ι} {t : Turn ι} (h : (w.step σ t).ReadsBack) : w.ReadsBack :=
  fun u i rec hn => h u i rec (hn.imp Noted.step Noted.step)

omit [DecidableEq ι] in
theorem live_turn {w : Crew ι} {t : Turn ι} (ht : w.Timely σ rid t) {v : String}
    (h : w.store.live? w.now.mono (σ.key rid) = some v) :
    w.store.live? t.clock.mono (σ.key rid) = some v := by
  obtain ⟨e, he, rfl, hl⟩ := Store.live?_eq_some w.store h
  simp [Store.live?, he, ht.lasting e he hl]

theorem live_put (s : Store) (c : Clock) (k v : String) {ttl : Span} (httl : 0 < ttl.nanos) :
    (s.put k ⟨v, some (c.mono + ttl.nanos)⟩).live? c.mono k = some v := by
  simp [Store.live?_put, Entry.isLive, httl]

section Preserved

variable {w : Crew ι} {t : Turn ι} (hw : w.Inv σ rid)
include hw

omit [DecidableEq ι] in
theorem not_won (ht : w.Timely σ rid t) {st : Stage} {q : Request} {fresh : ClaimRecord}
    (hst : w.stage t.who = some st) (hwin : w.Wins σ rid t st q fresh) {rec : ClaimRecord} (hv : w.store.live? w.now.mono (σ.key rid) = some rec.encode)
    (hread : ClaimRecord.decode rec.encode = .ok rec)
    (hrec : (rec.state = .inFlight ∧
        ∃ a, Guard.age t.clock.wall rec = .ok a ∧ a < σ.bridge.guard.liveness) ∨
      rec.state = .completed ∧ rec.result ≠ none) : False := by
  have hv' := live_turn ht hv
  rcases hwin with ⟨n, -, hl⟩ | ⟨n, raw, previous, rfl, hl⟩
  · rw [hv'] at hl
    cases hl
  · rw [hv', Option.some.injEq] at hl
    subst hl
    obtain ⟨m, hm, hj⟩ := hw.judged t.who q fresh n _ previous hst
    rcases Guard.judge_abandoned hj with ⟨e, he⟩ | ⟨rec', a₀, hd, ha₀, hab⟩
    · rw [hread] at he
      cases he
    · rw [hread] at hd
      cases hd
      rcases hrec with ⟨hs, a, ha, hlt⟩ | ⟨hs, hres⟩
      · rcases hab with ⟨-, hnot⟩ | ⟨hs', -⟩
        · -- judged as old as the liveness span, yet younger at this later turn
          have hage := Guard.age_mono ha₀ ha (Int.le_trans hm ht.forward)
          exact hnot (Nat.lt_of_le_of_lt hage hlt)
        · rw [hs] at hs'
          cases hs'
      · rcases hab with ⟨hs', -⟩ | ⟨-, hr⟩
        · rw [hs] at hs'
          cases hs'
        · exact hres hr

omit [DecidableEq ι] in
theorem mover_claimKey (hK : hasPrefix (σ.lane.resource ++ ":") (σ.key rid) = false)
    {st st' : Stage} {s' : Store} {b' : Broker} {x : Option Act} (hst : w.stage t.who = some st)
    (hm : Stage.Moves (σ.bridge.ownedBy (σ.owner t.who)) σ.lane (σ.delivery t.who) t.clock
      t.answer w.store w.broker st st' s' b' x) :
    (s'.find? (σ.key rid) = w.store.find? (σ.key rid) ∧
      (∀ rec, st'.held? = some rec → st.held? = some rec) ∧ ∀ rec, x ≠ some (.recorded rec)) ∨
    (∃ q fresh, st' = .working q (some fresh) (Produce.start σ.lane q) ∧
      x = some (.claimed fresh) ∧
      s' = w.store.put (σ.key rid) ⟨fresh.encode, some (t.clock.mono + σ.bridge.guard.ttl.nanos)⟩ ∧
      w.Wins σ rid t st q fresh) ∨
    (∃ q rec r, st = .working q (some rec) (.answered r) ∧ st'.held? = none ∧
      ((∃ m, x = some (.recorded (completedRecord (σ.bridge.ownedBy (σ.owner t.who)).guard t.clock
            (σ.delivery t.who).id m)) ∧
          s' = w.store.put (σ.key rid) ⟨(completedRecord (σ.bridge.ownedBy (σ.owner t.who)).guard
            t.clock (σ.delivery t.who).id m).encode, some (t.clock.mono + σ.bridge.guard.ttl.nanos)⟩) ∨
        x = some .released ∧ s' = w.store.erase (σ.key rid))) :=
  Stage.Moves.claimKey hm hw.available (fun q h => hw.requests t.who st q hst h) hK
    (fun q held p k he hk => hw.keyed t.who q held p k (he ▸ hst) hk)
    (fun q rec y he => hw.undecided t.who q rec y (he ▸ hst))

end Preserved

section Preserved

variable {w : Crew ι} {t : Turn ι} (hw : w.Inv σ rid)
include hw

theorem requests_step (hrid : ∀ i q, Request.decode (σ.delivery i).payload = .ok q → q.requestId = rid) :
    ∀ i st q, (w.step σ t).stage i = some st → st.request? = some q → q.requestId = rid := by
  intro i st q hi hq
  refine stage_step_of hw.available
    (fun _ st => ∀ q, st.request? = some q → q.requestId = rid)
    (fun i st h q => hw.requests i st q h) ?_ i st hi q hq
  intro st st' s' b' x hst hm q hq
  cases hm with
  | refuse | publish | unpublished | finished => cases hq
  | begin hd => cases hq; exact hrid _ _ hd
  | claim | produce => exact hw.requests _ _ q hst hq
  | decide => exact (Stage.request?_ofClaim hq) ▸ hw.requests _ _ _ hst rfl
  | conclude hc =>
    obtain ⟨m, h, rfl, -⟩ := Stage.conclude_cases hw.available hc
    cases hq

theorem fresh_step :
    ∀ i q rec cl, (w.step σ t).stage i = some (.claiming q rec cl) → rec.state = .inFlight := by
  intro i q rec cl hi
  refine stage_step_of hw.available
    (fun _ st => ∀ q rec cl, st = .claiming q rec cl → rec.state = .inFlight)
    (fun i st h q rec cl he => hw.fresh i q rec cl (he ▸ h)) ?_ i _ hi q rec cl rfl
  intro st st' s' b' x hst hm q rec cl he
  rcases hm.claiming hw.available he with ⟨cl₀, rfl, -⟩ | ⟨-, -, rfl, -⟩
  · exact hw.fresh _ _ _ _ hst
  · rfl

theorem undecided_step : ∀ i q rec x, (w.step σ t).stage i ≠ some (.claiming q rec (.decided x)) := by
  intro i q rec x hi
  refine stage_step_of hw.available
    (fun _ st => ∀ q rec x, st ≠ .claiming q rec (.decided x))
    (fun i st h q rec x he => hw.undecided i q rec x (he ▸ h)) ?_ i _ hi q rec x rfl
  intro st st' s' b' x hst hm q rec y he
  rcases hm.claiming hw.available he with ⟨-, -, -, hne⟩ | ⟨-, -, -, hcl⟩
  · exact hne y rfl
  · cases hcl

theorem judged_step (ht : w.Timely σ rid t) :
    ∀ i q rec n raw previous,
      (w.step σ t).stage i = some (.claiming q rec (.swapping n raw previous)) →
      ∃ m : Moment, m.ms ≤ (w.step σ t).now.wall.ms ∧
        σ.bridge.guard.judge m (σ.delivery i).id raw = .ok (.inr previous) := by
  intro i q rec n raw previous hi
  rw [step_now]
  refine stage_step_of hw.available
    (fun i st => ∀ q rec n raw previous, st = .claiming q rec (.swapping n raw previous) →
      ∃ m : Moment, m.ms ≤ t.clock.wall.ms ∧
        σ.bridge.guard.judge m (σ.delivery i).id raw = .ok (.inr previous))
    ?_ ?_ i _ hi q rec n raw previous rfl
  · intro i st h q rec n raw previous he
    obtain ⟨m, hm, hj⟩ := hw.judged i q rec n raw previous (he ▸ h)
    exact ⟨m, Int.le_trans hm ht.forward, hj⟩
  · intro st st' s' b' x hst hm q rec n raw previous he
    rcases hm.claiming hw.available he with ⟨cl, -, hc, -⟩ | ⟨-, -, -, hcl⟩
    · -- only a read that judged the record abandoned goes on to swap it
      cases hc with
      | abandoned _ hj => exact ⟨t.clock.wall, Int.le_refl _, hj⟩
    · cases hcl

theorem undegraded_step : ∀ i q p, (w.step σ t).stage i ≠ some (.working q none p) := by
  intro i q p hi
  refine stage_step_of hw.available
    (fun _ st => ∀ q p, st ≠ .working q none p)
    (fun i st h q p he => hw.undegraded i q p (he ▸ h)) ?_ i _ hi q p rfl
  intro st st' s' b' x hst hm q p he
  cases hm with
  | begin | refuse | publish | unpublished | finished | claim => cases he
  | produce => cases he; exact hw.undegraded _ _ _ hst
  | @decide q' fresh cl' z s'' hc =>
    -- a claim on a store that is switched on never degrades
    cases hc with
    | judged _ hj =>
      rcases Guard.judge_final hj with ⟨m, rfl⟩ | ⟨same, o, rfl⟩
      · cases he
      · cases same <;> cases he
    | stays => exact hw.undecided _ _ _ _ hst
    | contended | acquire | reclaim => cases he
  | conclude hc =>
    obtain ⟨m, h, rfl, -⟩ := Stage.conclude_cases hw.available hc
    cases he

theorem keyed_step : ∀ i q held p k, (w.step σ t).stage i = some (.working q held p) →
    p.key? = some k → hasPrefix (σ.lane.resource ++ ":") k = true := by
  intro i q held p k hi
  refine stage_step_of hw.available
    (fun _ st => ∀ q held p k, st = .working q held p → p.key? = some k →
      hasPrefix (σ.lane.resource ++ ":") k = true)
    (fun i st h q held p k he => hw.keyed i q held p k (he ▸ h)) ?_ i _ hi q held p k rfl
  intro st st' s' b' x hst hm q held p k he hk
  cases hm with
  | begin | refuse | publish | unpublished | finished | claim => cases he
  | @produce q' held' p₀ p' s'' e _ hs =>
    cases he
    rcases Produce.step_key? hs hk with hk | ⟨g, shape, -, rfl⟩
    · exact hw.keyed _ _ _ _ _ hst hk
    · exact Results.hasPrefix_entryKey _ _ _
  | @decide q' fresh cl' z =>
    cases z with
    | inFlight same o => cases same <;> cases he
    | completed r => cases he
    | _ => cases he; rw [Stage.key?_start] at hk; cases hk
  | conclude hc =>
    obtain ⟨m, h, rfl, -⟩ := Stage.conclude_cases hw.available hc
    cases he

theorem holds_step (ht : w.Timely σ rid t) (hback : w.ReadsBack)
    (hK : hasPrefix (σ.lane.resource ++ ":") (σ.key rid) = false) {i : ι} {rec : ClaimRecord}
    (h : (w.step σ t).Holds i rec) :
    (w.Holds i rec ∧ (w.step σ t).store.find? (σ.key rid) = w.store.find? (σ.key rid)) ∨
    (i = t.who ∧ (∀ j r, ¬ w.Holds j r) ∧
      (w.step σ t).store =
        w.store.put (σ.key rid) ⟨rec.encode, some (t.clock.mono + σ.bridge.guard.ttl.nanos)⟩ ∧
      (w.step σ t).notes = w.notes ++ [(t.who, .claimed rec)] ∧
      ∃ q st, w.stage t.who = some st ∧ w.Wins σ rid t st q rec) := by
  obtain ⟨st, hi, hh⟩ := h
  rcases step_cases σ w t hw.available with
    ⟨-, he⟩ | he | ⟨st₀, st', s', b', x, hst, hm, he⟩ <;> rw [he] at hi ⊢
  · exact .inl ⟨⟨st, hi, hh⟩, rfl⟩
  · rcases update_eq_some hi with ⟨-, h⟩ | ⟨-, hi⟩
    · cases h
    · exact .inl ⟨⟨st, hi, hh⟩, rfl⟩
  · rcases mover_claimKey hw hK hst hm with
      ⟨hf, hheld, -⟩ | ⟨q, fresh, rfl, rfl, rfl, hwin⟩ | ⟨q, rec', r, rfl, hnone, -⟩
    · -- the key is left alone, and the mover holds only what it held
      refine .inl ⟨?_, hf⟩
      rcases update_eq_some hi with ⟨rfl, h⟩ | ⟨-, hi⟩
      · cases h
        exact ⟨st₀, hst, hheld rec hh⟩
      · exact ⟨st, hi, hh⟩
    · -- a handling at work holds the key, so nobody else wins it
      have hfree : ∀ j r, ¬ w.Holds j r := by
        intro j r hold
        obtain ⟨u, hu⟩ := hw.claimedNoted j r hold
        exact not_won hw ht hst hwin (hw.holding j r hold) (hback u j r (.inl hu))
          (.inl ⟨hw.heldFresh j r hold, ht.young j r hold⟩)
      rcases update_eq_some hi with ⟨rfl, h⟩ | ⟨-, hi⟩
      · cases h
        cases hh
        exact .inr ⟨rfl, hfree, rfl, rfl, q, _, hst, hwin⟩
      · exact absurd ⟨st, hi, hh⟩ (hfree i rec)
    · rcases update_eq_some hi with ⟨rfl, h⟩ | ⟨hit, hi⟩
      · cases h
        rw [hnone] at hh
        cases hh
      · exact absurd (hw.single i t.who rec rec' ⟨st, hi, hh⟩ ⟨_, hst, rfl⟩) hit

theorem heldFresh_step (ht : w.Timely σ rid t) (hback : w.ReadsBack)
    (hK : hasPrefix (σ.lane.resource ++ ":") (σ.key rid) = false) :
    ∀ i rec, (w.step σ t).Holds i rec → rec.state = .inFlight := by
  intro i rec h
  rcases holds_step hw ht hback hK h with ⟨hold, -⟩ | ⟨-, -, -, -, q, st, hst, hwin⟩
  · exact hw.heldFresh i rec hold
  · rcases hwin with ⟨n, rfl, -⟩ | ⟨n, raw, previous, rfl, -⟩ <;> exact hw.fresh t.who q rec _ hst

theorem single_step (ht : w.Timely σ rid t) (hback : w.ReadsBack)
    (hK : hasPrefix (σ.lane.resource ++ ":") (σ.key rid) = false) :
    ∀ i j ri rj, (w.step σ t).Holds i ri → (w.step σ t).Holds j rj → i = j := by
  intro i j ri rj hi hj
  rcases holds_step hw ht hback hK hi with ⟨hi, -⟩ | ⟨rfl, hfree, -⟩ <;>
    rcases holds_step hw ht hback hK hj with ⟨hj, -⟩ | ⟨rfl, hfree', -⟩
  · exact hw.single i j ri rj hi hj
  · exact absurd hi (hfree' i ri)
  · exact absurd hj (hfree j rj)
  · rfl

theorem holding_step (ht : w.Timely σ rid t) (hback : w.ReadsBack)
    (hK : hasPrefix (σ.lane.resource ++ ":") (σ.key rid) = false)
    (httl : 0 < σ.bridge.guard.ttl.nanos) :
    ∀ i rec, (w.step σ t).Holds i rec →
      (w.step σ t).store.live? (w.step σ t).now.mono (σ.key rid) = some rec.encode := by
  intro i rec h
  rw [step_now]
  rcases holds_step hw ht hback hK h with ⟨hold, hf⟩ | ⟨-, -, hs, -⟩
  · rw [Store.live?_congr w.store hf]
    exact live_turn ht (hw.holding i rec hold)
  · rw [hs]
    exact live_put w.store t.clock _ _ httl

theorem claimedNoted_step (ht : w.Timely σ rid t) (hback : w.ReadsBack)
    (hK : hasPrefix (σ.lane.resource ++ ":") (σ.key rid) = false) :
    ∀ i rec, (w.step σ t).Holds i rec → ∃ u, (w.step σ t).Noted u i (.claimed rec) := by
  intro i rec h
  rcases holds_step hw ht hback hK h with ⟨hold, -⟩ | ⟨rfl, -, -, hn, -⟩
  · obtain ⟨u, hu⟩ := hw.claimedNoted i rec hold
    exact ⟨u, hu.step⟩
  · refine ⟨w.notes.length, ?_⟩
    unfold Noted
    rw [hn]
    simp

theorem unborn_step : ∀ i, (w.step σ t).stage i = some .idle → ∀ u x, ¬ (w.step σ t).Noted u i x := by
  intro i hi u x hn
  rcases step_cases σ w t hw.available with
    ⟨-, he⟩ | he | ⟨st, st', s', b', y, hst, hm, he⟩ <;> rw [he] at hi hn
  · exact hw.unborn i hi u x hn
  · rcases update_eq_some hi with ⟨-, h⟩ | ⟨-, hi⟩
    · cases h
    · exact hw.unborn i hi u x hn
  · rcases update_eq_some hi with ⟨rfl, h⟩ | ⟨hit, hi⟩
    · exact hm.ne_idle hw.available (Option.some.inj h)
    · rcases noted_append.mp hn with hn | ⟨-, rfl, -⟩
      · exact hw.unborn i hi u x hn
      · exact hit rfl

theorem recordedShape_step (hK : hasPrefix (σ.lane.resource ++ ":") (σ.key rid) = false) :
    ∀ u i rec, (w.step σ t).Noted u i (.recorded rec) →
      rec.state = .completed ∧ ∃ m, rec.result = some m := by
  intro u i rec hn
  rcases noted_step hw.available hn with hn | ⟨-, -, st, st', s', b', hst, hm, -⟩
  · exact hw.recordedShape u i rec hn
  · rcases mover_claimKey hw hK hst hm with
      ⟨-, -, hx⟩ | ⟨q, fresh, -, hx, -⟩ | ⟨q, rec', r, -, -, hend⟩
    · exact absurd rfl (hx rec)
    · cases hx
    · rcases hend with ⟨m, hx, -⟩ | ⟨hx, -⟩
      · cases hx
        exact ⟨rfl, m, rfl⟩
      · cases hx

theorem key_step (hK : hasPrefix (σ.lane.resource ++ ":") (σ.key rid) = false) :
    (w.step σ t).store.find? (σ.key rid) = w.store.find? (σ.key rid) ∨
    (∃ st q fresh, w.stage t.who = some st ∧ w.Wins σ rid t st q fresh) ∨
    ∃ q rec p, w.stage t.who = some (.working q (some rec) p) := by
  rcases step_cases σ w t hw.available with
    ⟨-, he⟩ | he | ⟨st, st', s', b', x, hst, hm, he⟩ <;> rw [he]
  · exact .inl rfl
  · exact .inl rfl
  · rcases mover_claimKey hw hK hst hm with ⟨hf, -⟩ | ⟨q, fresh, -, -, -, hwin⟩ | ⟨q, rec, r, rfl, -⟩
    · exact .inl hf
    · exact .inr (.inl ⟨st, q, fresh, hst, hwin⟩)
    · exact .inr (.inr ⟨q, rec, _, hst⟩)

omit [DecidableEq ι] in
theorem decided_after_record (ht : w.Timely σ rid t) (hback : w.ReadsBack) {u : Nat} {j : ι}
    {rec : ClaimRecord} (hu : w.Noted u j (.recorded rec)) {q : Request} {fresh : ClaimRecord}
    {cl : Claiming} {s' : Store} {x : Claim} (hst : w.stage t.who = some (.claiming q fresh cl))
    (hc : Claiming.Moves (σ.bridge.ownedBy (σ.owner t.who)).guard t.clock
      (Guard.key σ.lane.queue q.requestId) fresh.encode (σ.delivery t.who).id w.store cl
      (.decided x) s') :
    (∃ m, rec.result = some m ∧ x = .completed m) ∨ x = .inFlight true "contended" := by
  have hk : Guard.key σ.lane.queue q.requestId = σ.key rid := by
    rw [hw.requests t.who _ q hst rfl]
    rfl
  rw [hk] at hc
  obtain ⟨hv, -⟩ := hw.settled u j rec hu
  have hread := hback u j rec (.inr hu)
  obtain ⟨hs, m, hm⟩ := hw.recordedShape u j rec hu
  have hdone : rec.state = .completed ∧ rec.result ≠ none := ⟨hs, by simp [hm]⟩
  cases hc with
  | contended => exact .inr rfl
  | acquire hl _ => exact absurd (not_won hw ht hst (.inl ⟨_, rfl, hl⟩) hv hread (.inr hdone)) id
  | reclaim hl _ =>
    exact absurd (not_won hw ht hst (.inr ⟨_, _, _, rfl, hl⟩) hv hread (.inr hdone)) id
  | judged hl hj =>
    -- the record read is the recorded one, which replays its result
    rw [live_turn ht hv, Option.some.injEq] at hl
    subst hl
    rcases Guard.judge_completed hread hs hm with h | ⟨p, h⟩ <;> rw [h] at hj
    · cases hj
      exact .inl ⟨m, hm, rfl⟩
    · cases hj
  | stays => exact absurd hst (hw.undecided t.who q fresh x)

theorem settled_step (ht : w.Timely σ rid t) (hback : w.ReadsBack)
    (hK : hasPrefix (σ.lane.resource ++ ":") (σ.key rid) = false)
    (httl : 0 < σ.bridge.guard.ttl.nanos) :
    ∀ u j rec, (w.step σ t).Noted u j (.recorded rec) →
      (w.step σ t).store.live? (w.step σ t).now.mono (σ.key rid) = some rec.encode ∧
        ∀ i q held p, (w.step σ t).stage i ≠ some (.working q held p) := by
  intro u j rec hn
  rw [step_now]
  rcases noted_step hw.available hn with hn | ⟨-, -, st, st', s', b', hst, hm, he⟩
  · -- recorded before: the turn neither writes the key nor puts a handling to work
    obtain ⟨hv, hidle⟩ := hw.settled u j rec hn
    have hread := hback u j rec (.inr hn)
    obtain ⟨hs, m, hm⟩ := hw.recordedShape u j rec hn
    have hdone : rec.state = .completed ∧ rec.result ≠ none := ⟨hs, by simp [hm]⟩
    refine ⟨?_, fun i q held p hi => ?_⟩
    · rcases key_step hw hK with hf | ⟨st, q, fresh, hst, hwin⟩ | ⟨q, rec', p, hst⟩
      · rw [Store.live?_congr w.store hf]
        exact live_turn ht hv
      · exact absurd (not_won hw ht hst hwin hv hread (.inr hdone)) id
      · exact absurd hst (hidle t.who q (some rec') p)
    · cases held with
      | none => exact undegraded_step hw i q p hi
      | some r =>
        rcases holds_step hw ht hback hK ⟨_, hi, rfl⟩ with
          ⟨⟨st, hst, hh⟩, -⟩ | ⟨-, -, -, -, q', st, hst, hwin⟩
        · cases st with
          | working q₀ held₀ p₀ => exact hidle i q₀ held₀ p₀ hst
          | _ => cases hh
        · exact not_won hw ht hst hwin hv hread (.inr hdone)
  · -- recorded by this turn: the mover was the one handling at work
    rw [he]
    rcases mover_claimKey hw hK hst hm with
      ⟨-, -, hx⟩ | ⟨q, fresh, -, hx, -⟩ | ⟨q, rec', r, hst', hnone, hend⟩
    · exact absurd rfl (hx rec)
    · cases hx
    · rcases hend with ⟨m, hx, rfl⟩ | ⟨hx, -⟩
      · cases hx
        refine ⟨live_put w.store t.clock _ _ httl, fun i q held p hi => ?_⟩
        rcases update_eq_some hi with ⟨rfl, h⟩ | ⟨hit, hi⟩
        · cases h
          cases held with
          | none => exact undegraded_step hw t.who q p (by rw [he]; simp)
          | some r => cases hnone
        · cases held with
          | none => exact hw.undegraded i q p hi
          | some r =>
            exact hit (hw.single i t.who r rec' ⟨_, hi, rfl⟩ ⟨_, hst, by rw [hst']; rfl⟩)
      · cases hx

theorem quietAfter_step : ∀ u j rec v i, (w.step σ t).Noted u j (.recorded rec) →
    (w.step σ t).Noted v i (.produced .invoked) → v < u := by
  intro u j rec v i hu hv
  rcases noted_step hw.available hu with hu' | ⟨rfl, -, -⟩
  · rcases noted_step hw.available hv with hv' | ⟨rfl, -, st, st', s', b', hst, hm, -⟩
    · exact hw.quietAfter u j rec v i hu' hv'
    · -- a call of the operation comes from a handling at work, and there is none
      obtain ⟨q, held, p, rfl⟩ := hm.produced rfl
      exact absurd hst ((hw.settled u j rec hu').2 t.who q held p)
  · rcases noted_step hw.available hv with hv' | ⟨rfl, -, -⟩
    · exact hv'.lt_length
    · -- a turn notes one act
      obtain ⟨-, h⟩ := hu.unique hv
      cases h

theorem late_step (ht : w.Timely σ rid t) (hback : w.ReadsBack) :
    ∀ u j rec b i st, (w.step σ t).Noted u j (.recorded rec) → (w.step σ t).Noted b i .began →
      u < b → (w.step σ t).stage i = some st → st.Replays rec := by
  intro u j rec b i st hu hb hub hi
  rcases noted_step hw.available hu with hu' | ⟨rfl, -, -⟩
  · rcases noted_step hw.available hb with hb' | ⟨rfl, rfl, st₀, st', s', b', hst, hm, he⟩
    · -- began before the turn: follow its stage through the turn
      rcases step_cases σ w t hw.available with
        ⟨-, he⟩ | he | ⟨st₀, st', s', b', x, hst, hm, he⟩ <;> rw [he] at hi
      · exact hw.late u j rec b i st hu' hb' hub hi
      · rcases update_eq_some hi with ⟨-, h⟩ | ⟨-, hi⟩
        · cases h
        · exact hw.late u j rec b i st hu' hb' hub hi
      · rcases update_eq_some hi with ⟨rfl, h⟩ | ⟨-, hi⟩
        · cases h
          have hlate := hw.late u j rec b t.who st₀ hu' hb' hub hst
          cases hm with
          | refuse | begin | claim | publish | unpublished | finished => trivial
          | decide hc =>
            rcases decided_after_record hw ht hback hu' hst hc with ⟨m, hm, rfl⟩ | rfl
            · exact hm
            · trivial
          | produce | conclude => exact hlate.elim
        · exact hw.late u j rec b i st hu' hb' hub hi
    · -- began at this turn: it is claiming, or done
      rw [he] at hi
      simp only [Function.update_self, Option.some.injEq] at hi
      subst hi
      rcases hm.from_idle (hm.began hw.available rfl) with ⟨hd, rfl⟩ | ⟨q, rec', cl, rfl⟩ <;> trivial
  · -- recorded at this turn: nothing began after it
    rcases noted_step hw.available hb with hb' | ⟨rfl, -⟩
    · exact absurd hb'.lt_length (by omega)
    · exact absurd hub (Nat.lt_irrefl _)

theorem publishedLate_step : ∀ u j rec b i v m, (w.step σ t).Noted u j (.recorded rec) →
    (w.step σ t).Noted b i .began → u < b → (w.step σ t).Noted v i (.published m) →
    rec.result = some m := by
  intro u j rec b i v m hu hb hub hv
  rcases noted_step hw.available hu with hu' | ⟨rfl, -, -⟩
  · rcases noted_step hw.available hb with hb' | ⟨rfl, rfl, st, st', s', b', hst, hm, -⟩
    · rcases noted_step hw.available hv with hv' | ⟨rfl, rfl, st, st', s', b', hst, hm, -⟩
      · exact hw.publishedLate u j rec b i v m hu' hb' hub hv'
      · -- published at this turn, from the stage the recorded outcome leaves it
        obtain ⟨h, rfl⟩ := hm.published hw.available rfl
        exact hw.late u j rec b t.who _ hu' hb' hub hst
    · -- began at this turn, so it published nothing before
      obtain rfl := hm.began hw.available rfl
      rcases noted_step hw.available hv with hv' | ⟨hvl, -⟩
      · exact (hw.unborn t.who hst v _ hv').elim
      · rw [hvl] at hv
        obtain ⟨-, h⟩ := hb.unique hv
        cases h
  · rcases noted_step hw.available hb with hb' | ⟨rfl, -⟩
    · exact absurd hb'.lt_length (by omega)
    · exact absurd hub (Nat.lt_irrefl _)

end Preserved

variable (σ rid) in
theorem Inv.step (hrid : ∀ i q, Request.decode (σ.delivery i).payload = .ok q → q.requestId = rid)
    (hK : hasPrefix (σ.lane.resource ++ ":") (σ.key rid) = false)
    (httl : 0 < σ.bridge.guard.ttl.nanos) {w : Crew ι} {t : Turn ι} (hw : w.Inv σ rid)
    (ht : w.Timely σ rid t) (hback : (w.step σ t).ReadsBack) : (w.step σ t).Inv σ rid where
  available := step_available hw.available
  requests := requests_step hw hrid
  fresh := fresh_step hw
  heldFresh := heldFresh_step hw ht hback.of_step hK
  undecided := undecided_step hw
  undegraded := undegraded_step hw
  keyed := keyed_step hw
  unborn := unborn_step hw
  single := single_step hw ht hback.of_step hK
  holding := holding_step hw ht hback.of_step hK httl
  claimedNoted := claimedNoted_step hw ht hback.of_step hK
  judged := judged_step hw ht
  recordedShape := recordedShape_step hw hK
  settled := settled_step hw ht hback.of_step hK httl
  quietAfter := quietAfter_step hw
  late := late_step hw ht hback.of_step
  publishedLate := publishedLate_step hw

theorem ReadsBack.of_run {w : Crew ι} (ts : List (Turn ι)) (h : (w.run σ ts).ReadsBack) :
    w.ReadsBack :=
  fun u i rec hn => h u i rec (hn.imp (Noted.run ts) (Noted.run ts))

variable (σ rid) in
theorem Inv.run (hrid : ∀ i q, Request.decode (σ.delivery i).payload = .ok q → q.requestId = rid)
    (hK : hasPrefix (σ.lane.resource ++ ":") (σ.key rid) = false)
    (httl : 0 < σ.bridge.guard.ttl.nanos) {w : Crew ι} (hw : w.Inv σ rid) (ts : List (Turn ι))
    (ht : w.Timed σ rid ts) (hback : (w.run σ ts).ReadsBack) : (w.run σ ts).Inv σ rid := by
  -- induction on the schedule, the crew after the first turn taking the crew's place
  induction ts generalizing w with
  | nil => exact hw
  | cons t ts ih =>
    exact ih (Inv.step σ rid hrid hK httl hw ht.1 (ReadsBack.of_run ts hback)) ht.2 hback

omit [DecidableEq ι] in
theorem Start.inv {w : Crew ι} (h : w.Start) : w.Inv σ rid := by
  -- no handling has begun: nobody claims, works or noted anything
  have idle : ∀ i st, w.stage i = some st → st = .idle := h.idle
  have silent : ∀ u i x, ¬ w.Noted u i x := by
    intro u i x hn
    unfold Noted at hn
    rw [h.quiet] at hn
    cases hn
  have unheld : ∀ i rec, ¬ w.Holds i rec := by
    rintro i rec ⟨st, hst, hh⟩
    rw [idle i st hst] at hh
    cases hh
  exact { available := h.available
          requests := fun i st q hi hq => by rw [idle i st hi] at hq; cases hq
          fresh := fun i q rec cl hi => absurd (idle i _ hi) (by simp)
          heldFresh := fun i rec hh => absurd hh (unheld i rec)
          undecided := fun i q rec x hi => absurd (idle i _ hi) (by simp)
          undegraded := fun i q p hi => absurd (idle i _ hi) (by simp)
          keyed := fun i q held p k hi => absurd (idle i _ hi) (by simp)
          unborn := fun i _ u x => silent u i x
          single := fun i j ri rj hh => absurd hh (unheld i ri)
          holding := fun i rec hh => absurd hh (unheld i rec)
          claimedNoted := fun i rec hh => absurd hh (unheld i rec)
          judged := fun i q rec n raw previous hi => absurd (idle i _ hi) (by simp)
          recordedShape := fun u i rec hn => absurd hn (silent u i _)
          settled := fun u j rec hn => absurd hn (silent u j _)
          quietAfter := fun u j rec v i hn => absurd hn (silent u j _)
          late := fun u j rec b i st hn => absurd hn (silent u j _)
          publishedLate := fun u j rec b i v m hn => absurd hn (silent u j _) }

structure Stamped (c : Clock) (w : Crew ι) : Prop where
  available : w.store.available = true
  now : w.now = c
  records : ∀ i st rec, w.stage i = some st → st.record? = some rec → rec.claimedAtMs = c.wall.ms

omit [DecidableEq ι] in
theorem Start.stamped {w : Crew ι} (h : w.Start) {c : Clock} (hc : w.now = c) : w.Stamped c where
  available := h.available
  now := hc
  records i st rec hi hr := by
    rw [h.idle i st hi] at hr
    cases hr

theorem Stamped.step {c : Clock} {w : Crew ι} (hw : w.Stamped c) {t : Turn ι}
    (htc : t.clock = c) : (w.step σ t).Stamped c where
  available := step_available hw.available
  now := by rw [step_now, htc]
  records := by
    intro i st rec hi hr
    refine stage_step_of hw.available
      (fun _ st => ∀ rec, st.record? = some rec → rec.claimedAtMs = c.wall.ms)
      (fun i st h rec hr => hw.records i st rec h hr) ?_ i st hi rec hr
    intro st st' s' b' x hst hm rec hr
    cases hm with
    | refuse | publish | unpublished | finished => cases hr
    | begin => cases hr; rw [htc]
    | claim | produce => exact hw.records t.who _ rec hst hr
    | decide => exact (Stage.record?_ofClaim hr) ▸ hw.records t.who _ _ hst rfl
    | conclude hc =>
      obtain ⟨m, h, rfl, -⟩ := Stage.conclude_cases hw.available hc
      cases hr

theorem timed_still (hl : 0 < σ.bridge.guard.liveness.nanos) {c : Clock} {w : Crew ι}
    (hw : w.Stamped c) (ts : List (Turn ι)) (hts : ∀ t ∈ ts, t.clock = c) : w.Timed σ rid ts := by
  induction ts generalizing w with
  | nil => trivial
  | cons t ts ih =>
    have htc := hts t List.mem_cons_self
    refine ⟨⟨?_, ?_, ?_⟩, ih (hw.step htc) fun t' h => hts t' (List.mem_cons_of_mem t h)⟩
    · exact Int.le_of_eq (by rw [hw.now, htc])
    · intro e _ hl'
      rw [hw.now, ← htc] at hl'
      exact hl'
    · rintro i rec ⟨st, hst, hh⟩
      have hms := hw.records i st rec hst (Stage.record?_of_held? hh)
      refine ⟨⟨0⟩, ?_, hl⟩
      simp [Guard.age, htc, hms, fitsInt64, int64Min, int64Max, Span.ofMillis]

/-- Handlings of deliveries of one request that race on one store process it once: no two of
them are ever inside the operation together; and once one has recorded the request's outcome,
no handling calls the operation again, and every handling that begins later publishes the
recorded result and nothing else. This holds along every timely schedule whose claim records
read back, for a lane whose resource does not put the claim's key under its own prefix. -/
theorem processed_once
    (hrid : ∀ i q, Request.decode (σ.delivery i).payload = .ok q → q.requestId = rid)
    (hK : hasPrefix (σ.lane.resource ++ ":") (σ.key rid) = false)
    (httl : 0 < σ.bridge.guard.ttl.nanos) {w₀ : Crew ι} (h₀ : w₀.Start) (ts : List (Turn ι))
    (ht : w₀.Timed σ rid ts) (hback : (w₀.run σ ts).ReadsBack) :
    (∀ i j qi qj hi hj si sj ni nj,
      (w₀.run σ ts).stage i = some (.working qi hi (.inside si ni)) →
      (w₀.run σ ts).stage j = some (.working qj hj (.inside sj nj)) → i = j) ∧
    ∀ u k rec, (w₀.run σ ts).Noted u k (.recorded rec) →
      (∀ v i, u < v → ¬ (w₀.run σ ts).Noted v i (.produced .invoked)) ∧
      ∀ b i v m, (w₀.run σ ts).Noted b i .began → u < b →
        (w₀.run σ ts).Noted v i (.published m) → rec.result = some m := by
  have hw := Inv.run σ rid hrid hK httl (Start.inv h₀ : w₀.Inv σ rid) ts ht hback
  refine ⟨fun i j qi qj hi hj si sj ni nj h h' => ?_, fun u k rec hu => ⟨?_, ?_⟩⟩
  · -- a handling inside the operation works under a claim, and one handling at most does
    cases hi with
    | none => exact absurd h (hw.undegraded i qi _)
    | some ri =>
      cases hj with
      | none => exact absurd h' (hw.undegraded j qj _)
      | some rj => exact hw.single i j ri rj ⟨_, h, rfl⟩ ⟨_, h', rfl⟩
  · intro v i huv hv
    exact absurd (hw.quietAfter u k rec v i hu hv) (by omega)
  · intro b i v m hb hub hv
    exact hw.publishedLate u k rec b i v m hu hb hub hv

def insertRequest : Request := ⟨"r1", "/players", "POST", .obj [("name", .str "a")], 0⟩

def pair : Setup Nat where
  bridge := Bridge.ofSettings { consumerId := "worker" }
  lane := Subscription.Config.make "player" .insert
  owner := fun i => if i = 0 then "worker-a" else "worker-b"
  delivery := fun i => ⟨if i = 0 then "1-0" else "2-0", "player-insert",
    (Request.encode insertRequest).toUTF8.toList, 1⟩

def pairStart : Crew Nat := ⟨{}, {}, ⟨0, ⟨0⟩⟩, fun i => if i < 2 then some .idle else none, []⟩

theorem pairStart_start : pairStart.Start where
  idle i st h := by
    simp only [pairStart] at h
    split at h
    · exact (Option.some.inj h).symm
    · cases h
  quiet := rfl
  available := rfl

def pairTurns : List (Turn Nat) :=
  [0, 0, 0, 0, 0, 0, 0, 0, 1, 1, 1, 1].map fun i => ⟨i, ⟨0, ⟨0⟩⟩, .ok (.str "done")⟩

def pairRun : Crew Nat := pairStart.run pair pairTurns

def pairReply : Reply := Reply.completed "r1" (.str "done") "rpc-bridge" ⟨0⟩

def pairRecord : ClaimRecord := ⟨.completed, "worker-a", "1-0", 0, some pairReply⟩

theorem processed_once_pair :
    pairRun.Noted 5 0 (.recorded pairRecord) ∧ pairRun.Noted 7 1 .began ∧
    pairRun.Noted 8 1 (.published pairReply) ∧
    (∀ v i, 5 < v → ¬ pairRun.Noted v i (.produced .invoked)) ∧
    pairRecord.result = some pairReply := by
  have hrid : ∀ i q, Request.decode (pair.delivery i).payload = .ok q → q.requestId = "r1" := by
    intro i q hq
    have hc : (Request.decode (Request.encode insertRequest).toUTF8.toList).toOption.map
        Request.requestId = some "r1" := by decide +kernel
    have hq' : Request.decode (Request.encode insertRequest).toUTF8.toList = .ok q := hq
    rw [hq'] at hc
    simpa [Except.toOption] using hc
  have ht : pairStart.Timed pair "r1" pairTurns :=
    timed_still (by decide) (Start.stamped pairStart_start rfl) _ (by simp [pairTurns, pairStart])
  have h := processed_once hrid (by decide) (by decide) pairStart_start pairTurns ht
    (readsBack_of_check (by decide +kernel))
  obtain ⟨hr, hb, hp⟩ : pairRun.Noted 5 0 (.recorded pairRecord) ∧ pairRun.Noted 7 1 .began ∧
      pairRun.Noted 8 1 (.published pairReply) := by
    unfold Noted; decide +kernel
  exact ⟨hr, hb, hp, (h.2 5 0 _ hr).1, (h.2 5 0 _ hr).2 7 1 8 _ hb (by decide) hp⟩

end Crew

end Relay.Concurrent
