import Relay.Proofs.Claiming
import Relay.Proofs.Generations
/-!
# Handlings that race on one store

Workers that serve one lane share the cache store and the broker, and handle their deliveries
at the same time. `Handler.handle` makes its calls back to back; here a handling is taken apart
at each call of the store, the operation and the broker, so that the handlings of a crew can
interleave in any order. A handling reads its delivery as a request and claims it
(`Claiming.step`), is dispatched on the claim as `Handler.start` dispatches, produces the data
(`Produce.step`), records or gives up its claim as `Handler.conclude` does, and publishes.
Each turn of a schedule is one call of one handling at one clock reading, and what a call did
that the others can see is noted (`Act`).

`Stage.Moves` lists what one call can do on a store that is switched on, one constructor a
case; `Stage.step_moves` is the only proof that opens `Stage.step`.
-/
namespace Relay

def Bridge.ownedBy (br : Bridge) (owner : String) : Bridge :=
  { br with guard := { br.guard with owner := owner } }

@[simp] theorem Bridge.ownedBy_ttl (br : Bridge) (owner : String) :
    (br.ownedBy owner).guard.ttl = br.guard.ttl := rfl

@[simp] theorem Bridge.ownedBy_liveness (br : Bridge) (owner : String) :
    (br.ownedBy owner).guard.liveness = br.guard.liveness := rfl

@[simp] theorem Bridge.judge_ownedBy (br : Bridge) (owner : String) :
    (br.ownedBy owner).guard.judge = br.guard.judge := rfl

theorem Clock.deadline_eq_ok {c : Clock} {d : Span} {t : Nat} (h : c.deadline d = .ok t) :
    t = c.mono + d.nanos := by
  unfold Clock.deadline at h
  split at h
  · cases h; rfl
  · cases h

namespace Concurrent

open Cache

theorem key_ne_generationKey (operation requestId resource : String) :
    Guard.key operation requestId ≠ Results.generationKey resource := by
  intro h
  have h1 := congrArg (fun s : String => s.toList.head?) h
  simp [Guard.key, Results.generationKey, String.toList_append] at h1

def Produce.start (lane : Subscription.Config) (q : Request) : Produce :=
  if lane.verb.isMutation then .change else .read (queryShape lane.verb q.payload)

inductive Stage where
  | idle
  | claiming (q : Request) (fresh : ClaimRecord) (cl : Claiming)
  | working (q : Request) (held : Option ClaimRecord) (p : Produce)
  | publishing (r : Reply) (h : Handled)
  | done (h : Handled)

namespace Stage

def request? : Stage → Option Request
  | .claiming q _ _ | .working q _ _ => some q
  | _ => none

def held? : Stage → Option ClaimRecord
  | .working _ held _ => held
  | _ => none

def record? : Stage → Option ClaimRecord
  | .claiming _ fresh _ => some fresh
  | .working _ held _ => held
  | _ => none

theorem record?_of_held? {st : Stage} {rec : ClaimRecord} (h : st.held? = some rec) :
    st.record? = some rec := by
  cases st <;> first | exact h | cases h

end Stage

inductive Act where
  | began
  | claimed (rec : ClaimRecord)
  | produced (e : Event)
  | recorded (rec : ClaimRecord)
  | released
  | published (r : Reply)
  deriving DecidableEq

def completedRecord (g : Guard) (c : Clock) (deliveryId : String) (result : Reply) : ClaimRecord :=
  ⟨.completed, g.owner, deliveryId, c.wall.ms, some result⟩

theorem complete_eq (g : Guard) (s : Store) (c : Clock) (operation requestId deliveryId : String)
    (result : Reply) :
    g.complete s c operation requestId deliveryId result =
      s.set c (Guard.key operation requestId) (completedRecord g c deliveryId result).encode g.ttl :=
  rfl

namespace Stage

variable (br : Bridge) (lane : Subscription.Config) (d : Delivery)

/-- Where a handling goes once its claim is decided, as `Handler.start` dispatches: a
completed request replays its result, one in flight is left alone, and otherwise the data is
produced, under the claim unless the store failed. -/
def ofClaim (q : Request) (fresh : ClaimRecord) : Claim → Stage × Option Act
  | .completed r => (.publishing r Handled.ack, none)
  | .inFlight true _ => (.done (Handled.requeue "claim held by a live processor"), none)
  | .inFlight false _ => (.done Handled.ack, none)
  | .degraded _ => (.working q none (Produce.start lane q), none)
  | .acquired => (.working q (some fresh) (Produce.start lane q), some (.claimed fresh))
  | .reclaimed _ => (.working q (some fresh) (Produce.start lane q), some (.claimed fresh))

def write (s : Store) (x : Act) : Except Halt Store → Except Panic (Store × Option Act)
  | .ok s' => .ok (s', some x)
  | .error (.fault _) => .ok (s, none)
  | .error (.panic p) => .error p

/-- Ends a handling with the operation's final answer, as `Handler.conclude` does once the
data is followed up: under a claim the outcome is recorded (a failure of a kind with retries
gives the claim up instead), and the result then stands to be published. -/
def conclude (c : Clock) (s : Store) (q : Request) (held : Option ClaimRecord) :
    Except (Failure × Failure.Kind) Json → Except Panic (Stage × Store × Option Act)
  | .ok data =>
    let result := br.publisher.completed q.requestId data c.wall
    match held with
    | none => .ok (.publishing result Handled.ack, s, none)
    | some _ =>
      (write s (.recorded (completedRecord br.guard c d.id result))
          (br.guard.complete s c lane.queue q.requestId d.id result)).map
        fun (s, x) => (.publishing result Handled.ack, s, x)
  | .error (f, k) =>
    let result := br.publisher.failed q.requestId f.message c.wall
    let h := if k.isBenign then Handled.ack else Handled.discard (k.name ++ ": " ++ f.message)
    match held with
    | none => .ok (.publishing result h, s, none)
    | some _ =>
      let written :=
        if k.maxRetries = 0 then
          write s (.recorded (completedRecord br.guard c d.id result))
            (br.guard.complete s c lane.queue q.requestId d.id result)
        else write s .released (Guard.release s lane.queue q.requestId)
      written.map fun (s, x) => (.publishing result h, s, x)

/-- One call of a handling of the delivery `d` at the clock reading `c`; `answer` is what the
operation answers if the handling waits for it. A panic halts the handling. -/
def step (c : Clock) (answer : Except Failure Json) (s : Store) (b : Broker) :
    Stage → Except Panic (Stage × Store × Broker × Option Act)
  | .idle =>
    match Request.decode d.payload with
    | .error f =>
      .ok (.done (Handled.discard (f.kind.name ++ ": " ++ f.message)), s, b, some .began)
    | .ok q =>
      .ok (.claiming q ⟨.inFlight, br.guard.owner, d.id, c.wall.ms, none⟩ (.setting Guard.rounds),
        s, b, some .began)
  | .claiming q fresh cl =>
    match Claiming.step br.guard c (Guard.key lane.queue q.requestId) fresh.encode d.id s cl with
    | .ok (.decided x, s') => .ok ((ofClaim lane q fresh x).1, s', b, (ofClaim lane q fresh x).2)
    | .ok (cl', s') => .ok (.claiming q fresh cl', s', b, none)
    | .error p => .error p
  | .working q held (.answered r) =>
    (conclude br lane d c s q held r).map fun (st, s, x) => (st, s, b, x)
  | .working q held p =>
    match p.step br lane.resource c answer s with
    | .ok (p', s', e) => .ok (.working q held p', s', b, e.map .produced)
    | .error p => .error p
  | .publishing r h =>
    match br.publisher.publish b lane.resource r with
    | .ok b' => .ok (.done h, s, b', some (.published r))
    | .error f => .ok (.done (Handled.requeue f.message), s, b, none)
  | .done h => .ok (.done h, s, b, none)

inductive Moves (c : Clock) (answer : Except Failure Json) (s : Store) (b : Broker) :
    Stage → Stage → Store → Broker → Option Act → Prop
  | refuse {f} : Request.decode d.payload = .error f →
      Moves c answer s b .idle (.done (Handled.discard (f.kind.name ++ ": " ++ f.message))) s b
        (some .began)
  | begin {q} : Request.decode d.payload = .ok q →
      Moves c answer s b .idle
        (.claiming q ⟨.inFlight, br.guard.owner, d.id, c.wall.ms, none⟩ (.setting Guard.rounds)) s b
        (some .began)
  | claim {q fresh cl cl' s'} :
      Claiming.Moves br.guard c (Guard.key lane.queue q.requestId) fresh.encode d.id s cl cl' s' →
      (∀ x, cl' ≠ .decided x) →
      Moves c answer s b (.claiming q fresh cl) (.claiming q fresh cl') s' b none
  | decide {q fresh cl x s'} :
      Claiming.Moves br.guard c (Guard.key lane.queue q.requestId) fresh.encode d.id s cl
        (.decided x) s' →
      Moves c answer s b (.claiming q fresh cl) (ofClaim lane q fresh x).1 s' b
        (ofClaim lane q fresh x).2
  | produce {q held p p' s' e} : (∀ r, p ≠ .answered r) →
      p.step br lane.resource c answer s = .ok (p', s', e) →
      Moves c answer s b (.working q held p) (.working q held p') s' b (e.map .produced)
  | conclude {q held r st s' x} : conclude br lane d c s q held r = .ok (st, s', x) →
      Moves c answer s b (.working q held (.answered r)) st s' b x
  | publish {r h b'} : br.publisher.publish b lane.resource r = .ok b' →
      Moves c answer s b (.publishing r h) (.done h) s b' (some (.published r))
  | unpublished {r h f} : br.publisher.publish b lane.resource r = .error f →
      Moves c answer s b (.publishing r h) (.done (Handled.requeue f.message)) s b none
  | finished {h} : Moves c answer s b (.done h) (.done h) s b none

variable {br lane d}

theorem step_moves {c : Clock} {answer : Except Failure Json} {s s' : Store} {b b' : Broker}
    {st st' : Stage} {x : Option Act} (ha : s.available = true)
    (h : st.step br lane d c answer s b = .ok (st', s', b', x)) :
    Moves br lane d c answer s b st st' s' b' x := by
  cases st with
  | idle =>
    simp only [step] at h
    split at h
    · rename_i f hf
      cases h
      exact .refuse hf
    · rename_i q hq
      cases h
      exact .begin hq
  | claiming q fresh cl =>
    simp only [step] at h
    split at h
    · rename_i x s'' hc
      cases h
      exact .decide (Claiming.step_moves ha hc)
    · rename_i cl'' _ hne hc
      cases h
      exact .claim (Claiming.step_moves ha hc) hne
    · cases h
  | working q held p =>
    cases p with
    | answered r =>
      simp only [step, Except.map] at h
      split at h
      · cases h
      · rename_i y hy
        obtain ⟨st'', s'', x''⟩ := y
        cases h
        exact .conclude hy
    | _ =>
      simp only [step] at h
      split at h
      · rename_i p' s'' e hp
        cases h
        exact .produce (fun r hr => by cases hr) hp
      · cases h
  | publishing r hd =>
    simp only [step] at h
    split at h
    · rename_i b'' hb
      cases h
      exact .publish hb
    · rename_i f hf
      cases h
      exact .unpublished hf
  | done hd =>
    cases h
    exact .finished

theorem conclude_cases {c : Clock} {s s' : Store} {q : Request} {held : Option ClaimRecord}
    {r : Except (Failure × Failure.Kind) Json} {st : Stage} {x : Option Act}
    (ha : s.available = true) (h : conclude br lane d c s q held r = .ok (st, s', x)) :
    ∃ m hd, st = .publishing m hd ∧
      (held = none ∧ s' = s ∧ x = none ∨
        (∃ rec, held = some rec) ∧
          ((∃ t, c.deadline br.guard.ttl = .ok t ∧
              x = some (.recorded (completedRecord br.guard c d.id m)) ∧
              s' = s.put (Guard.key lane.queue q.requestId)
                ⟨(completedRecord br.guard c d.id m).encode, some t⟩) ∨
            x = some .released ∧ s' = s.erase (Guard.key lane.queue q.requestId))) := by
  -- a write on a store that is switched on never faults
  have record : ∀ m y s'', write s (.recorded (completedRecord br.guard c d.id m))
      (br.guard.complete s c lane.queue q.requestId d.id m) = .ok (s'', y) →
      ∃ t, c.deadline br.guard.ttl = .ok t ∧ y = some (.recorded (completedRecord br.guard c d.id m)) ∧
        s'' = s.put (Guard.key lane.queue q.requestId)
          ⟨(completedRecord br.guard c d.id m).encode, some t⟩ := by
    intro m y s'' hw
    rw [complete_eq, Store.set_ok s c ha] at hw
    unfold Store.fresh at hw
    cases hd : c.deadline br.guard.ttl with
    | error p => simp [hd, Except.map, write] at hw
    | ok t =>
      simp only [hd, Except.map, write] at hw
      cases hw
      exact ⟨t, rfl, rfl, rfl⟩
  have release : ∀ y s'', write s .released (Guard.release s lane.queue q.requestId) = .ok (s'', y) →
      y = some .released ∧ s'' = s.erase (Guard.key lane.queue q.requestId) := by
    intro y s'' hw
    simp only [Guard.release, Store.delete_ok s ha, write] at hw
    cases hw
    exact ⟨rfl, rfl⟩
  cases r with
  | ok data =>
    cases held with
    | none =>
      cases h
      exact ⟨_, _, rfl, .inl ⟨rfl, rfl, rfl⟩⟩
    | some rec =>
      simp only [conclude, Except.map] at h
      split at h
      · cases h
      · rename_i y hy
        cases h
        exact ⟨_, _, rfl, .inr ⟨⟨rec, rfl⟩, .inl (record _ _ _ hy)⟩⟩
  | error e =>
    obtain ⟨f, k⟩ := e
    cases held with
    | none =>
      cases h
      exact ⟨_, _, rfl, .inl ⟨rfl, rfl, rfl⟩⟩
    | some rec =>
      simp only [conclude, Except.map] at h
      split at h
      · cases h
      · rename_i y hy
        cases h
        refine ⟨_, _, rfl, .inr ⟨⟨rec, rfl⟩, ?_⟩⟩
        split at hy
        · exact .inl (record _ _ _ hy)
        · exact .inr (release _ _ hy)

theorem request?_ofClaim {q q' : Request} {fresh : ClaimRecord} {x : Claim}
    (h : (ofClaim lane q fresh x).1.request? = some q') : q' = q := by
  cases x with
  | completed r => cases h
  | inFlight same o => cases same <;> cases h
  | _ => cases h; rfl

theorem record?_ofClaim {q : Request} {fresh rec : ClaimRecord} {x : Claim}
    (h : (ofClaim lane q fresh x).1.record? = some rec) : rec = fresh := by
  cases x with
  | completed r => cases h
  | inFlight same o => cases same <;> cases h
  | degraded f => cases h
  | _ => cases h; rfl

theorem key?_start (q : Request) : (Produce.start lane q).key? = none := by
  unfold Produce.start
  split <;> rfl

theorem Moves.claiming {c : Clock} {a : Except Failure Json} {s s' : Store} {b b' : Broker}
    {st st' : Stage} {x : Option Act} (hm : Moves br lane d c a s b st st' s' b' x)
    (ha : s.available = true) {q : Request} {rec : ClaimRecord} {cl' : Claiming}
    (he : st' = .claiming q rec cl') :
    (∃ cl, st = .claiming q rec cl ∧
      Claiming.Moves br.guard c (Guard.key lane.queue q.requestId) rec.encode d.id s cl cl' s' ∧
      ∀ y, cl' ≠ .decided y) ∨
    st = .idle ∧ Request.decode d.payload = .ok q ∧
      rec = ⟨.inFlight, br.guard.owner, d.id, c.wall.ms, none⟩ ∧ cl' = .setting Guard.rounds := by
  cases hm with
  | begin hd => cases he; exact .inr ⟨rfl, hd, rfl, rfl⟩
  | claim hc hne => cases he; exact .inl ⟨_, rfl, hc, hne⟩
  | refuse | publish | unpublished | finished | produce => cases he
  | @decide q' fresh cl y =>
    cases y with
    | inFlight same o => cases same <;> cases he
    | _ => cases he
  | conclude hc =>
    obtain ⟨m, h, rfl, -⟩ := conclude_cases ha hc
    cases he

theorem Moves.ne_idle {c : Clock} {a : Except Failure Json} {s s' : Store} {b b' : Broker}
    {st st' : Stage} {x : Option Act} (hm : Moves br lane d c a s b st st' s' b' x)
    (ha : s.available = true) : st' ≠ .idle := by
  intro he
  cases hm with
  | begin | claim | refuse | publish | unpublished | finished | produce => cases he
  | @decide q' fresh cl y =>
    cases y with
    | inFlight same o => cases same <;> cases he
    | _ => cases he
  | conclude hc =>
    obtain ⟨m, h, rfl, -⟩ := conclude_cases ha hc
    cases he

theorem Moves.began {c : Clock} {a : Except Failure Json} {s s' : Store} {b b' : Broker}
    {st st' : Stage} {x : Option Act} (hm : Moves br lane d c a s b st st' s' b' x)
    (ha : s.available = true) (hx : x = some .began) : st = .idle := by
  cases hm with
  | refuse | begin => rfl
  | claim | publish | unpublished | finished => cases hx
  | @decide q' fresh cl y =>
    cases y with
    | inFlight same o => cases same <;> cases hx
    | _ => cases hx
  | @produce q held p p' s'' e => cases e <;> cases hx
  | conclude hc =>
    obtain ⟨m, h, -, hc⟩ := conclude_cases ha hc
    rcases hc with ⟨-, -, rfl⟩ | ⟨-, ⟨t, -, rfl, -⟩ | ⟨rfl, -⟩⟩ <;> cases hx

theorem Moves.produced {c : Clock} {a : Except Failure Json} {s s' : Store} {b b' : Broker}
    {st st' : Stage} {x : Option Act} (hm : Moves br lane d c a s b st st' s' b' x)
    {e : Event} (hx : x = some (.produced e)) :
    ∃ q held p, st = .working q held p := by
  cases hm with
  | produce | conclude => exact ⟨_, _, _, rfl⟩
  | refuse | begin | claim | publish | unpublished | finished => cases hx
  | @decide q' fresh cl y =>
    cases y with
    | inFlight same o => cases same <;> cases hx
    | _ => cases hx

theorem Moves.published {c : Clock} {a : Except Failure Json} {s s' : Store} {b b' : Broker}
    {st st' : Stage} {x : Option Act} (hm : Moves br lane d c a s b st st' s' b' x)
    (ha : s.available = true) {m : Reply} (hx : x = some (.published m)) :
    ∃ h, st = .publishing m h := by
  cases hm with
  | publish => cases hx; exact ⟨_, rfl⟩
  | refuse | begin | claim | unpublished | finished => cases hx
  | @decide q' fresh cl y =>
    cases y with
    | inFlight same o => cases same <;> cases hx
    | _ => cases hx
  | @produce q held p p' s'' e => cases e <;> cases hx
  | conclude hc =>
    obtain ⟨m, h, -, hc⟩ := conclude_cases ha hc
    rcases hc with ⟨-, -, rfl⟩ | ⟨-, ⟨t, -, rfl, -⟩ | ⟨rfl, -⟩⟩ <;> cases hx

theorem Moves.from_idle {c : Clock} {a : Except Failure Json} {s s' : Store} {b b' : Broker}
    {st st' : Stage} {x : Option Act} (hm : Moves br lane d c a s b st st' s' b' x)
    (h : st = .idle) : (∃ hd, st' = .done hd) ∨ ∃ q rec cl, st' = .claiming q rec cl := by
  cases hm with
  | refuse => exact .inl ⟨_, rfl⟩
  | begin => exact .inr ⟨_, _, _, rfl⟩
  | _ => cases h

theorem Moves.available {c : Clock} {a : Except Failure Json} {s s' : Store} {b b' : Broker}
    {st st' : Stage} {x : Option Act} (hm : Moves br lane d c a s b st st' s' b' x)
    (ha : s.available = true) : s'.available = true := by
  cases hm with
  | refuse | begin | publish | unpublished | finished => exact ha
  | claim hc _ => cases hc <;> simp [ha]
  | decide hc => cases hc <;> simp [ha]
  | produce _ hs => rw [Produce.step_available hs]; exact ha
  | conclude hc =>
    obtain ⟨m, h, -, hc⟩ := conclude_cases ha hc
    rcases hc with ⟨-, rfl, -⟩ | ⟨-, ⟨t, -, -, rfl⟩ | ⟨-, rfl⟩⟩ <;> simp [ha]

theorem Moves.claimKey {c : Clock} {a : Except Failure Json} {s s' : Store} {b b' : Broker}
    {st st' : Stage} {x : Option Act} {rid : String}
    (hm : Moves br lane d c a s b st st' s' b' x) (ha : s.available = true)
    (hreq : ∀ q, st.request? = some q → q.requestId = rid)
    (hpre : hasPrefix (lane.resource ++ ":") (Guard.key lane.queue rid) = false)
    (hkeyed : ∀ q held p k, st = .working q held p → p.key? = some k →
      hasPrefix (lane.resource ++ ":") k = true)
    (hund : ∀ q fresh y, st ≠ .claiming q fresh (.decided y)) :
    (s'.find? (Guard.key lane.queue rid) = s.find? (Guard.key lane.queue rid) ∧
      (∀ rec, st'.held? = some rec → st.held? = some rec) ∧ ∀ rec, x ≠ some (.recorded rec)) ∨
    (∃ q fresh, st' = .working q (some fresh) (Produce.start lane q) ∧
      x = some (.claimed fresh) ∧
      s' = s.put (Guard.key lane.queue rid) ⟨fresh.encode, some (c.mono + br.guard.ttl.nanos)⟩ ∧
      ((∃ n, st = .claiming q fresh (.setting n) ∧ s.live? c.mono (Guard.key lane.queue rid) = none) ∨
        ∃ n raw previous, st = .claiming q fresh (.swapping n raw previous) ∧
          s.live? c.mono (Guard.key lane.queue rid) = some raw)) ∨
    (∃ q rec r, st = .working q (some rec) (.answered r) ∧ st'.held? = none ∧
      ((∃ m, x = some (.recorded (completedRecord br.guard c d.id m)) ∧
          s' = s.put (Guard.key lane.queue rid)
            ⟨(completedRecord br.guard c d.id m).encode, some (c.mono + br.guard.ttl.nanos)⟩) ∨
        x = some .released ∧ s' = s.erase (Guard.key lane.queue rid))) := by
  cases hm with
  | refuse | begin | publish | unpublished | finished =>
    exact .inl ⟨rfl, (fun _ h => by cases h), fun _ h => by cases h⟩
  | claim hc hne =>
    -- the calls that do not decide the claim leave the store as it was
    cases hc with
    | taken | vanished | abandoned | lost =>
      exact .inl ⟨rfl, (fun _ h => by cases h), fun _ h => by cases h⟩
    | _ => exact absurd rfl (hne _)
  | @decide q fresh cl y s'' hc =>
    have hk : Guard.key lane.queue q.requestId = Guard.key lane.queue rid := by
      rw [hreq q rfl]
    cases hc with
    | contended => exact .inl ⟨rfl, (fun _ h => by cases h), fun _ h => by cases h⟩
    | @acquire n t hl hd =>
      rw [Clock.deadline_eq_ok hd, hk]
      rw [hk] at hl
      exact .inr (.inl ⟨q, fresh, rfl, rfl, rfl, .inl ⟨n + 1, rfl, hl⟩⟩)
    | @reclaim n raw previous t hl hd =>
      rw [Clock.deadline_eq_ok hd, hk]
      rw [hk] at hl
      exact .inr (.inl ⟨q, fresh, rfl, rfl, rfl, .inr ⟨n, raw, previous, rfl, hl⟩⟩)
    | judged hl hj =>
      rcases Guard.judge_final hj with ⟨m, rfl⟩ | ⟨same, o, rfl⟩
      · exact .inl ⟨rfl, (fun _ h => by cases h), fun _ h => by cases h⟩
      · cases same <;> exact .inl ⟨rfl, (fun _ h => by cases h), fun _ h => by cases h⟩
    | stays => exact absurd rfl (hund q fresh y)
  | @produce q held p p' s'' e hp hs =>
    refine .inl ⟨Produce.step_find? hs ?_ (key_ne_generationKey _ _ _) ?_, (fun _ h => h),
      fun _ h => by cases e <;> cases h⟩
    · exact hpre
    · intro hkey
      have := hkeyed q held p _ rfl hkey
      rw [hpre] at this
      cases this
  | @conclude q held r st'' s'' x'' hcon =>
    obtain ⟨m, hd, rfl, hc⟩ := conclude_cases ha hcon
    have hk : Guard.key lane.queue q.requestId = Guard.key lane.queue rid := by
      rw [hreq q rfl]
    rcases hc with ⟨rfl, rfl, rfl⟩ | ⟨⟨rec, rfl⟩, hc⟩
    · exact .inl ⟨rfl, (fun _ h => by cases h), fun _ h => by cases h⟩
    · refine .inr (.inr ⟨q, rec, r, rfl, rfl, ?_⟩)
      rcases hc with ⟨t, hd, rfl, rfl⟩ | ⟨rfl, rfl⟩
      · rw [Clock.deadline_eq_ok hd, hk]
        exact .inl ⟨m, rfl, rfl⟩
      · rw [hk]
        exact .inr ⟨rfl, rfl⟩

end Stage

structure Setup (ι : Type) where
  bridge : Bridge
  lane : Subscription.Config
  owner : ι → String
  delivery : ι → Delivery

/-- Handlings of one lane that share a store and a broker: where each stands (`none` once a
panic halted it), the clock's last reading, and what they did, oldest first. -/
structure Crew (ι : Type) where
  store : Store
  broker : Broker
  now : Clock
  stage : ι → Option Stage
  notes : List (ι × Act)

namespace Crew

variable {ι : Type} [DecidableEq ι] (σ : Setup ι)

def move (i : ι) (w : Crew ι) (c : Clock) (answer : Except Failure Json) (st : Stage) :
    Except Panic (Stage × Store × Broker × Option Act) :=
  st.step (σ.bridge.ownedBy (σ.owner i)) σ.lane (σ.delivery i) c answer w.store w.broker

def step (w : Crew ι) (t : Turn ι) : Crew ι :=
  match w.stage t.who with
  | none => { w with now := t.clock }
  | some st =>
    match move σ t.who w t.clock t.answer st with
    | .ok (st', s', b', x) =>
      ⟨s', b', t.clock, Function.update w.stage t.who (some st'), w.notes ++ (x.map (t.who, ·)).toList⟩
    | .error _ => { w with now := t.clock, stage := Function.update w.stage t.who none }

def run (w : Crew ι) (ts : List (Turn ι)) : Crew ι := ts.foldl (step σ) w

def Noted (w : Crew ι) (u : Nat) (i : ι) (x : Act) : Prop := w.notes[u]? = some (i, x)

variable {σ}

theorem update_eq_some {f : ι → Option Stage} {a i : ι} {v : Option Stage} {st : Stage}
    (h : Function.update f a v i = some st) : i = a ∧ v = some st ∨ i ≠ a ∧ f i = some st := by
  by_cases hi : i = a
  · subst hi
    exact .inl ⟨rfl, by rwa [Function.update_self] at h⟩
  · exact .inr ⟨hi, by rwa [Function.update_of_ne hi] at h⟩

variable (σ) in
theorem step_cases (w : Crew ι) (t : Turn ι) (ha : w.store.available = true) :
    w.stage t.who = none ∧ w.step σ t = { w with now := t.clock } ∨
    w.step σ t = { w with now := t.clock, stage := Function.update w.stage t.who none } ∨
    ∃ st st' s' b' x, w.stage t.who = some st ∧
      Stage.Moves (σ.bridge.ownedBy (σ.owner t.who)) σ.lane (σ.delivery t.who) t.clock t.answer
        w.store w.broker st st' s' b' x ∧
      w.step σ t = ⟨s', b', t.clock, Function.update w.stage t.who (some st'),
        w.notes ++ (x.map (t.who, ·)).toList⟩ := by
  unfold step
  split
  · rename_i hn
    exact .inl ⟨hn, rfl⟩
  · rename_i st hst
    split
    · rename_i st' s' b' x hm
      exact .inr (.inr ⟨st, st', s', b', x, hst, Stage.step_moves ha hm, rfl⟩)
    · exact .inr (.inl rfl)

@[simp] theorem step_now (w : Crew ι) (t : Turn ι) : (w.step σ t).now = t.clock := by
  unfold step
  split
  · rfl
  · split <;> rfl

theorem step_available {w : Crew ι} {t : Turn ι} (ha : w.store.available = true) :
    (w.step σ t).store.available = true := by
  rcases step_cases σ w t ha with ⟨-, he⟩ | he | ⟨st, st', s', b', x, hst, hm, he⟩ <;> rw [he]
  · exact ha
  · exact ha
  · exact hm.available ha

omit [DecidableEq ι] in
theorem noted_append {w : Crew ι} {s : Store} {b : Broker} {c : Clock} {f : ι → Option Stage}
    {i j : ι} {x : Option Act} {u : Nat} {y : Act} :
    Noted ⟨s, b, c, f, w.notes ++ (x.map (i, ·)).toList⟩ u j y ↔
      w.Noted u j y ∨ u = w.notes.length ∧ j = i ∧ x = some y := by
  unfold Noted
  cases x with
  | none => simp
  | some x =>
    simp only [Option.map_some, Option.toList_some]
    constructor
    · intro h
      rcases Pool.getElem?_snoc h with h | ⟨hu, he⟩
      · exact .inl h
      · obtain ⟨rfl, rfl⟩ := Prod.mk.inj he
        exact .inr ⟨hu, rfl, rfl⟩
    · rintro (h | ⟨rfl, rfl, hx⟩)
      · rw [List.getElem?_append_left (List.getElem?_eq_some_iff.mp h).1]
        exact h
      · cases hx
        simp

omit [DecidableEq ι] in
theorem Noted.lt_length {w : Crew ι} {u : Nat} {i : ι} {x : Act} (h : w.Noted u i x) :
    u < w.notes.length :=
  (List.getElem?_eq_some_iff.mp h).1

omit [DecidableEq ι] in
theorem Noted.unique {w : Crew ι} {u : Nat} {i j : ι} {x y : Act} (h : w.Noted u i x)
    (h' : w.Noted u j y) : i = j ∧ x = y := by
  unfold Noted at h h'
  rw [h] at h'
  exact Prod.mk.inj (Option.some.inj h')

theorem noted_step {w : Crew ι} {t : Turn ι} (ha : w.store.available = true) {u : Nat} {i : ι}
    {y : Act} (h : (w.step σ t).Noted u i y) :
    w.Noted u i y ∨ u = w.notes.length ∧ i = t.who ∧
      ∃ st st' s' b', w.stage t.who = some st ∧
        Stage.Moves (σ.bridge.ownedBy (σ.owner t.who)) σ.lane (σ.delivery t.who) t.clock t.answer
          w.store w.broker st st' s' b' (some y) ∧
        w.step σ t = ⟨s', b', t.clock, Function.update w.stage t.who (some st'),
          w.notes ++ [(t.who, y)]⟩ := by
  rcases step_cases σ w t ha with ⟨-, he⟩ | he | ⟨st, st', s', b', x, hst, hm, he⟩ <;> rw [he] at h
  · exact .inl h
  · exact .inl h
  · rcases noted_append.mp h with h | ⟨hu, rfl, rfl⟩
    · exact .inl h
    · exact .inr ⟨hu, rfl, st, st', s', b', hst, hm, he⟩

theorem Noted.step {w : Crew ι} {t : Turn ι} {u : Nat} {i : ι} {x : Act} (h : w.Noted u i x) :
    (w.step σ t).Noted u i x := by
  unfold Crew.step
  split
  · exact h
  · split
    · exact noted_append.mpr (.inl h)
    · exact h

theorem Noted.run {w : Crew ι} {u : Nat} {i : ι} {x : Act} (ts : List (Turn ι))
    (h : w.Noted u i x) : (w.run σ ts).Noted u i x := by
  induction ts generalizing w with
  | nil => exact h
  | cons t ts ih => exact ih h.step

end Crew

end Concurrent

end Relay
