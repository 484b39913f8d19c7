import Relay.Proofs.Crew
/-!
# What becomes of a delivery

The decision table of `Handler.handle` (`Handler.Table`), for every delivery, store, backend and
broker. Bytes that are no request are discarded with the `DECODE` kind, nothing else happens, and
no other delivery comes to that. A request whose claim finds it completed has the stored result
published again and is acknowledged; one in flight is acknowledged as a duplicate or, under this
very delivery, left for later, and nothing is published. Any other request is produced
(`Handler.produce`: a change runs the operation and then invalidates the resource's results; a
read is answered by the result cache, or runs the operation and stores its data), and one result
with the request's id is published: completed and acknowledged, or failed, acknowledged for a
missing thing and discarded with its kind otherwise. A broker that refuses the result leaves the
delivery for later.

A handling stops with a panic instead when a 64-bit computation overflows: a deadline past the
end of the clock, the age of a claim record written too far from now, or a generation counter
that already stands at the largest 64-bit integer. `Handler.Headroom` rules these out, and
`handle_decides` is the table under it.
-/
namespace Relay

open Cache

theorem Except.map_eq_ok {ε α β : Type} {x : Except ε α} {f : α → β} {b : β} :
    x.map f = .ok b ↔ ∃ a, x = .ok a ∧ f a = b := by
  cases x <;> simp [Except.map]

theorem Request.decode_error_kind {bytes : List UInt8} {f : Fault}
    (h : Request.decode bytes = .error f) : f.kind = .decode := by
  unfold Request.decode at h
  split at h
  · cases h
    rfl
  · split at h
    · cases h
      rfl
    · cases h

theorem Failure.Kind.isBenign_iff (k : Failure.Kind) : k.isBenign = true ↔ k = .notFound := by
  cases k <;> decide

theorem Broker.publish_lastId {b b' : Broker} {d : Destination} {payload : List UInt8}
    {id : String} (h : b.publish d payload = .ok (id, b')) : b'.lastId = b.lastId + 1 := by
  unfold Broker.publish at h
  split at h
  · cases h
  · cases h
    rfl

theorem Publisher.publish_lastId {p : Publisher} {b b' : Broker} {resource : String} {r : Reply}
    (h : p.publish b resource r = .ok b') : b.lastId < b'.lastId := by
  cases hb₁ : b.publish p.destination r.bytes with
  | error f => rw [Publisher.publish_shared_fails hb₁] at h; cases h
  | ok x =>
    obtain ⟨id, b₁⟩ := x
    have h₁ := Broker.publish_lastId hb₁
    cases hl : p.isLegacy resource
    · rw [Publisher.publish_not_legacy hb₁ hl] at h
      cases h
      omega
    · -- the copy to the legacy destination takes a second id, if it is taken
      cases hb₂ : b₁.publish (legacyDestination resource r.isCompleted) r.bytes with
      | ok y =>
        obtain ⟨id₂, b₂⟩ := y
        rw [Publisher.publish_legacy_copied hb₁ hl hb₂] at h
        cases h
        have h₂ := Broker.publish_lastId hb₂
        omega
      | error e =>
        rw [Publisher.publish_legacy_fails hb₁ hl hb₂] at h
        cases h
        omega

namespace Cache

theorem Store.incr_ne_panic {s : Store} {c : Clock} {k : String}
    (h : s.CountsUp c.mono k)
    (p : Panic) : s.incr c k ≠ .error (.panic p) := by
  intro hi
  unfold Store.incr at hi
  by_cases ha : s.available = true
  · simp only [Store.check, ha, if_true, bind, Except.bind] at hi
    cases hl : s.live? c.mono k with
    | none => simp [hl, pure, Except.pure, int64Max] at hi
    | some raw =>
      cases hp : (Text.IntFormat.signed 64).parse raw with
      | error e => simp [hl, hp, throw, throwThe, MonadExceptOf.throw] at hi
      | ok n =>
        have hn : n ≠ int64Max := fun hn => h raw hl (hn ▸ hp)
        simp [hl, hp, hn, pure, Except.pure] at hi
  · simp [Store.check, ha, bind, Except.bind] at hi

theorem Results.invalidate_ne_panic {s : Store} {c : Clock} {r : String}
    (h : s.CountsUp c.mono (generationKey r)) (p : Panic) :
    invalidate s c r ≠ .error (.panic p) := by
  intro hi
  unfold invalidate at hi
  cases hn : s.incr c (generationKey r) with
  | error e =>
    cases e with
    | fault f => simp [hn, bind, Except.bind] at hi
    | panic p' =>
      simp only [hn, bind, Except.bind] at hi
      exact Store.incr_ne_panic h p' hn
  | ok x =>
    obtain ⟨n, s'⟩ := x
    by_cases ha : s'.available = true
    · obtain ⟨m, hm⟩ := Store.deletePrefix_ok s' ha (r ++ ":")
      simp [hn, hm, bind, Except.bind, pure, Except.pure] at hi
    · simp [hn, Store.deletePrefix, Store.check, ha, bind, Except.bind] at hi

theorem Results.put_ok_of_deadline {rc : Results} {s : Store} {c : Clock} {k : String} {v : Json}
    (h : c.mono + rc.ttl.nanos ≤ Clock.monoEnd) : ∃ s', rc.put s c k v = .ok s' := by
  unfold put
  by_cases ha : s.available = true
  · simp [Store.set_ok s c ha, Store.fresh, Clock.deadline, h, Except.map]
  · simp [Store.set, Store.check, ha, bind, Except.bind]

theorem Store.set_ne_panic {s : Store} {c : Clock} {k v : String} {ttl : Span}
    (h : c.mono + ttl.nanos ≤ Clock.monoEnd) (p : Panic) : s.set c k v ttl ≠ .error (.panic p) := by
  by_cases ha : s.available = true
  · simp [Store.set_ok s c ha, Store.fresh, Clock.deadline, h, Except.map]
  · simp [Store.set, Store.check, ha, bind, Except.bind]

theorem Store.delete_ne_panic {s : Store} {k : String} (p : Panic) :
    s.delete k ≠ .error (.panic p) := by
  by_cases ha : s.available = true
  · simp [Store.delete_ok s ha]
  · simp [Store.delete, Store.check, ha, bind, Except.bind]

end Cache

namespace Handler

variable {σ : Type} [Backend σ] (br : Bridge) (lane : Subscription.Config)

/-- Room for every 64-bit computation of a handling from `st`: the deadlines of claim records
and of cached results fall before the end of the clock, each claim record of the lane was
written within 2⁶³ milliseconds of now, and the resource's generation counter can still be
counted up. -/
structure Headroom (st : State σ) : Prop where
  claims : st.clock.mono + br.guard.ttl.nanos ≤ Clock.monoEnd
  results : st.clock.mono + br.results.ttl.nanos ≤ Clock.monoEnd
  ages : ∀ rid raw rec, st.store.live? st.clock.mono (Guard.key lane.queue rid) = some raw →
    ClaimRecord.decode raw = .ok rec → fitsInt64 (st.clock.wall.ms - rec.claimedAtMs)
  generation : ∀ raw,
    st.store.live? st.clock.mono (Results.generationKey lane.resource) = some raw →
    (Text.IntFormat.signed 64).parse raw ≠ .ok int64Max

def followUp (st : State σ) (sq : Sequel) : Except (Failure × Failure.Kind) Json →
    Except Panic (State σ)
  | .ok data => follow br lane st data sq
  | .error _ => .ok st

/-- The operation side of handling the request `q` from `st`: a change runs the operation and,
when it answers, invalidates the resource's results; a read is answered by the result cache, or
runs the operation and stores the data under the key the cache missed, or, when the cache
cannot be asked, only runs it. -/
def produce (st : State σ) (q : Request) :
    Except Panic (Except (Failure × Failure.Kind) Json × State σ) :=
  let run (sq : Sequel) :=
    let e := execute br lane.resource lane.verb q.payload st
    (followUp br lane e.2 sq e.1).map fun st' => (e.1, st')
  if lane.verb.isMutation then run .invalidate
  else
    match Results.lookup st.store st.clock lane.resource (queryShape lane.verb q.payload) with
    | .hit v => .ok (.ok v, st)
    | .miss k => run (.store k)
    | .bypass => run .pass

def reply (rid : String) (now : Moment) : Except (Failure × Failure.Kind) Json → Reply
  | .ok data => br.publisher.completed rid data now
  | .error (f, _) => br.publisher.failed rid f.message now

/-- What a published final answer makes of its delivery: data and a missing thing are
acknowledged, any other failure is discarded with its kind and message. -/
def verdict : Except (Failure × Failure.Kind) Json → Handled
  | .ok _ => Handled.ack
  | .error (f, k) =>
    if k = .notFound then Handled.ack else Handled.discard (k.name ++ ": " ++ f.message)

/-- Publishing `r` at the broker `b`, to end the delivery with `h₀`, ends it with `h` and leaves
the broker `b'`: `r` is published and `h` is `h₀`, or the broker refuses `r`, nothing is
published and the delivery is left for later with the refusal as the reason. -/
def Emits (b : Broker) (r : Reply) (h₀ h : Handled) (b' : Broker) : Prop :=
  br.publisher.publish b lane.resource r = .ok b' ∧ h = h₀ ∨
    ∃ f, br.publisher.publish b lane.resource r = .error f ∧ b' = b ∧
      h = Handled.requeue f.message

/-- The decision table: the delivery `d`, handled from `st`, comes to `h` and leaves `st'`, by
what its bytes read as and what its claim comes to. Past the first row the table fixes the
broker, the backend and the calls made on it, and leaves the store to the claim's and the
cache's own records. -/
def Table (st : State σ) (d : Delivery) (h : Handled) (st' : State σ) : Prop :=
  match Request.decode d.payload with
  | .error f => h = Handled.discard ("DECODE: " ++ f.message) ∧ st' = st
  | .ok q =>
    match br.guard.claim st.store st.clock lane.queue q.requestId d.id with
    | .error _ => False
    | .ok (.completed r, _) =>
      Emits br lane st.broker r Handled.ack h st'.broker ∧ st'.backend = st.backend ∧
        st'.calls = st.calls
    | .ok (.inFlight same _, _) =>
      h = (if same then Handled.requeue "claim held by a live processor" else Handled.ack) ∧
        st'.broker = st.broker ∧ st'.backend = st.backend ∧ st'.calls = st.calls
    | .ok (_, s) =>
      ∃ res st₁, produce br lane { st with store := s } q = .ok (res, st₁) ∧
        Emits br lane st₁.broker (reply br q.requestId st.clock.wall res) (verdict res) h
          st'.broker ∧ st'.backend = st₁.backend ∧ st'.calls = st₁.calls

/-! ### What each part of a handling changes -/

theorem call_state (st : State σ) (resource : String) (verb : Verb) (payload : Json) :
    (call st resource verb payload).2 =
      { st with backend := (Backend.serve st.backend resource st.clock.wall verb payload).2,
                calls := (verb, payload) :: st.calls } := rfl

theorem ask_state (resource : String) (verb : Verb) (payload : Json) (retries : Nat)
    (st : State σ) : (ask br resource verb payload retries st).2 = (call st resource verb payload).2 := by
  unfold ask
  split
  · rename_i hc
    rw [hc]
  · rename_i hc
    dsimp only
    split <;> rw [hc]

theorem attempt_state (resource : String) (verb : Verb) (payload : Json) (retries fuel : Nat)
    (st : State σ) : ∃ b cs,
      (attempt br resource verb payload retries fuel st).2 = { st with backend := b, calls := cs } := by
  induction fuel generalizing retries st with
  | zero =>
    rw [attempt]
    have hs := (ask_state br resource verb payload retries st).trans (call_state st resource verb payload)
    split <;> rename_i hask <;> rw [hask] at hs <;> exact ⟨_, _, hs⟩
  | succ n ih =>
    rw [attempt]
    have hs := (ask_state br resource verb payload retries st).trans (call_state st resource verb payload)
    split
    · rename_i hask
      rw [hask] at hs
      exact ⟨_, _, hs⟩
    · -- a retry calls again from the state the call left
      rename_i st' hask
      rw [hask] at hs
      dsimp only at hs
      subst hs
      exact ih (retries + 1) _

variable {br lane}

omit [Backend σ] in
theorem follow_state {st st' : State σ} {data : Json} {sq : Sequel}
    (h : follow br lane st data sq = .ok st') : ∃ s, st' = { st with store := s } := by
  cases sq with
  | invalidate =>
    simp only [follow] at h
    split at h <;> cases h
    · exact ⟨_, rfl⟩
    · exact ⟨st.store, rfl⟩
  | store k =>
    simp only [follow, bind, Except.bind] at h
    split at h <;> cases h
    exact ⟨_, rfl⟩
  | pass =>
    cases h
    exact ⟨st.store, rfl⟩

omit [Backend σ] in
theorem keep_ok {st : State σ} {x : Except Halt Store} (h : ∀ p, x ≠ .error (.panic p)) :
    ∃ s, keep st x = .ok { st with store := s } := by
  unfold keep
  split
  · exact ⟨_, rfl⟩
  · exact ⟨st.store, rfl⟩
  · exact absurd rfl (h _)

omit [Backend σ] in
theorem emit_emits (st : State σ) (r : Reply) (h₀ : Handled) :
    Emits br lane st.broker r h₀ (emit br lane st r h₀).1 (emit br lane st r h₀).2.broker ∧
      (emit br lane st r h₀).2 = { st with broker := (emit br lane st r h₀).2.broker } := by
  unfold emit
  split
  · rename_i b hb
    exact ⟨.inl ⟨hb, rfl⟩, rfl⟩
  · rename_i f hf
    exact ⟨.inr ⟨f, hf, rfl, rfl⟩, rfl⟩

omit [Backend σ] in
theorem followUp_state {st st' : State σ} {sq : Sequel} {r : Except (Failure × Failure.Kind) Json}
    (h : followUp br lane st sq r = .ok st') : ∃ s, st' = { st with store := s } := by
  cases r with
  | ok data => exact follow_state h
  | error e =>
    cases h
    exact ⟨st.store, rfl⟩

theorem produce_state {st st' : State σ} {q : Request} {res : Except (Failure × Failure.Kind) Json}
    (h : produce br lane st q = .ok (res, st')) : st'.broker = st.broker ∧ st'.clock = st.clock := by
  -- every way of producing runs the operation and follows its answer up, or reads the cache
  have hrun : ∀ sq, ((followUp br lane (execute br lane.resource lane.verb q.payload st).2 sq
      (execute br lane.resource lane.verb q.payload st).1).map
        fun st' => ((execute br lane.resource lane.verb q.payload st).1, st')) = .ok (res, st') →
      st'.broker = st.broker ∧ st'.clock = st.clock := by
    intro sq hr
    obtain ⟨b, cs, he⟩ := attempt_state br lane.resource lane.verb q.payload 0 retryBudget st
    obtain ⟨st₁, hf, hst⟩ := Except.map_eq_ok.1 hr
    simp only [Prod.mk.injEq] at hst
    obtain ⟨-, rfl⟩ := hst
    obtain ⟨s, rfl⟩ := followUp_state hf
    simp [execute, he]
  unfold produce at h
  split at h
  · exact hrun _ h
  · split at h
    · cases h
      exact ⟨rfl, rfl⟩
    · exact hrun _ h
    · exact hrun _ h

omit [Backend σ] in
theorem verdict_failure (f : Failure) (k : Failure.Kind) :
    (if k.isBenign then Handled.ack else Handled.discard (k.name ++ ": " ++ f.message)) =
      verdict (.error (f, k)) := by
  by_cases hk : k = .notFound <;> simp [verdict, hk, Failure.Kind.isBenign_iff]

omit [Backend σ] in
theorem emit_backend (st : State σ) (r : Reply) (h₀ : Handled) :
    (emit br lane st r h₀).2.backend = st.backend := by
  unfold emit
  split <;> rfl

omit [Backend σ] in
theorem emit_calls (st : State σ) (r : Reply) (h₀ : Handled) :
    (emit br lane st r h₀).2.calls = st.calls := by
  unfold emit
  split <;> rfl

omit [Backend σ] in
variable (br lane) in
theorem emit_ok (st : State σ) (r : Reply) (h₀ : Handled) :
    ∃ h st', (pure (emit br lane st r h₀) : Except Panic (Handled × State σ)) = .ok (h, st') ∧
      Emits br lane st.broker r h₀ h st'.broker ∧ st'.backend = st.backend ∧
        st'.calls = st.calls :=
  ⟨_, _, rfl, (emit_emits st r h₀).1, emit_backend st r h₀, emit_calls st r h₀⟩

omit [Backend σ] in
theorem keep_complete_ok (st : State σ) (operation rid deliveryId : String) (record : Reply)
    (hd : st.clock.mono + br.guard.ttl.nanos ≤ Clock.monoEnd) :
    ∃ s, keep st (br.guard.complete st.store st.clock operation rid deliveryId record) =
      .ok { st with store := s } :=
  keep_ok (Store.set_ne_panic hd)

omit [Backend σ] in
theorem keep_release_ok (st : State σ) (operation rid : String) :
    ∃ s, keep st (Guard.release st.store operation rid) = .ok { st with store := s } :=
  keep_ok Store.delete_ne_panic

omit [Backend σ] in
theorem conclude_emits {st st₁ : State σ} {w : Handling} {r : Except (Failure × Failure.Kind) Json}
    (hd : st.clock.mono + br.guard.ttl.nanos ≤ Clock.monoEnd)
    (hf : followUp br lane st w.sequel r = .ok st₁) :
    ∃ h st', conclude br lane st w r = .ok (h, st') ∧
      Emits br lane st₁.broker (reply br w.request.requestId st.clock.wall r) (verdict r) h
        st'.broker ∧ st'.backend = st₁.backend ∧ st'.calls = st₁.calls := by
  cases r with
  | ok data =>
    obtain ⟨s₁, rfl⟩ := followUp_state hf
    simp only [followUp] at hf
    simp only [conclude, hf, bind, Except.bind]
    -- a claimed request has its outcome recorded before the result is published
    split
    · obtain ⟨s₂, hs⟩ := keep_complete_ok { st with store := s₁ } lane.queue w.request.requestId
        w.delivery.id (br.publisher.completed w.request.requestId data st.clock.wall) hd
      rw [hs]
      exact emit_ok _ _ _ _ _
    · exact emit_ok _ _ _ _ _
  | error e =>
    obtain ⟨f, k⟩ := e
    simp only [followUp] at hf
    cases hf
    simp only [conclude, bind, Except.bind, verdict_failure]
    -- a claimed request records a final failure, and gives its claim up for one to retry
    split
    · split
      · obtain ⟨s₂, hs⟩ := keep_complete_ok st lane.queue w.request.requestId w.delivery.id
          (br.publisher.failed w.request.requestId f.message st.clock.wall) hd
        rw [hs]
        exact emit_ok _ _ _ _ _
      · obtain ⟨s₂, hs⟩ := keep_release_ok st lane.queue w.request.requestId
        rw [hs]
        exact emit_ok _ _ _ _ _
    · exact emit_ok _ _ _ _ _

/-! ### Starting, and producing without a panic -/

variable (lane) in
/-- The handling that `start` sets to work on the request `q` with the state `st` its claim
left: a change calls the operation, a read first asks the result cache. -/
def launch (st : State σ) (d : Delivery) (q : Request) (claimed : Bool) : Handling :=
  if lane.verb.isMutation then ⟨d, q, claimed, .invalidate, .calling 0⟩
  else
    match Results.lookup st.store st.clock lane.resource (queryShape lane.verb q.payload) with
    | .hit v => ⟨d, q, claimed, .pass, .answered (.ok v)⟩
    | .miss k => ⟨d, q, claimed, .store k, .calling 0⟩
    | .bypass => ⟨d, q, claimed, .pass, .calling 0⟩

omit [Backend σ] in
theorem start_process {st : State σ} {d : Delivery} {q : Request} {c : Claim} {s : Store}
    (hq : Request.decode d.payload = .ok q)
    (hc : br.guard.claim st.store st.clock lane.queue q.requestId d.id = .ok (c, s))
    (hp : c.shouldProcess = true) :
    start br lane st d = .ok (.pauses (launch lane { st with store := s } d q
      (c.shouldProcess && !(c matches .degraded _))) Span.zero, { st with store := s }) := by
  cases c with
  | completed r => cases hp
  | inFlight same o => cases hp
  | acquired | reclaimed _ | degraded _ =>
    simp only [start, hq, hc, bind, Except.bind, launch]
    split
    · rfl
    · split <;> rename_i hl <;> rw [hl] <;> rfl

theorem finish_launch {st st₂ : State σ} {q : Request} {res : Except (Failure × Failure.Kind) Json}
    (d : Delivery) (claimed : Bool) (hp : produce br lane st q = .ok (res, st₂)) :
    ∃ st₁, followUp br lane st₁ (launch lane st d q claimed).sequel res = .ok st₂ ∧
      st₁.clock = st.clock ∧
      finish br lane st (launch lane st d q claimed) =
        conclude br lane st₁ (launch lane st d q claimed) res := by
  -- the operation, run with its retries, leaves the clock as it was
  have hclock : (execute br lane.resource lane.verb q.payload st).2.clock = st.clock := by
    obtain ⟨b, cs, h⟩ := attempt_state br lane.resource lane.verb q.payload 0 retryBudget st
    simp only [execute, h]
  have hrun : ∀ sq, (followUp br lane (execute br lane.resource lane.verb q.payload st).2 sq
      (execute br lane.resource lane.verb q.payload st).1).map
        (fun st' => ((execute br lane.resource lane.verb q.payload st).1, st')) = .ok (res, st₂) →
      res = (execute br lane.resource lane.verb q.payload st).1 ∧
        followUp br lane (execute br lane.resource lane.verb q.payload st).2 sq res = .ok st₂ := by
    intro sq h
    obtain ⟨st', hf, he⟩ := Except.map_eq_ok.1 h
    simp only [Prod.mk.injEq] at he
    obtain ⟨rfl, rfl⟩ := he
    exact ⟨rfl, hf⟩
  unfold produce at hp
  unfold launch
  by_cases hm : lane.verb.isMutation = true
  · simp only [hm, if_true] at hp ⊢
    obtain ⟨rfl, hf⟩ := hrun _ hp
    exact ⟨_, hf, hclock, rfl⟩
  · simp only [hm, Bool.false_eq_true, if_false] at hp ⊢
    cases hl : Results.lookup st.store st.clock lane.resource (queryShape lane.verb q.payload) with
    | hit v =>
      -- a hit is the answer at once, with nothing to follow up
      simp only [hl, Except.ok.injEq, Prod.mk.injEq] at hp ⊢
      obtain ⟨rfl, rfl⟩ := hp
      exact ⟨_, rfl, rfl, rfl⟩
    | miss k =>
      simp only [hl] at hp ⊢
      obtain ⟨rfl, hf⟩ := hrun _ hp
      exact ⟨_, hf, hclock, rfl⟩
    | bypass =>
      simp only [hl] at hp ⊢
      obtain ⟨rfl, hf⟩ := hrun _ hp
      exact ⟨_, hf, hclock, rfl⟩

omit [Backend σ] in
theorem launch_request (st : State σ) (d : Delivery) (q : Request) (claimed : Bool) :
    (launch lane st d q claimed).request = q := by
  unfold launch
  split
  · rfl
  · split <;> rfl

omit [Backend σ] in
theorem follow_ok (st : State σ) (hres : st.clock.mono + br.results.ttl.nanos ≤ Clock.monoEnd)
    (hgen : st.store.CountsUp st.clock.mono (Results.generationKey lane.resource)) (data : Json) (sq : Sequel) :
    ∃ st', follow br lane st data sq = .ok st' := by
  cases sq with
  | invalidate =>
    cases hi : Results.invalidate st.store st.clock lane.resource with
    | ok s => exact ⟨{ st with store := s }, by simp only [follow, hi]⟩
    | error e =>
      cases e with
      | fault f => exact ⟨st, by simp only [follow, hi]⟩
      | panic p => exact absurd hi (Results.invalidate_ne_panic hgen p)
  | store k =>
    obtain ⟨s, hs⟩ : ∃ s, br.results.put st.store st.clock k data = .ok s :=
      Results.put_ok_of_deadline hres
    exact ⟨{ st with store := s }, by simp only [follow, hs, bind, Except.bind, pure, Except.pure]⟩
  | pass => exact ⟨st, rfl⟩

theorem produce_ok (st : State σ) (hres : st.clock.mono + br.results.ttl.nanos ≤ Clock.monoEnd)
    (hgen : st.store.CountsUp st.clock.mono (Results.generationKey lane.resource)) (q : Request) :
    ∃ res st₁, produce br lane st q = .ok (res, st₁) := by
  obtain ⟨b, cs, he⟩ := attempt_state br lane.resource lane.verb q.payload 0 retryBudget st
  have he' : (execute br lane.resource lane.verb q.payload st).2 =
      { st with backend := b, calls := cs } := he
  have hrun : ∀ sq, ∃ res st₁, ((followUp br lane (execute br lane.resource lane.verb q.payload st).2
      sq (execute br lane.resource lane.verb q.payload st).1).map
        fun st' => ((execute br lane.resource lane.verb q.payload st).1, st')) = .ok (res, st₁) := by
    intro sq
    obtain ⟨st₁, hf⟩ : ∃ st₁, followUp br lane (execute br lane.resource lane.verb q.payload st).2
        sq (execute br lane.resource lane.verb q.payload st).1 = .ok st₁ := by
      rw [he']
      cases (execute br lane.resource lane.verb q.payload st).1 with
      | ok data => exact follow_ok { st with backend := b, calls := cs } hres hgen data sq
      | error e => exact ⟨_, rfl⟩
    exact ⟨_, st₁, by rw [hf]; rfl⟩
  unfold produce
  split
  · exact hrun _
  · split
    · exact ⟨_, _, rfl⟩
    · exact hrun _
    · exact hrun _

omit [Backend σ] in
theorem claim_ok {st : State σ} (hr : Headroom br lane st) (rid deliveryId : String) :
    ∃ c s, br.guard.claim st.store st.clock lane.queue rid deliveryId = .ok (c, s) ∧
      (s = st.store ∨ ∃ e, s = st.store.put (Guard.key lane.queue rid) e) :=
  Guard.claimRounds_ok hr.claims (hr.ages rid) Guard.rounds

omit [Backend σ] in
theorem Headroom.generation_after_claim {st : State σ} {s : Store} {rid : String}
    (hr : Headroom br lane st)
    (hs : s = st.store ∨ ∃ e, s = st.store.put (Guard.key lane.queue rid) e) :
    s.CountsUp st.clock.mono (Results.generationKey lane.resource) := by
  rcases hs with rfl | ⟨e, rfl⟩
  · exact hr.generation
  · exact Store.CountsUp.put hr.generation (Concurrent.key_ne_generationKey _ _ _) e

theorem handle_produces {st : State σ} {d : Delivery} {q : Request} {c : Claim} {s : Store}
    (hcl : st.clock.mono + br.guard.ttl.nanos ≤ Clock.monoEnd)
    (hres : st.clock.mono + br.results.ttl.nanos ≤ Clock.monoEnd)
    (hgen : s.CountsUp st.clock.mono (Results.generationKey lane.resource))
    (hq : Request.decode d.payload = .ok q)
    (hc : br.guard.claim st.store st.clock lane.queue q.requestId d.id = .ok (c, s))
    (hp : c.shouldProcess = true) :
    ∃ h st', handle br lane st d = .ok (h, st') ∧
      ∃ res st₁, produce br lane { st with store := s } q = .ok (res, st₁) ∧
        Emits br lane st₁.broker (reply br q.requestId st.clock.wall res) (verdict res) h
          st'.broker ∧ st'.backend = st₁.backend ∧ st'.calls = st₁.calls := by
  obtain ⟨res, st₂, hprod⟩ := produce_ok { st with store := s } hres hgen q
  obtain ⟨st₁, hf, hclock, hfin⟩ :=
    finish_launch d (c.shouldProcess && !(c matches .degraded _)) hprod
  have hd : st₁.clock.mono + br.guard.ttl.nanos ≤ Clock.monoEnd := by
    rw [hclock]
    exact hcl
  obtain ⟨h, st', hcon, he, hb, hcs⟩ := conclude_emits hd hf
  refine ⟨h, st', ?_, res, st₂, hprod, ?_, hb, hcs⟩
  · simp only [handle, start_process hq hc hp, bind, Except.bind]
    rw [hfin]
    exact hcon
  · rwa [launch_request, hclock] at he

theorem handle_process {st : State σ} {d : Delivery} {q : Request} {c : Claim} {s : Store}
    (hr : Headroom br lane st) (hq : Request.decode d.payload = .ok q)
    (hc : br.guard.claim st.store st.clock lane.queue q.requestId d.id = .ok (c, s))
    (hs : s = st.store ∨ ∃ e, s = st.store.put (Guard.key lane.queue q.requestId) e)
    (hp : c.shouldProcess = true) :
    ∃ h st', handle br lane st d = .ok (h, st') ∧
      ∃ res st₁, produce br lane { st with store := s } q = .ok (res, st₁) ∧
        Emits br lane st₁.broker (reply br q.requestId st.clock.wall res) (verdict res) h
          st'.broker ∧ st'.backend = st₁.backend ∧ st'.calls = st₁.calls :=
  handle_produces hr.claims hr.results (hr.generation_after_claim hs) hq hc hp

/-! ### The table -/

omit [Backend σ] in
theorem Emits.broker_ne {b b' : Broker} {r : Reply} {h₀ : Handled} {why : String}
    (he : Emits br lane b r h₀ (Handled.discard why) b') : b' ≠ b := by
  rcases he with ⟨hp, -⟩ | ⟨f, -, -, hh⟩
  · intro hb
    have hlt := Publisher.publish_lastId hp
    rw [hb] at hlt
    exact Nat.lt_irrefl _ hlt
  · -- a refused result leaves the delivery for later, it never discards it
    simp [Handled.discard, Handled.requeue] at hh

theorem Table.decode_iff {st st' : State σ} {d : Delivery} {h : Handled}
    (ht : Table br lane st d h st') :
    (∃ f, Request.decode d.payload = .error f) ↔
      (∃ why, h = Handled.discard ("DECODE: " ++ why)) ∧ st' = st := by
  unfold Table at ht
  constructor
  · rintro ⟨f, hf⟩
    rw [hf] at ht
    exact ⟨⟨f.message, ht.1⟩, ht.2⟩
  · rintro ⟨⟨why, rfl⟩, rfl⟩
    cases hq : Request.decode d.payload with
    | error f => exact ⟨f, rfl⟩
    | ok q =>
      rw [hq] at ht
      dsimp only at ht
      exfalso
      -- every other row publishes, and so changes the broker, or does not discard
      split at ht
      · exact ht
      · exact Emits.broker_ne ht.1 rfl
      · obtain ⟨hh, -⟩ := ht
        split at hh <;> simp [Handled.discard, Handled.requeue, Handled.ack] at hh
      · obtain ⟨res, st₁, hp, he, -⟩ := ht
        exact Emits.broker_ne he (produce_state hp).1.symm

/-- Every delivery is handled by the decision table, without a panic, wherever the handling has
headroom: bytes that are no request are discarded with the `DECODE` kind and nothing is
touched, and no other delivery comes to that; a completed request has its stored result
published again and is acknowledged; a request in flight is acknowledged as a duplicate, or left
for later under its own delivery, with nothing published; and any other request is produced,
its result published with the request's id and the delivery ended by the verdict of the
answer. A result the broker refuses leaves the delivery for later. -/
theorem handle_decides (st : State σ) (d : Delivery) (hr : Headroom br lane st) :
    ∃ h st', handle br lane st d = .ok (h, st') ∧ Table br lane st d h st' ∧
      ((∃ f, Request.decode d.payload = .error f) ↔
        (∃ why, h = Handled.discard ("DECODE: " ++ why)) ∧ st' = st) := by
  suffices hs : ∃ h st', handle br lane st d = .ok (h, st') ∧ Table br lane st d h st' by
    obtain ⟨h, st', hh, ht⟩ := hs
    exact ⟨h, st', hh, ht, ht.decode_iff⟩
  cases hq : Request.decode d.payload with
  | error f =>
    refine ⟨Handled.discard ("DECODE: " ++ f.message), st, ?_, ?_⟩
    · simp [handle, start, hq, Request.decode_error_kind hq, Failure.Kind.name, bind,
        Except.bind, pure, Except.pure]
    · unfold Table
      rw [hq]
      exact ⟨rfl, rfl⟩
  | ok q =>
    obtain ⟨c, s, hc, hs⟩ := claim_ok hr q.requestId d.id
    cases c with
    | completed r =>
      -- the stored result is published again
      refine ⟨(emit br lane { st with store := s } r Handled.ack).1,
        (emit br lane { st with store := s } r Handled.ack).2, ?_, ?_⟩
      · simp only [handle, start, hq, hc, bind, Except.bind, pure, Except.pure]
      · unfold Table
        rw [hq]
        dsimp only
        rw [hc]
        exact ⟨(emit_emits { st with store := s } r Handled.ack).1,
          emit_backend { st with store := s } r Handled.ack,
          emit_calls { st with store := s } r Handled.ack⟩
    | inFlight same o =>
      refine ⟨if same then Handled.requeue "claim held by a live processor" else Handled.ack,
        { st with store := s }, ?_, ?_⟩
      · cases same <;> simp only [handle, start, hq, hc, bind, Except.bind, pure, Except.pure] <;>
          rfl
      · unfold Table
        rw [hq]
        dsimp only
        rw [hc]
        exact ⟨rfl, rfl, rfl, rfl⟩
    | acquired =>
      obtain ⟨h, st', hh, ht⟩ := handle_process hr hq hc hs rfl
      refine ⟨h, st', hh, ?_⟩
      unfold Table
      rw [hq]
      dsimp only
      rw [hc]
      exact ht
    | reclaimed previous =>
      obtain ⟨h, st', hh, ht⟩ := handle_process hr hq hc hs rfl
      refine ⟨h, st', hh, ?_⟩
      unfold Table
      rw [hq]
      dsimp only
      rw [hc]
      exact ht
    | degraded fault =>
      obtain ⟨h, st', hh, ht⟩ := handle_process hr hq hc hs rfl
      refine ⟨h, st', hh, ?_⟩
      unfold Table
      rw [hq]
      dsimp only
      rw [hc]
      exact ht

def sampleBridge : Bridge := Bridge.ofSettings { consumerId := "worker" }

def insertDelivery : Delivery :=
  ⟨"1-0", "player-insert",
    (Request.encode ⟨"r1", "/players", "POST", .obj [("name", .str "a")], 0⟩).toUTF8.toList, 1⟩

def sampleState : State Script :=
  ⟨{}, {}, ⟨0, ⟨0⟩⟩, ⟨[.ok (.str "done")], .ok (.str "default")⟩, []⟩

def abandonedRecord : ClaimRecord := ⟨.inFlight, "worker-b", "0-1", -100000, none⟩

def reclaimState : State Script :=
  { sampleState with
    store := { entries := [(Guard.key "player-insert" "r1", ⟨abandonedRecord.encode, none⟩),
      ("cache-gen:player", ⟨"5", none⟩)] } }

theorem handle_decides_reclaimed :
    Headroom sampleBridge (Subscription.Config.make "player" .insert) reclaimState ∧
    ∃ h st', handle sampleBridge (Subscription.Config.make "player" .insert) reclaimState
        insertDelivery = .ok (h, st') ∧
      Table sampleBridge (Subscription.Config.make "player" .insert) reclaimState insertDelivery h
        st' := by
  -- the store holds two texts: the abandoned record and the counter at 5
  have hvalues : ∀ k raw, reclaimState.store.live? reclaimState.clock.mono k = some raw →
      raw = abandonedRecord.encode ∨ raw = "5" := by
    intro k raw hl
    obtain ⟨e, he, rfl⟩ := Store.live?_mem _ hl
    simp only [reclaimState, List.mem_cons, Prod.mk.injEq, List.not_mem_nil, or_false] at he
    rcases he with ⟨-, rfl⟩ | ⟨-, rfl⟩
    · exact .inl rfl
    · exact .inr rfl
  have hr : Headroom sampleBridge (Subscription.Config.make "player" .insert) reclaimState := by
    refine ⟨by decide, by decide, fun rid raw rec hl hdec => ?_, fun raw hl => ?_⟩
    · -- a record read under a claim key is the abandoned one, whose age fits in 64 bits
      have hread : (ClaimRecord.decode abandonedRecord.encode).toOption = some abandonedRecord := by
        decide +kernel
      have hfive : (ClaimRecord.decode "5").toOption = none := by decide +kernel
      rcases hvalues _ raw hl with rfl | rfl
      · rw [hdec] at hread
        cases hread
        decide
      · rw [hdec] at hfive
        cases hfive
    · rcases hvalues _ raw hl with rfl | rfl
      · intro h
        have : ((Text.IntFormat.signed 64).parse abandonedRecord.encode).toOption = none := by
          decide +kernel
        rw [h] at this
        cases this
      · intro h
        have : ((Text.IntFormat.signed 64).parse "5").toOption = some 5 := by decide +kernel
        rw [h] at this
        revert this
        decide
  obtain ⟨h, st', hh, ht, -⟩ := handle_decides reclaimState insertDelivery hr
  exact ⟨hr, h, st', hh, ht⟩
def counterAtEnd : State Script :=
  { sampleState with store := { entries := [("cache-gen:player", ⟨"9223372036854775807", none⟩)] } }

/-- Counting the generation up after the insertion overflows, and the handling panics. -/
theorem handle_panics_at_counter_end :
    handle sampleBridge (Subscription.Config.make "player" .insert) counterAtEnd insertDelivery =
      .error Panic.addOverflow := by
  have h : (match handle sampleBridge (Subscription.Config.make "player" .insert) counterAtEnd
      insertDelivery with
    | .error p => decide (p = Panic.addOverflow)
    | .ok _ => false) = true := by decide +kernel
  revert h
  cases handle sampleBridge (Subscription.Config.make "player" .insert) counterAtEnd
    insertDelivery with
  | error p => simp
  | ok v => simp

end Handler

end Relay
