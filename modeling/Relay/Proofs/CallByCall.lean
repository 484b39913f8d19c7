import Relay.Proofs.StoreFaults
/-!
# A handling call by call is the handler

`Stage.step` takes a handling apart at each call of the store, the operation and the broker,
so that the handlings of a crew can interleave. Run alone, one call after the other on a store
that stays switched on, with the backend of the handler's state as the operation, it is
`Handler.handle`: from every state, for every delivery, a run of `handlingBound` calls or more
ends as the handler ends, with the same outcome and the same state (store, broker, backend and
calls), or with the same panic.

The run is followed phase by phase, each phase against the part of the handler it stands for:
the claim rounds against `Guard.claim`, the cache and the operation's calls against `launch`
and `execute`, the record and the publication against `Handler.conclude` and `emit`.
-/
namespace Relay

open Cache

theorem Cache.Store.setAvailable_self {s : Store} (h : s.available = true) : s.setAvailable true = s := by
  cases s
  cases h
  rfl

namespace Concurrent

theorem Claiming.Moves.available {g : Guard} {c : Clock} {k fresh did : String} {s s' : Store}
    {cl cl' : Claiming} (h : Claiming.Moves g c k fresh did s cl cl' s') : s'.available = s.available := by
  cases h <;> simp

namespace Stage

variable {σ : Type} [Backend σ] (br : Bridge) (lane : Subscription.Config) (d : Delivery)

/-- A run from `stage` and `st` on a store that stays switched on comes to `r` within `n` calls
and stays there. -/
def Settles (n : Nat) (stage : Stage) (st : Handler.State σ) (r : Except Panic (Stage × Handler.State σ)) :
    Prop :=
  ∀ k, n ≤ k → runOn br lane d (List.replicate k true) stage st = r

def ended : Except Panic (Handled × Handler.State σ) → Except Panic (Stage × Handler.State σ) :=
  Except.map fun (h, st) => (.done h, st)

variable {br lane d}

theorem Settles.mono {n n' : Nat} {stage : Stage} {st : Handler.State σ}
    {r : Except Panic (Stage × Handler.State σ)} (h : Settles br lane d n stage st r) (hn : n ≤ n') :
    Settles br lane d n' stage st r :=
  fun k hk => h k (le_trans hn hk)

theorem Settles.back {n : Nat} {stage stage' : Stage} {st st' : Handler.State σ}
    {r : Except Panic (Stage × Handler.State σ)} (hc : callOn br lane d true stage st = .ok (stage', st'))
    (h : Settles br lane d n stage' st' r) : Settles br lane d (n + 1) stage st r := by
  intro k hk
  obtain ⟨k, rfl⟩ : ∃ j, k = j + 1 := ⟨k - 1, by omega⟩
  simp only [List.replicate_succ, runOn, hc]
  exact h k (by omega)

theorem settles_panic {stage : Stage} {st : Handler.State σ} {p : Panic}
    (hc : callOn br lane d true stage st = .error p) : Settles br lane d 1 stage st (.error p) := by
  intro k hk
  obtain ⟨k, rfl⟩ : ∃ j, k = j + 1 := ⟨k - 1, by omega⟩
  simp only [List.replicate_succ, runOn, hc]

theorem settles_done {st : Handler.State σ} (h : Handled) (hon : st.store.available = true) :
    Settles br lane d 0 (.done h) st (.ok (.done h, st)) := by
  intro k _
  induction k with
  | zero => rfl
  | succ k ih =>
    have hc : callOn br lane d true (.done h) st = .ok (.done h, st) := by
      simp only [callOn, Stage.step, Except.map, Store.setAvailable_self hon]
    simp only [List.replicate_succ, runOn, hc]
    exact ih (Nat.zero_le _)

theorem settles_publishing {st : Handler.State σ} (hon : st.store.available = true) (r : Reply)
    (h₀ : Handled) :
    Settles br lane d 1 (.publishing r h₀) st (ended (.ok (Handler.emit br lane st r h₀))) := by
  cases hp : br.publisher.publish st.broker lane.resource r with
  | ok b =>
    have hc : callOn br lane d true (.publishing r h₀) st = .ok (.done h₀, { st with broker := b }) := by
      simp only [callOn, Stage.step, hp, Except.map, Store.setAvailable_self hon]
    simp only [Handler.emit, hp, ended, Except.map]
    exact Settles.back hc (settles_done _ hon)
  | error f =>
    have hc : callOn br lane d true (.publishing r h₀) st =
        .ok (.done (Handled.requeue f.message), st) := by
      simp only [callOn, Stage.step, hp, Except.map, Store.setAvailable_self hon]
    simp only [Handler.emit, hp, ended, Except.map]
    exact Settles.back hc (settles_done _ hon)

/-- A call that writes a claim record (or gives a claim up) with `w` and then stands to publish
`r`: it ends as the handler's `keep` of `w` followed by its publication. -/
theorem settles_write {stage : Stage} {st : Handler.State σ} (hon : st.store.available = true)
    {w : Except Halt Store} (hw : ∀ s', w = .ok s' → s'.available = true) {x : Act} {r : Reply}
    {h₀ : Handled}
    (hc : callOn br lane d true stage st =
      ((write st.store x w).map fun y => (Stage.publishing r h₀, y.1, y.2)).map
        fun y => (y.1, { st with store := y.2.1 })) :
    Settles br lane d 2 stage st
      (ended ((Handler.keep st w).bind fun st => pure (Handler.emit br lane st r h₀))) := by
  cases w with
  | ok s' =>
    exact Settles.back hc (settles_publishing (hw s' rfl) r h₀)
  | error e =>
    cases e with
    | fault f =>
      have hc' : callOn br lane d true stage st = .ok (.publishing r h₀, st) := hc
      exact Settles.back hc' (settles_publishing hon r h₀)
    | panic p => exact (settles_panic hc).mono (by omega)

omit [Backend σ] in
theorem available_complete {st : Handler.State σ} {rid did : String} {r : Reply} {s' : Store}
    (h : br.guard.complete st.store st.clock lane.queue rid did r = .ok s')
    (hon : st.store.available = true) : s'.available = true := by
  obtain ⟨t, rfl⟩ := Store.set_eq_ok st.store st.clock h
  simpa using hon

omit [Backend σ] in
theorem available_release {st : Handler.State σ} {rid : String} {s' : Store}
    (h : Guard.release st.store lane.queue rid = .ok s') (hon : st.store.available = true) :
    s'.available = true := by
  rw [Guard.release, Store.delete_ok st.store hon] at h
  cases h
  simpa using hon

theorem settles_answered {st : Handler.State σ} (hon : st.store.available = true) (q : Request)
    (held : Option ClaimRecord) (res : Except (Failure × Failure.Kind) Json) (stand : Handler.Stand) :
    Settles br lane d 2 (.working q held (.answered res)) st
      (ended (Handler.conclude br lane st ⟨d, q, held.isSome, .pass, stand⟩ res)) := by
  cases res with
  | ok data =>
    cases held with
    | none =>
      have hc : callOn br lane d true (.working q none (.answered (.ok data))) st =
          .ok (.publishing (br.publisher.completed q.requestId data st.clock.wall) Handled.ack, st) := by
        simp only [callOn, Stage.step, Stage.conclude, Except.map, Store.setAvailable_self hon]
      exact (Settles.back hc (settles_publishing hon _ _)).mono (by omega)
    | some rec =>
      simp only [Handler.conclude, Handler.follow, Option.isSome_some, if_true, bind, Except.bind]
      refine settles_write hon (fun s' h => available_complete h hon)
        (x := .recorded (completedRecord br.guard st.clock d.id
          (br.publisher.completed q.requestId data st.clock.wall))) ?_
      simp only [callOn, Stage.step, Stage.conclude, Store.setAvailable_self hon]
      cases write st.store _ _ <;> rfl
  | error e =>
    obtain ⟨f, k⟩ := e
    cases held with
    | none =>
      have hc : callOn br lane d true (.working q none (.answered (.error (f, k)))) st =
          .ok (.publishing (br.publisher.failed q.requestId f.message st.clock.wall)
            (if k.isBenign then Handled.ack else Handled.discard (k.name ++ ": " ++ f.message)), st) := by
        simp only [callOn, Stage.step, Stage.conclude, Except.map, Store.setAvailable_self hon]
      exact (Settles.back hc (settles_publishing hon _ _)).mono (by omega)
    | some rec =>
      simp only [Handler.conclude, Option.isSome_some, if_true, bind, Except.bind]
      -- a final failure is recorded, one with retries gives the claim up
      by_cases hk : k.maxRetries = 0
      · simp only [hk, if_true]
        refine settles_write hon (fun s' h => available_complete h hon)
          (x := .recorded (completedRecord br.guard st.clock d.id
            (br.publisher.failed q.requestId f.message st.clock.wall))) ?_
        simp only [callOn, Stage.step, Stage.conclude, hk, if_true, Store.setAvailable_self hon]
        cases write st.store _ _ <;> rfl
      · simp only [hk, if_false]
        refine settles_write hon (fun s' h => available_release h hon) (x := .released) ?_
        simp only [callOn, Stage.step, Stage.conclude, hk, if_false, Store.setAvailable_self hon]
        cases write st.store _ _ <;> rfl

omit [Backend σ] in
/-- The handler follows the data up first, then concludes as if there were nothing to follow. -/
theorem conclude_follow (st : Handler.State σ) (q : Request) (claimed : Bool) (sq : Handler.Sequel)
    (stand : Handler.Stand) (data : Json) :
    Handler.conclude br lane st ⟨d, q, claimed, sq, stand⟩ (.ok data) =
      (Handler.follow br lane st data sq).bind fun st' =>
        Handler.conclude br lane st' ⟨d, q, claimed, .pass, stand⟩ (.ok data) := by
  simp only [Handler.conclude, Handler.follow, bind, Except.bind]

theorem settles_settle {st : Handler.State σ} (hon : st.store.available = true) (q : Request)
    (held : Option ClaimRecord) (sq : Handler.Sequel) (res : Except (Failure × Failure.Kind) Json)
    (stand : Handler.Stand) :
    Settles br lane d 4 (.working q held (Produce.settle sq res)) st
      (ended (Handler.conclude br lane st ⟨d, q, held.isSome, sq, stand⟩ res)) := by
  cases res with
  | error e => exact (settles_answered hon q held (.error e) stand).mono (by omega)
  | ok data =>
    rw [conclude_follow]
    cases sq with
    | pass => exact (settles_answered hon q held (.ok data) stand).mono (by omega)
    | store k =>
      cases hp : br.results.put st.store st.clock k data with
      | ok s' =>
        have hon' : s'.available = true := by
          rcases Results.put_ok st.store st.clock br.results hp with rfl | ⟨t, rfl⟩
          · exact hon
          · simpa using hon
        have hc : callOn br lane d true (.working q held (.keep k data)) st =
            .ok (.working q held (.answered (.ok data)), { st with store := s' }) := by
          simp only [callOn, Stage.step, Produce.step, Store.setAvailable_self hon, hp, Except.map]
        simp only [Handler.follow, hp, bind, Except.bind, pure, Except.pure]
        exact (Settles.back hc (settles_answered hon' q held (.ok data) stand)).mono (by omega)
      | error p =>
        have hc : callOn br lane d true (.working q held (.keep k data)) st = .error p := by
          simp only [callOn, Stage.step, Produce.step, Store.setAvailable_self hon, hp, Except.map]
        simp only [Handler.follow, hp, bind, Except.bind]
        exact (settles_panic hc).mono (by omega)
    | invalidate =>
      cases hi : st.store.incr st.clock (Results.generationKey lane.resource) with
      | ok x =>
        obtain ⟨n, s₁⟩ := x
        have hb : callOn br lane d true (.working q held (.bump data)) st =
            .ok (.working q held (.evict data), { st with store := s₁ }) := by
          simp only [callOn, Stage.step, Produce.step, Store.setAvailable_self hon, hi, Except.map]
        -- counting up keeps the store switched on, so the eviction goes through
        have hon₁ : s₁.available = true := by
          have hs : Produce.step br lane.resource st.clock (.ok .null) st.store (.bump data) =
              .ok (.evict data, s₁, some (.bumped n)) := by
            simp only [Produce.step, hi]
          rw [Produce.step_available hs, hon]
        obtain ⟨m, hdp⟩ := Store.deletePrefix_ok s₁ hon₁ (lane.resource ++ ":")
        have he : callOn br lane d true (.working q held (.evict data)) { st with store := s₁ } =
            .ok (.working q held (.answered (.ok data)), { st with store := s₁.dropPrefix (lane.resource ++ ":") }) := by
          simp only [callOn, Stage.step, Produce.step, Store.setAvailable_self hon₁, hdp, Except.map]
        simp only [Handler.follow, Results.invalidate, hi, hdp, bind, Except.bind, pure, Except.pure]
        exact Settles.back hb (Settles.back he
          (settles_answered (by simpa using hon₁) q held (.ok data) stand))
      | error e =>
        cases e with
        | fault f =>
          have hb : callOn br lane d true (.working q held (.bump data)) st =
              .ok (.working q held (.answered (.ok data)), st) := by
            simp only [callOn, Stage.step, Produce.step, Store.setAvailable_self hon, hi, Except.map]
          simp only [Handler.follow, Results.invalidate, hi, bind, Except.bind]
          exact (Settles.back hb (settles_answered hon q held (.ok data) stand)).mono (by omega)
        | panic p =>
          have hb : callOn br lane d true (.working q held (.bump data)) st = .error p := by
            simp only [callOn, Stage.step, Produce.step, Store.setAvailable_self hon, hi, Except.map]
          simp only [Handler.follow, Results.invalidate, hi, bind, Except.bind]
          exact (settles_panic hb).mono (by omega)

section Calls

variable {st₀ : Handler.State σ} {q : Request} {held : Option ClaimRecord} {sq : Handler.Sequel}
  {s : Store} {m : Nat}

/-- The operation's calls, from the `n`-th on, `m` being the first that stops: two calls of the
run each, then the answer is followed up. -/
theorem settles_calling
    (hm : IsLeast {i | Handler.stopsAt br (Handler.answer st₀ lane.resource lane.verb q.payload i) i = true} m)
    (hs : s.available = true) {r : Except Panic (Stage × Handler.State σ)}
    (htail : Settles br lane d 4 (.working q held (Produce.settle sq
        (Handler.classified br (Handler.answer st₀ lane.resource lane.verb q.payload m))))
      { Handler.called st₀ lane.resource lane.verb q.payload (m + 1) with store := s } r) :
    ∀ k n, n + k = m → Settles br lane d (6 + 2 * k) (.working q held (.calling sq n))
      { Handler.called st₀ lane.resource lane.verb q.payload n with store := s } r := by
  have hcall : ∀ n, callOn br lane d true (.working q held (.calling sq n))
      { Handler.called st₀ lane.resource lane.verb q.payload n with store := s } =
        .ok (.working q held (.inside sq n),
          { Handler.called st₀ lane.resource lane.verb q.payload n with store := s }) := by
    intro n
    rw [callOn_calling, Store.setAvailable_self hs]
  intro k
  induction k with
  | zero =>
    intro n hn
    obtain rfl : n = m := by omega
    have hstop : callOn br lane d true (.working q held (.inside sq n))
        { Handler.called st₀ lane.resource lane.verb q.payload n with store := s } =
          .ok (.working q held (Produce.settle sq
            (Handler.classified br (Handler.answer st₀ lane.resource lane.verb q.payload n))),
            { Handler.called st₀ lane.resource lane.verb q.payload (n + 1) with store := s }) := by
      rw [callOn_inside_stop true hm.1, Store.setAvailable_self hs]
    exact Settles.back (hcall n) (Settles.back hstop htail)
  | succ k ih =>
    intro n hn
    -- every call before the `m`-th fails with a retry left
    have hgo : Handler.stopsAt br (Handler.answer st₀ lane.resource lane.verb q.payload n) n = false := by
      by_contra hne
      have := hm.2 (Bool.not_eq_false _ ▸ hne)
      omega
    obtain ⟨f, hf, hr⟩ := Handler.exists_error_of_not_stopsAt br hgo
    have hretry : callOn br lane d true (.working q held (.inside sq n))
        { Handler.called st₀ lane.resource lane.verb q.payload n with store := s } =
          .ok (.working q held (.calling sq (n + 1)),
            { Handler.called st₀ lane.resource lane.verb q.payload (n + 1) with store := s }) := by
      rw [callOn_inside_retry true hf hr, Store.setAvailable_self hs]
    rw [show 6 + 2 * (k + 1) = 6 + 2 * k + 1 + 1 by omega]
    exact Settles.back (hcall n) (Settles.back hretry (ih (n + 1) (by omega)))

end Calls

/-- The operation's calls and what follows them, as `Handler.finish` makes them. -/
theorem settles_operation {st : Handler.State σ} (hon : st.store.available = true) (q : Request)
    (held : Option ClaimRecord) (sq : Handler.Sequel) :
    Settles br lane d 12 (.working q held (.calling sq 0)) st
      (ended (Handler.finish br lane st ⟨d, q, held.isSome, sq, .calling 0⟩)) := by
  obtain ⟨m, hm, hbound⟩ := Handler.exists_first_stop br st lane.resource lane.verb q.payload
  have hex := Handler.execute_of_isLeast br hm
  -- the calls leave the store as it was
  have hstore : ∀ i, (Handler.called st lane.resource lane.verb q.payload i).store = st.store :=
    fun i => by
      have h := congrArg Handler.State.store
        (Handler.called_withStore st st.store lane.resource lane.verb q.payload i)
      exact h
  have htail : Settles br lane d 4 (.working q held (Produce.settle sq
        (Handler.classified br (Handler.answer st lane.resource lane.verb q.payload m))))
      { Handler.called st lane.resource lane.verb q.payload (m + 1) with store := st.store }
      (ended (Handler.conclude br lane (Handler.called st lane.resource lane.verb q.payload (m + 1))
        ⟨d, q, held.isSome, sq, .calling 0⟩
        (Handler.classified br (Handler.answer st lane.resource lane.verb q.payload m)))) := by
    rw [← hstore (m + 1)]
    exact settles_settle (by rw [hstore]; exact hon) q held sq _ _
  have hrun := settles_calling hm hon htail m 0 (Nat.zero_add m)
  simp only [Handler.retryBudget] at hbound
  unfold Handler.finish
  simp only [Nat.sub_zero]
  rw [show Handler.attempt br lane.resource lane.verb q.payload 0 Handler.retryBudget st =
    Handler.execute br lane.resource lane.verb q.payload st from rfl, hex]
  exact hrun.mono (by omega)

/-- From the claim on: the result cache first, for a read, then the operation, as `launch` and
`Handler.finish` go. -/
theorem settles_start {st : Handler.State σ} (hon : st.store.available = true) (q : Request)
    (held : Option ClaimRecord) :
    Settles br lane d 14 (.working q held (Produce.start lane q)) st
      (ended (Handler.finish br lane st (Handler.launch lane st d q held.isSome))) := by
  unfold Produce.start Handler.launch
  by_cases hmu : lane.verb.isMutation = true
  · simp only [hmu, if_true, Produce.change]
    exact (settles_operation hon q held .invalidate).mono (by omega)
  · simp only [hmu, Bool.false_eq_true, if_false, Produce.read]
    cases hg : Results.generation st.store st.clock lane.resource with
    | none =>
      have hc : callOn br lane d true (.working q held (.generation (queryShape lane.verb q.payload))) st =
          .ok (.working q held (.calling .pass 0), st) := by
        simp only [callOn, Stage.step, Produce.step, Store.setAvailable_self hon, hg, Except.map]
      simp only [Results.lookup, hg]
      exact (Settles.back hc (settles_operation hon q held .pass)).mono (by omega)
    | some g =>
      have hc : callOn br lane d true (.working q held (.generation (queryShape lane.verb q.payload))) st =
          .ok (.working q held (.probe g (queryShape lane.verb q.payload)), st) := by
        simp only [callOn, Stage.step, Produce.step, Store.setAvailable_self hon, hg, Except.map]
      simp only [Results.lookup, hg]
      -- the probe answers as the lookup does
      cases hp : Results.probe st.store st.clock lane.resource g (queryShape lane.verb q.payload) with
      | hit v =>
        have hc' : callOn br lane d true (.working q held (.probe g (queryShape lane.verb q.payload))) st =
            .ok (.working q held (.answered (.ok v)), st) := by
          simp only [callOn, Stage.step, Produce.step, Store.setAvailable_self hon, hp, Except.map]
        exact (Settles.back hc (Settles.back hc'
          (settles_answered hon q held (.ok v) (.answered (.ok v))))).mono (by omega)
      | miss k =>
        have hc' : callOn br lane d true (.working q held (.probe g (queryShape lane.verb q.payload))) st =
            .ok (.working q held (.calling (.store k) 0), st) := by
          simp only [callOn, Stage.step, Produce.step, Store.setAvailable_self hon, hp, Except.map]
        exact Settles.back hc (Settles.back hc' (settles_operation hon q held (.store k)))
      | bypass =>
        have hc' : callOn br lane d true (.working q held (.probe g (queryShape lane.verb q.payload))) st =
            .ok (.working q held (.calling .pass 0), st) := by
          simp only [callOn, Stage.step, Produce.step, Store.setAvailable_self hon, hp, Except.map]
        exact Settles.back hc (Settles.back hc' (settles_operation hon q held .pass))

section Claim

variable {q : Request} {fr : ClaimRecord} {st : Handler.State σ}

theorem callOn_claiming {cl cl' : Claiming} {s s'' : Store} (hs : s.available = true)
    (hstep : Claiming.step br.guard st.clock (Guard.key lane.queue q.requestId) fr.encode d.id s cl =
      .ok (cl', s''))
    (hcl : ∀ x, cl' ≠ .decided x) :
    callOn br lane d true (.claiming q fr cl) { st with store := s } =
      .ok (.claiming q fr cl', { st with store := s'' }) := by
  cases cl' with
  | decided x => exact absurd rfl (hcl x)
  | _ => simp only [callOn, Stage.step, Store.setAvailable_self hs, hstep, Except.map]

/-- The claim rounds, call by call: when `n` steps of `Claiming` decide the claim, the handling
stands where the claim sends it within `n + 1` calls. -/
theorem settles_claiming {m : Nat} {x : Claim} {s' : Store} {r : Except Panic (Stage × Handler.State σ)}
    (hK : s'.available = true → Settles br lane d m (ofClaim lane q fr x).1 { st with store := s' } r) :
    ∀ n cl s, s.available = true →
      Claiming.steps br.guard st.clock (Guard.key lane.queue q.requestId) fr.encode d.id n cl s =
        .ok (.decided x, s') →
      Settles br lane d (n + 1 + m) (.claiming q fr cl) { st with store := s } r := by
  intro n
  induction n with
  | zero =>
    intro cl s hs h
    cases h
    have hc : callOn br lane d true (.claiming q fr (.decided x)) { st with store := s' } =
        .ok ((ofClaim lane q fr x).1, { st with store := s' }) := by
      simp only [callOn, Stage.step, Claiming.step, Store.setAvailable_self hs, Except.map]
    exact (Settles.back hc (hK hs)).mono (by omega)
  | succ n ih =>
    intro cl s hs h
    cases hstep : Claiming.step br.guard st.clock (Guard.key lane.queue q.requestId) fr.encode d.id s cl with
    | error p => simp only [Claiming.steps, hstep] at h; cases h
    | ok y =>
      obtain ⟨cl', s''⟩ := y
      have hs'' : s''.available = true := (Claiming.step_moves hs hstep).available ▸ hs
      rw [Claiming.steps_step_ok _ _ _ _ _ hstep] at h
      cases cl' with
      | decided x' =>
        -- the step that decides the claim hands the handling on at once
        rw [Claiming.steps_decided] at h
        cases h
        have hc : callOn br lane d true (.claiming q fr cl) { st with store := s } =
            .ok ((ofClaim lane q fr x).1, { st with store := s' }) := by
          simp only [callOn, Stage.step, Store.setAvailable_self hs, hstep, Except.map]
        exact (Settles.back hc (hK hs'')).mono (by omega)
      | _ =>
        exact (Settles.back (callOn_claiming hs hstep (by intro _ e; cases e)) (ih _ _ hs'' h)).mono
          (by omega)

theorem settles_claiming_panic {p : Panic} :
    ∀ n cl s, s.available = true →
      Claiming.steps br.guard st.clock (Guard.key lane.queue q.requestId) fr.encode d.id n cl s =
        .error p →
      Settles br lane d (n + 1) (.claiming q fr cl) { st with store := s } (.error p) := by
  intro n
  induction n with
  | zero => intro cl s hs h; cases h
  | succ n ih =>
    intro cl s hs h
    cases hstep : Claiming.step br.guard st.clock (Guard.key lane.queue q.requestId) fr.encode d.id s cl with
    | error p' =>
      simp only [Claiming.steps, hstep] at h
      cases h
      have hc : callOn br lane d true (.claiming q fr cl) { st with store := s } = .error p := by
        simp only [callOn, Stage.step, Store.setAvailable_self hs, hstep, Except.map]
      exact (settles_panic hc).mono (by omega)
    | ok y =>
      obtain ⟨cl', s''⟩ := y
      have hs'' : s''.available = true := (Claiming.step_moves hs hstep).available ▸ hs
      rw [Claiming.steps_step_ok _ _ _ _ _ hstep] at h
      cases cl' with
      | decided x' => rw [Claiming.steps_decided] at h; cases h
      | _ =>
        exact (Settles.back (callOn_claiming hs hstep (by intro _ e; cases e)) (ih _ _ hs'' h)).mono
          (by omega)

end Claim

/-- Calls enough for any handling: one to read the request, up to `3 * Guard.rounds + 1` for
the claim and one to hand it on, and fourteen from there to the publication. -/
def handlingBound : Nat := 3 * Guard.rounds + 17

variable (br lane d) in
/-- A handling run call by call is the handler. From every state whose store is switched on,
for every delivery, every run of the handling one call at a time on that store, with the
backend of the state as the operation, ends after `handlingBound` calls or more as
`Handler.handle` ends: done with the same outcome and the same state (store, broker, backend
and the calls made on it), or halted by the same panic. -/
theorem handling_call_by_call (st : Handler.State σ) (hon : st.store.available = true) (k : Nat)
    (hk : handlingBound ≤ k) :
    runOn br lane d (List.replicate k true) .idle st =
      (Handler.handle br lane st d).map fun (h, st') => (.done h, st') := by
  suffices h : Settles br lane d handlingBound .idle st (ended (Handler.handle br lane st d)) from
    h k hk
  cases hq : Request.decode d.payload with
  | error f =>
    have hc : callOn br lane d true .idle st =
        .ok (.done (Handled.discard (f.kind.name ++ ": " ++ f.message)), st) := by
      simp only [callOn, Stage.step, hq, Except.map, Store.setAvailable_self hon]
    simp only [Handler.handle, Handler.start, hq, bind, Except.bind, pure, Except.pure]
    exact (Settles.back hc (settles_done _ hon)).mono (by simp [handlingBound])
  | ok q =>
    have hc : callOn br lane d true .idle st =
        .ok (.claiming q (Guard.freshRecord br.guard st.clock d.id) (.setting Guard.rounds), st) := by
      rw [callOn_begin hq, Store.setAvailable_self hon]
    -- the claim rounds run as the guard's claim runs them
    have hsteps := Claiming.steps_claimRounds br.guard st.clock (Guard.key lane.queue q.requestId)
      (Guard.freshRecord br.guard st.clock d.id).encode d.id Guard.rounds 0 st.store
    have hclaim : br.guard.claim st.store st.clock lane.queue q.requestId d.id =
        br.guard.claimRounds st.clock (Guard.key lane.queue q.requestId)
          (Guard.freshRecord br.guard st.clock d.id).encode d.id Guard.rounds st.store := rfl
    cases hcl : br.guard.claim st.store st.clock lane.queue q.requestId d.id with
    | error p =>
      rw [← hclaim, hcl] at hsteps
      simp only [Handler.handle, Handler.start, hq, hcl, bind, Except.bind]
      exact (Settles.back hc (settles_claiming_panic _ _ _ hon hsteps)).mono (by simp [handlingBound])
    | ok y =>
      obtain ⟨x, s'⟩ := y
      rw [← hclaim, hcl] at hsteps
      refine (Settles.back hc (settles_claiming (m := 14) ?_ _ _ _ hon hsteps)).mono
        (by simp [handlingBound])
      intro hs'
      cases x with
      | completed r =>
        simp only [Handler.handle, Handler.start, hq, hcl, bind, Except.bind, pure, Except.pure]
        exact (settles_publishing hs' r Handled.ack).mono (by omega)
      | inFlight same o =>
        cases same <;>
          simp only [Handler.handle, Handler.start, hq, hcl, bind, Except.bind, pure, Except.pure] <;>
          exact (settles_done _ hs').mono (by omega)
      | degraded f =>
        simp only [Handler.handle, Handler.start_process hq hcl rfl, bind, Except.bind]
        exact settles_start hs' q none
      | acquired =>
        simp only [Handler.handle, Handler.start_process hq hcl rfl, bind, Except.bind]
        exact settles_start hs' q (some _)
      | reclaimed o =>
        simp only [Handler.handle, Handler.start_process hq hcl rfl, bind, Except.bind]
        exact settles_start hs' q (some _)

end Stage

end Concurrent

end Relay
