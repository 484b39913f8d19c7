import Relay.Proofs.Decisions
import Relay.Proofs.Retries
import Relay.Proofs.ClaimRules
import Relay.Proofs.Codec
/-!
# Store faults and a first delivery

The cache store is only an aid to handling: a claim that cannot be written degrades to
processing without one, a lookup that fails goes around the result cache, and writes that fail
are passed over. Here every call of a handling may meet a store that fails, independently of
the others. `Stage.callOn` makes one call of a handling taken apart as in `Stage.step`, on the
store switched on or off for that call, and with the backend of the handler's state as the
operation; `Stage.runOn` makes one call for each entry of a pattern of faults.

For a first delivery of a request (no claim under its key, no cached result of its resource),
every pattern of faults leads to what `Handler.handle` does on a store that never fails: the
same calls of the operation, the same outcome, the same results published. Two things stand in
the way and are excluded: a generation counter at the end of the 64-bit range (counting it up
panics where a failing store passes over it), and a claim key that is also an entry key of the
resource (the claim record written on a working store is then read back as a cached result).
-/
namespace Relay

open Cache

namespace Cache.Results

variable {s : Store} {c : Clock} {r shape : String}

theorem probe_ne_hit {g : Int} (hnone : s.live? c.mono (entryKey r g shape) = none) (v : Json) :
    probe s c r g shape ≠ .hit v := by
  intro hp
  obtain ⟨e, he, hl, -⟩ := probe_hit s c r hp
  rw [Store.live?_eq, he] at hnone
  simp [hl] at hnone

theorem lookup_ne_hit (hnone : ∀ g, s.live? c.mono (entryKey r g shape) = none) (v : Json) :
    lookup s c r shape ≠ .hit v := by
  unfold lookup
  split
  · intro h
    cases h
  · exact probe_ne_hit (hnone _) v

end Cache.Results

theorem Cache.Guard.live?_written_of_ne {g : Guard} {s : Store} {c : Clock} {op rid did k : String}
    {now : Nat} (hk : Guard.key op rid ≠ k) :
    (Guard.written g s c op rid did).live? now k = s.live? now k := by
  rw [Guard.written, Store.live?_put, if_neg hk.symm]

namespace Handler

variable {σ : Type} [Backend σ]

section Store

variable (st : State σ) (s : Store) (resource : String) (verb : Verb) (payload : Json)

theorem call_withStore :
    call { st with store := s } resource verb payload =
      ((call st resource verb payload).1, { (call st resource verb payload).2 with store := s }) :=
  rfl

theorem called_withStore (i : Nat) :
    called { st with store := s } resource verb payload i =
      { called st resource verb payload i with store := s } := by
  induction i with
  | zero => rfl
  | succ i ih => rw [called, ih, call_withStore, called]

theorem answer_withStore (i : Nat) :
    answer { st with store := s } resource verb payload i = answer st resource verb payload i := by
  rw [answer, called_withStore, call_withStore, answer]

theorem called_broker (i : Nat) : (called st resource verb payload i).broker = st.broker := by
  induction i with
  | zero => rfl
  | succ i ih => exact ih

theorem called_clock (i : Nat) : (called st resource verb payload i).clock = st.clock := by
  induction i with
  | zero => rfl
  | succ i ih => exact ih

end Store

variable (br : Bridge)

theorem execute_of_isLeast {st : State σ} {resource : String} {verb : Verb} {payload : Json}
    {m : Nat} (hm : IsLeast {i | stopsAt br (answer st resource verb payload i) i = true} m) :
    execute br resource verb payload st =
      (classified br (answer st resource verb payload m), called st resource verb payload (m + 1)) := by
  refine attempt_called br retryBudget (Nat.zero_add _) (Nat.zero_le m) hm.1 fun j _ hj => ?_
  by_contra hne
  have := hm.2 (Bool.not_eq_false _ ▸ hne)
  omega

variable {br} {lane : Subscription.Config}

theorem produce_uncached {st : State σ} {s : Store} {q : Request}
    {res : Except (Failure × Failure.Kind) Json} {st₁ : State σ} {m : Nat}
    (hm : IsLeast {i | stopsAt br (answer st lane.resource lane.verb q.payload i) i = true} m)
    (hmiss : ∀ v, Results.lookup s st.clock lane.resource (queryShape lane.verb q.payload) ≠ .hit v)
    (h : produce br lane { st with store := s } q = .ok (res, st₁)) :
    res = classified br (answer st lane.resource lane.verb q.payload m) ∧
      st₁.backend = (called st lane.resource lane.verb q.payload (m + 1)).backend ∧
      st₁.calls = (called st lane.resource lane.verb q.payload (m + 1)).calls := by
  have hm' : IsLeast {i | stopsAt br
      (answer { st with store := s } lane.resource lane.verb q.payload i) i = true} m := by
    simpa only [answer_withStore] using hm
  have hrun : ∀ sq, ((followUp br lane
      (execute br lane.resource lane.verb q.payload { st with store := s }).2 sq
      (execute br lane.resource lane.verb q.payload { st with store := s }).1).map
        fun st' => ((execute br lane.resource lane.verb q.payload { st with store := s }).1, st')) =
          .ok (res, st₁) →
      res = classified br (answer st lane.resource lane.verb q.payload m) ∧
        st₁.backend = (called st lane.resource lane.verb q.payload (m + 1)).backend ∧
        st₁.calls = (called st lane.resource lane.verb q.payload (m + 1)).calls := by
    intro sq hr
    rw [execute_of_isLeast br hm', called_withStore, answer_withStore] at hr
    obtain ⟨st₂, hf, hst⟩ := Except.map_eq_ok.1 hr
    simp only [Prod.mk.injEq] at hst
    obtain ⟨rfl, rfl⟩ := hst
    obtain ⟨s', rfl⟩ := followUp_state hf
    exact ⟨rfl, rfl, rfl⟩
  unfold produce at h
  split at h
  · exact hrun _ h
  · split at h
    · rename_i v hl
      exact absurd hl (hmiss v)
    · exact hrun _ h
    · exact hrun _ h

theorem handle_first_delivery {st : State σ} {d : Delivery} {q : Request} {m : Nat}
    (hm : IsLeast {i | stopsAt br (answer st lane.resource lane.verb q.payload i) i = true} m)
    (hq : Request.decode d.payload = .ok q) (hon : st.store.available = true)
    (hfree : st.store.live? st.clock.mono (Guard.key lane.queue q.requestId) = none)
    (hnone : ∀ g shape, st.store.live? st.clock.mono (Results.entryKey lane.resource g shape) = none)
    (hkey : ∀ g shape, Guard.key lane.queue q.requestId ≠ Results.entryKey lane.resource g shape)
    (hcl : st.clock.mono + br.guard.ttl.nanos ≤ Clock.monoEnd)
    (hres : st.clock.mono + br.results.ttl.nanos ≤ Clock.monoEnd)
    (hgen : st.store.CountsUp st.clock.mono (Results.generationKey lane.resource)) :
    ∃ h st', handle br lane st d = .ok (h, st') ∧
      Emits br lane st.broker (reply br q.requestId st.clock.wall
          (classified br (answer st lane.resource lane.verb q.payload m)))
        (verdict (classified br (answer st lane.resource lane.verb q.payload m))) h st'.broker ∧
      st'.backend = (called st lane.resource lane.verb q.payload (m + 1)).backend ∧
      st'.calls = (called st lane.resource lane.verb q.payload (m + 1)).calls := by
  have hc : br.guard.claim st.store st.clock lane.queue q.requestId d.id =
      .ok (.acquired, Guard.written br.guard st.store st.clock lane.queue q.requestId d.id) :=
    Guard.claim_absent hon hcl hfree
  -- the claim record lies under neither an entry of the resource nor its counter
  have hgen' : (Guard.written br.guard st.store st.clock lane.queue q.requestId d.id).CountsUp
      st.clock.mono (Results.generationKey lane.resource) :=
    hgen.put (Concurrent.key_ne_generationKey _ _ _) _
  have hmiss : ∀ v, Results.lookup (Guard.written br.guard st.store st.clock lane.queue q.requestId
      d.id) st.clock lane.resource (queryShape lane.verb q.payload) ≠ .hit v := by
    refine Results.lookup_ne_hit fun g => ?_
    rw [Guard.live?_written_of_ne (hkey g _)]
    exact hnone g _
  obtain ⟨h, st', hh, res, st₁, hprod, he, hk, hcs⟩ := handle_produces hcl hres hgen' hq hc rfl
  obtain ⟨rfl, hk₁, hc₁⟩ := produce_uncached hm hmiss hprod
  refine ⟨h, st', hh, ?_, hk.trans hk₁, hcs.trans hc₁⟩
  rwa [(produce_state hprod).1] at he

end Handler

namespace Concurrent

namespace Produce

variable (br : Bridge) (r : String) (c : Clock) (a : Except Failure Json) (s : Store)

def settle (sq : Handler.Sequel) : Except (Failure × Failure.Kind) Json → Produce
  | .ok data => after data sq
  | .error e => .answered (.error e)

theorem step_evict (data : Json) :
    ∃ s' e, step br r c a s (.evict data) = .ok (.answered (.ok data), s', e) := by
  cases ha : s.available with
  | true =>
    obtain ⟨n, hd⟩ := Store.deletePrefix_ok s ha (r ++ ":")
    exact ⟨s.dropPrefix (r ++ ":"), some .evicted, by simp only [step, hd]⟩
  | false =>
    exact ⟨s, none, by simp [step, Store.deletePrefix, Store.check, ha, bind, Except.bind]⟩

theorem step_keep (hres : c.mono + br.results.ttl.nanos ≤ Clock.monoEnd) (k : String)
    (data : Json) : ∃ s' e, step br r c a s (.keep k data) = .ok (.answered (.ok data), s', e) := by
  have hput : ∃ s', br.results.put s c k data = .ok s' := Results.put_ok_of_deadline hres
  obtain ⟨s', hs⟩ := hput
  exact ⟨s', some (.stored k (Json.write data)), by simp only [step, hs]⟩

theorem step_bump
    (hgen : s.CountsUp c.mono (Results.generationKey r)) (data : Json) :
    ∃ p' s' e, step br r c a s (.bump data) = .ok (p', s', e) ∧
      (p' = .evict data ∨ p' = .answered (.ok data)) := by
  cases hi : s.incr c (Results.generationKey r) with
  | ok x =>
    obtain ⟨n, s'⟩ := x
    exact ⟨_, s', some (.bumped n), by simp only [step, hi], .inl rfl⟩
  | error e =>
    cases e with
    | fault f => exact ⟨_, s, none, by simp only [step, hi], .inr rfl⟩
    | panic p => exact absurd hi (Store.incr_ne_panic hgen p)

theorem step_probe_calls {g : Int} {shape : String}
    (hnone : s.live? c.mono (Results.entryKey r g shape) = none) :
    ∃ sq, step br r c a s (.probe g shape) = .ok (.calling sq 0, s, none) := by
  cases ha : s.available with
  | true =>
    exact ⟨.store (Results.entryKey r g shape), by
      simp [step, Results.probe, Store.get_ok s c ha, hnone]⟩
  | false =>
    exact ⟨.pass, by simp [step, Results.probe, Store.get, Store.check, ha, bind, Except.bind]⟩

theorem step_generation_cases (shape : String) :
    (∃ g, step br r c a s (.generation shape) = .ok (.probe g shape, s, some (.read g))) ∨
      step br r c a s (.generation shape) = .ok (.calling .pass 0, s, none) := by
  cases hg : Results.generation s c r with
  | some g => exact .inl ⟨g, by simp only [step, hg]⟩
  | none => exact .inr (by simp only [step, hg])

end Produce

namespace Stage

variable {σ : Type} [Backend σ] (br : Bridge) (lane : Subscription.Config) (d : Delivery)

/-- One call of a handling of `d` from `st`, made on the store switched on or off as `on` says.
Where the handling waits for the operation's answer, the operation is the backend of `st`,
called as the handler calls it. -/
def callOn (on : Bool) (stage : Stage) (st : Handler.State σ) :
    Except Panic (Stage × Handler.State σ) :=
  let (a, st) : Except Failure Json × Handler.State σ := match stage with
    | .working q _ (.inside _ _) => Handler.call st lane.resource lane.verb q.payload
    | _ => (.ok .null, st)
  (Stage.step br lane d st.clock a (st.store.setAvailable on) st.broker stage).map
    fun (stage, s, b, _) => (stage, { st with store := s, broker := b })

def runOn : List Bool → Stage → Handler.State σ → Except Panic (Stage × Handler.State σ)
  | [], stage, st => .ok (stage, st)
  | on :: pattern, stage, st =>
    match callOn br lane d on stage st with
    | .ok (stage', st') => runOn pattern stage' st'
    | .error p => .error p

def EndsAs (n : Nat) (stage : Stage) (st : Handler.State σ) (h : Handled)
    (fin : Handler.State σ) : Prop :=
  ∀ pattern : List Bool, n ≤ pattern.length → ∃ st', runOn br lane d pattern stage st = .ok (.done h, st') ∧
    st'.broker = fin.broker ∧ st'.backend = fin.backend ∧ st'.calls = fin.calls

variable {br lane d} {h : Handled} {fin : Handler.State σ}

theorem EndsAs.mono {n n' : Nat} {stage : Stage} {st : Handler.State σ}
    (he : EndsAs br lane d n stage st h fin) (hn : n ≤ n') : EndsAs br lane d n' stage st h fin :=
  fun pattern hp => he pattern (le_trans hn hp)

theorem EndsAs.back {n : Nat} {stage : Stage} {st : Handler.State σ}
    (he : ∀ on, ∃ stage' st', callOn br lane d on stage st = .ok (stage', st') ∧
      EndsAs br lane d n stage' st' h fin) :
    EndsAs br lane d (n + 1) stage st h fin := by
  intro pattern hp
  cases pattern with
  | nil => simp at hp
  | cons on pattern =>
    obtain ⟨stage', st', hc, hends⟩ := he on
    simp only [runOn, hc]
    exact hends pattern (by simpa using hp)

theorem endsAs_done {st : Handler.State σ} (hb : st.broker = fin.broker)
    (hk : st.backend = fin.backend) (hc : st.calls = fin.calls) :
    EndsAs br lane d 0 (.done h) st h fin := by
  intro pattern _
  induction pattern generalizing st with
  | nil => exact ⟨st, rfl, hb, hk, hc⟩
  | cons on pattern ih =>
    simp only [runOn, callOn, Stage.step, Except.map]
    exact ih hb hk hc (Nat.zero_le _)

theorem write_map_ok {s : Store} {x : Act} {w : Except Halt Store} {next : Stage}
    (hw : ∀ p, w ≠ .error (.panic p)) :
    ∃ s' a, (write s x w).map (fun y => (next, y.1, y.2)) = .ok (next, s', a) := by
  cases w with
  | ok s' => exact ⟨s', some x, rfl⟩
  | error e =>
    cases e with
    | fault f => exact ⟨s, none, rfl⟩
    | panic p => exact absurd rfl (hw p)

variable (br lane d) in
theorem conclude_publishes (c : Clock) (s : Store) (q : Request) (held : Option ClaimRecord)
    (res : Except (Failure × Failure.Kind) Json)
    (hd : c.mono + br.guard.ttl.nanos ≤ Clock.monoEnd) :
    ∃ s' x, conclude br lane d c s q held res =
      .ok (.publishing (Handler.reply br q.requestId c.wall res) (Handler.verdict res), s', x) := by
  cases res with
  | ok data =>
    cases held with
    | none => exact ⟨s, none, rfl⟩
    | some rec =>
      simp only [conclude, complete_eq]
      exact write_map_ok (Store.set_ne_panic hd)
  | error e =>
    obtain ⟨f, k⟩ := e
    cases held with
    | none => exact ⟨s, none, by simp only [conclude, Handler.verdict_failure]; rfl⟩
    | some rec =>
      simp only [conclude, Handler.verdict_failure]
      split
      · simp only [complete_eq]
        exact write_map_ok (Store.set_ne_panic hd)
      · exact write_map_ok Store.delete_ne_panic

theorem endsAs_publishing {r : Reply} {h₀ : Handled} {st : Handler.State σ}
    (he : Handler.Emits br lane st.broker r h₀ h fin.broker) (hk : st.backend = fin.backend)
    (hc : st.calls = fin.calls) : EndsAs br lane d 1 (.publishing r h₀) st h fin := by
  apply EndsAs.back
  intro on
  rcases he with ⟨hp, rfl⟩ | ⟨f, hp, hb, rfl⟩
  · exact ⟨.done h, { st with store := st.store.setAvailable on, broker := fin.broker },
      by simp only [callOn, Stage.step, hp, Except.map], endsAs_done rfl hk hc⟩
  · exact ⟨.done (Handled.requeue f.message), { st with store := st.store.setAvailable on },
      by simp only [callOn, Stage.step, hp, Except.map], endsAs_done hb.symm hk hc⟩

theorem endsAs_answered {q : Request} {held : Option ClaimRecord}
    {res : Except (Failure × Failure.Kind) Json} {st : Handler.State σ}
    (hd : st.clock.mono + br.guard.ttl.nanos ≤ Clock.monoEnd)
    (he : Handler.Emits br lane st.broker (Handler.reply br q.requestId st.clock.wall res)
      (Handler.verdict res) h fin.broker)
    (hk : st.backend = fin.backend) (hc : st.calls = fin.calls) :
    EndsAs br lane d 2 (.working q held (.answered res)) st h fin := by
  apply EndsAs.back
  intro on
  obtain ⟨s', x, hcon⟩ :=
    conclude_publishes br lane d st.clock (st.store.setAvailable on) q held res hd
  exact ⟨_, { st with store := s' }, by simp only [callOn, Stage.step, hcon, Except.map],
    endsAs_publishing he hk hc⟩

theorem callOn_working {on : Bool} {q : Request} {held : Option ClaimRecord} {p p' : Produce}
    {st : Handler.State σ} {s' : Store} {e : Option Event} (hp : ∀ r, p ≠ .answered r)
    (hi : ∀ sq n, p ≠ .inside sq n)
    (h : p.step br lane.resource st.clock (.ok .null) (st.store.setAvailable on) = .ok (p', s', e)) :
    callOn br lane d on (.working q held p) st = .ok (.working q held p', { st with store := s' }) := by
  cases p with
  | answered r => exact absurd rfl (hp r)
  | inside sq n => exact absurd rfl (hi sq n)
  | _ => simp only [callOn, Stage.step, h, Except.map]

section Tails

variable {q : Request} {held : Option ClaimRecord} {data : Json} {st : Handler.State σ}
  (hd : st.clock.mono + br.guard.ttl.nanos ≤ Clock.monoEnd)
  (he : Handler.Emits br lane st.broker (Handler.reply br q.requestId st.clock.wall (.ok data))
    (Handler.verdict (.ok data)) h fin.broker)
  (hk : st.backend = fin.backend) (hc : st.calls = fin.calls)
include hd he hk hc

theorem endsAs_evict : EndsAs br lane d 3 (.working q held (.evict data)) st h fin := by
  apply EndsAs.back
  intro on
  obtain ⟨s', e, hs⟩ :=
    Produce.step_evict br lane.resource st.clock (.ok .null) (st.store.setAvailable on) data
  exact ⟨_, _, callOn_working (by simp) (by simp) hs, endsAs_answered hd he hk hc⟩

theorem endsAs_keep (hres : st.clock.mono + br.results.ttl.nanos ≤ Clock.monoEnd) (k : String) :
    EndsAs br lane d 3 (.working q held (.keep k data)) st h fin := by
  apply EndsAs.back
  intro on
  obtain ⟨s', e, hs⟩ :=
    Produce.step_keep br lane.resource st.clock (.ok .null) (st.store.setAvailable on) hres k data
  exact ⟨_, _, callOn_working (by simp) (by simp) hs, endsAs_answered hd he hk hc⟩

theorem endsAs_bump
    (hgen : st.store.CountsUp st.clock.mono (Results.generationKey lane.resource)) :
    EndsAs br lane d 4 (.working q held (.bump data)) st h fin := by
  apply EndsAs.back
  intro on
  obtain ⟨p', s', e, hs, hp'⟩ :=
    Produce.step_bump br lane.resource st.clock (.ok .null) (st.store.setAvailable on) hgen data
  refine ⟨_, _, callOn_working (by simp) (by simp) hs, ?_⟩
  rcases hp' with rfl | rfl
  · exact endsAs_evict hd he hk hc
  · refine EndsAs.mono ?_ (show 2 ≤ 3 by omega)
    exact endsAs_answered hd he hk hc

end Tails

theorem endsAs_settle {q : Request} {held : Option ClaimRecord} {st : Handler.State σ}
    (sq : Handler.Sequel) (res : Except (Failure × Failure.Kind) Json)
    (hd : st.clock.mono + br.guard.ttl.nanos ≤ Clock.monoEnd)
    (hres : st.clock.mono + br.results.ttl.nanos ≤ Clock.monoEnd)
    (hgen : st.store.CountsUp st.clock.mono (Results.generationKey lane.resource))
    (he : Handler.Emits br lane st.broker (Handler.reply br q.requestId st.clock.wall res)
      (Handler.verdict res) h fin.broker)
    (hk : st.backend = fin.backend) (hc : st.calls = fin.calls) :
    EndsAs br lane d 4 (.working q held (Produce.settle sq res)) st h fin := by
  cases res with
  | error e => exact (endsAs_answered hd he hk hc).mono (by omega)
  | ok data =>
    cases sq with
    | invalidate => exact endsAs_bump hd he hk hc hgen
    | store k => exact (endsAs_keep hd he hk hc hres k).mono (by omega)
    | pass => exact (endsAs_answered hd he hk hc).mono (by omega)

section Loop

variable {st₀ : Handler.State σ} {q : Request} {held : Option ClaimRecord} {sq : Handler.Sequel}
  {s : Store} (on : Bool)

theorem callOn_calling (n : Nat) :
    callOn br lane d on (.working q held (.calling sq n))
        { Handler.called st₀ lane.resource lane.verb q.payload n with store := s } =
      .ok (.working q held (.inside sq n),
        { Handler.called st₀ lane.resource lane.verb q.payload n with store := s.setAvailable on }) := by
  simp only [callOn, Stage.step, Produce.step, Except.map]

theorem callOn_inside_stop {n : Nat}
    (hs : Handler.stopsAt br (Handler.answer st₀ lane.resource lane.verb q.payload n) n = true) :
    callOn br lane d on (.working q held (.inside sq n))
        { Handler.called st₀ lane.resource lane.verb q.payload n with store := s } =
      .ok (.working q held (Produce.settle sq
          (Handler.classified br (Handler.answer st₀ lane.resource lane.verb q.payload n))),
        { Handler.called st₀ lane.resource lane.verb q.payload (n + 1) with
          store := s.setAvailable on }) := by
  simp only [callOn, Handler.call_withStore]
  unfold Handler.answer at hs ⊢
  cases ha : (Handler.call (Handler.called st₀ lane.resource lane.verb q.payload n) lane.resource
      lane.verb q.payload).1 with
  | ok v => simp only [Stage.step, Produce.step, Except.map, Handler.classified, Produce.settle]; rfl
  | error f =>
    rw [ha] at hs
    have hr : (br.classifier.classify f).shouldRetry n = false := by simpa [Handler.stopsAt] using hs
    simp only [Stage.step, Produce.step, hr, Except.map, Handler.classified, Produce.settle]
    rfl

theorem callOn_inside_retry {n : Nat} {f : Failure}
    (ha : Handler.answer st₀ lane.resource lane.verb q.payload n = .error f)
    (hr : (br.classifier.classify f).shouldRetry n = true) :
    callOn br lane d on (.working q held (.inside sq n))
        { Handler.called st₀ lane.resource lane.verb q.payload n with store := s } =
      .ok (.working q held (.calling sq (n + 1)),
        { Handler.called st₀ lane.resource lane.verb q.payload (n + 1) with
          store := s.setAvailable on }) := by
  simp only [callOn, Handler.call_withStore]
  unfold Handler.answer at ha
  simp only [Stage.step, Produce.step, ha, hr, Except.map]
  rfl

variable {h : Handled} {fin : Handler.State σ} {m : Nat}

theorem endsAs_calling
    (hm : IsLeast {i | Handler.stopsAt br (Handler.answer st₀ lane.resource lane.verb q.payload i) i = true} m)
    (P : Store → Prop) (hP : ∀ s on, P s → P (s.setAvailable on))
    (htail : ∀ s, P s → EndsAs br lane d 4 (.working q held (Produce.settle sq
        (Handler.classified br (Handler.answer st₀ lane.resource lane.verb q.payload m))))
      { Handler.called st₀ lane.resource lane.verb q.payload (m + 1) with store := s } h fin) :
    ∀ k n, n + k = m → ∀ s, P s → EndsAs br lane d (6 + 2 * k) (.working q held (.calling sq n))
      { Handler.called st₀ lane.resource lane.verb q.payload n with store := s } h fin := by
  intro k
  induction k with
  | zero =>
    intro n hn s hs
    obtain rfl : n = m := by omega
    -- the call after `m` retries stops the handling
    show EndsAs br lane d (4 + 1 + 1) _ _ h fin
    exact EndsAs.back fun on => ⟨_, _, callOn_calling on n, EndsAs.back fun on' =>
      ⟨_, _, callOn_inside_stop on' hm.1, htail _ (hP _ on' (hP s on hs))⟩⟩
  | succ k ih =>
    intro n hn s hs
    -- every call before it fails with a retry left
    have hgo : Handler.stopsAt br (Handler.answer st₀ lane.resource lane.verb q.payload n) n = false := by
      by_contra hne
      have := hm.2 (Bool.not_eq_false _ ▸ hne)
      omega
    obtain ⟨f, hf, hr⟩ := Handler.exists_error_of_not_stopsAt br hgo
    rw [show 6 + 2 * (k + 1) = 6 + 2 * k + 1 + 1 by omega]
    exact EndsAs.back fun on => ⟨_, _, callOn_calling on n, EndsAs.back fun on' =>
      ⟨_, _, callOn_inside_retry on' hf hr, ih (n + 1) (by omega) _ (hP _ on' (hP s on hs))⟩⟩

end Loop

theorem callOn_begin {on : Bool} {st : Handler.State σ} {q : Request}
    (hq : Request.decode d.payload = .ok q) :
    callOn br lane d on .idle st =
      .ok (.claiming q (Guard.freshRecord br.guard st.clock d.id) (.setting Guard.rounds),
        { st with store := st.store.setAvailable on }) := by
  simp only [callOn, Stage.step, hq, Except.map]
  rfl

theorem callOn_claim_off {st : Handler.State σ} {q : Request} :
    callOn br lane d false
        (.claiming q (Guard.freshRecord br.guard st.clock d.id) (.setting Guard.rounds)) st =
      .ok (.working q none (Produce.start lane q), { st with store := st.store.setAvailable false }) := by
  have hc : Claiming.step br.guard st.clock (Guard.key lane.queue q.requestId)
      (Guard.freshRecord br.guard st.clock d.id).encode d.id (st.store.setAvailable false)
      (.setting Guard.rounds) = .ok (.decided (.degraded Store.offline), st.store.setAvailable false) :=
    Guard.step_offline rfl _ _ (by simp [Guard.rounds]) (by simp)
  simp only [callOn, Stage.step, hc, ofClaim, Except.map]

theorem callOn_claim_on {st : Handler.State σ} {q : Request}
    (hfree : st.store.live? st.clock.mono (Guard.key lane.queue q.requestId) = none)
    (hd : st.clock.mono + br.guard.ttl.nanos ≤ Clock.monoEnd) :
    callOn br lane d true
        (.claiming q (Guard.freshRecord br.guard st.clock d.id) (.setting Guard.rounds)) st =
      .ok (.working q (some (Guard.freshRecord br.guard st.clock d.id)) (Produce.start lane q),
        { st with store := (Guard.written br.guard (st.store.setAvailable true) st.clock lane.queue
            q.requestId d.id) }) := by
  have hc : Claiming.step br.guard st.clock (Guard.key lane.queue q.requestId)
      (Guard.freshRecord br.guard st.clock d.id).encode d.id (st.store.setAvailable true)
      (.setting Guard.rounds) =
        .ok (.decided .acquired, Guard.written br.guard (st.store.setAvailable true) st.clock
          lane.queue q.requestId d.id) := by
    have ha : (st.store.setAvailable true).available = true := rfl
    have hl : (st.store.setAvailable true).live? st.clock.mono (Guard.key lane.queue q.requestId) =
        none := hfree
    simp [Claiming.step, Guard.rounds, Store.setIfAbsent_ok _ st.clock ha, hl, Store.fresh,
      Clock.deadline, hd, Except.map, Guard.written]
  simp only [callOn, Stage.step, hc, ofClaim, Except.map]

section Front

/-! From the start of a handling to the operation's calls. The handling ends as `fin` and
`h` say: the result of the final answer of the operation's calls from `st₀` is published as
`Emits` says, and the backend and the calls on it are those of the calls up to that answer. -/

variable {st₀ : Handler.State σ} {q : Request} {h : Handled} {fin : Handler.State σ} {m : Nat}
  (hm : IsLeast {i | Handler.stopsAt br (Handler.answer st₀ lane.resource lane.verb q.payload i) i = true} m)
  (hd : st₀.clock.mono + br.guard.ttl.nanos ≤ Clock.monoEnd)
  (hres : st₀.clock.mono + br.results.ttl.nanos ≤ Clock.monoEnd)
  (he : Handler.Emits br lane st₀.broker (Handler.reply br q.requestId st₀.clock.wall
      (Handler.classified br (Handler.answer st₀ lane.resource lane.verb q.payload m)))
    (Handler.verdict (Handler.classified br (Handler.answer st₀ lane.resource lane.verb q.payload m)))
    h fin.broker)
  (hk : (Handler.called st₀ lane.resource lane.verb q.payload (m + 1)).backend = fin.backend)
  (hc : (Handler.called st₀ lane.resource lane.verb q.payload (m + 1)).calls = fin.calls)
include hm hd hres he hk hc

theorem endsAs_operation {held : Option ClaimRecord} (sq : Handler.Sequel) {s : Store}
    (hgen : s.CountsUp st₀.clock.mono (Results.generationKey lane.resource)) :
    EndsAs br lane d 12 (.working q held (.calling sq 0)) { st₀ with store := s } h fin := by
  have hclock := Handler.called_clock st₀ lane.resource lane.verb q.payload (m + 1)
  have hbroker := Handler.called_broker st₀ lane.resource lane.verb q.payload (m + 1)
  have hbudget : m ≤ Handler.retryBudget := hm.2 (Handler.stopsAt_budget br _)
  -- the counter's room is all the store needs, and switching the store on or off keeps it
  have hloop : EndsAs br lane d (6 + 2 * m) (.working q held (.calling sq 0))
      { Handler.called st₀ lane.resource lane.verb q.payload 0 with store := s } h fin :=
    endsAs_calling hm
      (fun s => s.CountsUp st₀.clock.mono (Results.generationKey lane.resource)) (fun _ _ hs => hs)
      (fun _ hs => endsAs_settle sq _ (by simpa only [hclock] using hd)
        (by simpa only [hclock] using hres) (by simpa only [hclock] using hs)
        (by simpa only [hclock, hbroker] using he) hk hc)
      m 0 (Nat.zero_add m) s hgen
  simp only [Handler.retryBudget] at hbudget
  exact hloop.mono (by omega)

theorem endsAs_probe {held : Option ClaimRecord} {g : Int} {shape : String} {s : Store}
    (hnone : ∀ g shape, s.live? st₀.clock.mono (Results.entryKey lane.resource g shape) = none)
    (hgen : s.CountsUp st₀.clock.mono (Results.generationKey lane.resource)) :
    EndsAs br lane d 13 (.working q held (.probe g shape)) { st₀ with store := s } h fin := by
  apply EndsAs.back
  intro on
  obtain ⟨sq, hp⟩ := Produce.step_probe_calls br lane.resource st₀.clock (.ok .null)
    (s.setAvailable on) (hnone g shape)
  exact ⟨_, _, callOn_working (by simp) (by simp) hp, endsAs_operation hm hd hres he hk hc sq hgen⟩

theorem endsAs_generation {held : Option ClaimRecord} {shape : String} {s : Store}
    (hnone : ∀ g shape, s.live? st₀.clock.mono (Results.entryKey lane.resource g shape) = none)
    (hgen : s.CountsUp st₀.clock.mono (Results.generationKey lane.resource)) :
    EndsAs br lane d 14 (.working q held (.generation shape)) { st₀ with store := s } h fin := by
  apply EndsAs.back
  intro on
  rcases Produce.step_generation_cases br lane.resource st₀.clock (.ok .null) (s.setAvailable on)
    shape with ⟨g, hp⟩ | hp
  · exact ⟨_, _, callOn_working (by simp) (by simp) hp, endsAs_probe hm hd hres he hk hc hnone hgen⟩
  · refine ⟨_, _, callOn_working (by simp) (by simp) hp, EndsAs.mono ?_ (show 12 ≤ 13 by omega)⟩
    exact endsAs_operation hm hd hres he hk hc .pass hgen

theorem endsAs_start {held : Option ClaimRecord} {s : Store}
    (hnone : ∀ g shape, s.live? st₀.clock.mono (Results.entryKey lane.resource g shape) = none)
    (hgen : s.CountsUp st₀.clock.mono (Results.generationKey lane.resource)) :
    EndsAs br lane d 14 (.working q held (Produce.start lane q)) { st₀ with store := s } h fin := by
  unfold Produce.start
  split
  · exact (endsAs_operation hm hd hres he hk hc .invalidate hgen).mono (by omega)
  · exact endsAs_generation hm hd hres he hk hc hnone hgen

theorem endsAs_claiming {s : Store}
    (hfree : s.live? st₀.clock.mono (Guard.key lane.queue q.requestId) = none)
    (hkey : ∀ g shape, Guard.key lane.queue q.requestId ≠ Results.entryKey lane.resource g shape)
    (hnone : ∀ g shape, s.live? st₀.clock.mono (Results.entryKey lane.resource g shape) = none)
    (hgen : s.CountsUp st₀.clock.mono (Results.generationKey lane.resource)) :
    EndsAs br lane d 15
      (.claiming q (Guard.freshRecord br.guard st₀.clock d.id) (.setting Guard.rounds))
      { st₀ with store := s } h fin := by
  apply EndsAs.back
  intro on
  cases on with
  | false => exact ⟨_, _, callOn_claim_off, endsAs_start hm hd hres he hk hc hnone hgen⟩
  | true =>
    -- the claim record lies under neither an entry of the resource nor its counter
    refine ⟨_, _, callOn_claim_on hfree hd, endsAs_start hm hd hres he hk hc ?_ ?_⟩
    · intro g shape
      rw [Guard.live?_written_of_ne (hkey g shape)]
      exact hnone g shape
    · intro raw hraw
      rw [Guard.live?_written_of_ne (key_ne_generationKey _ _ _)] at hraw
      exact hgen raw hraw

theorem endsAs_idle (hq : Request.decode d.payload = .ok q)
    (hfree : st₀.store.live? st₀.clock.mono (Guard.key lane.queue q.requestId) = none)
    (hkey : ∀ g shape, Guard.key lane.queue q.requestId ≠ Results.entryKey lane.resource g shape)
    (hnone : ∀ g shape, st₀.store.live? st₀.clock.mono (Results.entryKey lane.resource g shape) = none)
    (hgen : st₀.store.CountsUp st₀.clock.mono (Results.generationKey lane.resource)) :
    EndsAs br lane d 16 .idle st₀ h fin := by
  apply EndsAs.back
  intro on
  exact ⟨_, _, callOn_begin hq, endsAs_claiming hm hd hres he hk hc hfree hkey hnone hgen⟩

end Front

variable (br lane d) in
/-- Store faults do not change a first delivery. Take a delivery whose bytes read as a request,
and a store that holds no live claim under the request's key and no live result of the
resource, where records and results written now have their deadlines before the end of the
clock, the resource's generation counter can still count up, and the claim key is no entry key
of the resource. The handler, on the store working, handles the delivery without a panic; and
every run of the same handling one call at a time, each call made on the store switched on or
off as a pattern of at least sixteen entries says, ends the delivery the same way, having called
the operation the same times with the same payloads, leaving the backend in the same state, and
publishing the same results. -/
theorem first_delivery_ignores_store_faults (st : Handler.State σ) (q : Request)
    (hq : Request.decode d.payload = .ok q) (hon : st.store.available = true)
    (hfree : st.store.live? st.clock.mono (Guard.key lane.queue q.requestId) = none)
    (hnone : ∀ g shape, st.store.live? st.clock.mono (Results.entryKey lane.resource g shape) = none)
    (hkey : ∀ g shape, Guard.key lane.queue q.requestId ≠ Results.entryKey lane.resource g shape)
    (hcl : st.clock.mono + br.guard.ttl.nanos ≤ Clock.monoEnd)
    (hres : st.clock.mono + br.results.ttl.nanos ≤ Clock.monoEnd)
    (hgen : ∀ raw, st.store.live? st.clock.mono (Results.generationKey lane.resource) = some raw →
      (Text.IntFormat.signed 64).parse raw ≠ .ok int64Max) :
    ∃ h st', Handler.handle br lane st d = .ok (h, st') ∧
      ∀ pattern : List Bool, 16 ≤ pattern.length →
        ∃ st'', runOn br lane d pattern .idle st = .ok (.done h, st'') ∧
          st''.calls = st'.calls ∧ st''.backend = st'.backend ∧ st''.broker = st'.broker := by
  obtain ⟨m, hm, -⟩ := Handler.exists_first_stop br st lane.resource lane.verb q.payload
  obtain ⟨h, st', hh, he, hk, hc⟩ :=
    Handler.handle_first_delivery hm hq hon hfree hnone hkey hcl hres hgen
  refine ⟨h, st', hh, fun pattern hp => ?_⟩
  obtain ⟨st'', hrun, hb, hk', hc'⟩ :=
    endsAs_idle hm hcl hres he hk.symm hc.symm hq hfree hkey hnone hgen pattern hp
  exact ⟨st'', hrun, hc', hk', hb⟩

def insertRequest : Request := ⟨"r1", "/players", "POST", .obj [("name", .str "a")], 0⟩

def insertLane : Subscription.Config := Subscription.Config.make "player" .insert

theorem first_delivery_ignores_store_faults_insert :
    Request.decode Handler.insertDelivery.payload = .ok insertRequest ∧
    Handler.sampleState.store.available = true ∧
    Handler.sampleState.store.live? Handler.sampleState.clock.mono
      (Guard.key insertLane.queue insertRequest.requestId) = none ∧
    (∀ g shape, Handler.sampleState.store.live? Handler.sampleState.clock.mono
      (Results.entryKey insertLane.resource g shape) = none) ∧
    (∀ g shape, Guard.key insertLane.queue insertRequest.requestId ≠
      Results.entryKey insertLane.resource g shape) ∧
    Handler.sampleState.clock.mono + Handler.sampleBridge.guard.ttl.nanos ≤ Clock.monoEnd ∧
    Handler.sampleState.clock.mono + Handler.sampleBridge.results.ttl.nanos ≤ Clock.monoEnd ∧
    (∀ raw, Handler.sampleState.store.live? Handler.sampleState.clock.mono
      (Results.generationKey insertLane.resource) = some raw →
        (Text.IntFormat.signed 64).parse raw ≠ .ok int64Max) ∧
    ∃ h st', Handler.handle Handler.sampleBridge insertLane Handler.sampleState
        Handler.insertDelivery = .ok (h, st') ∧
      ∀ pattern : List Bool, 16 ≤ pattern.length →
        ∃ st'', runOn Handler.sampleBridge insertLane Handler.insertDelivery pattern .idle
            Handler.sampleState = .ok (.done h, st'') ∧
          st''.calls = st'.calls ∧ st''.backend = st'.backend ∧ st''.broker = st'.broker := by
  have hq : Request.decode Handler.insertDelivery.payload = .ok insertRequest :=
    Request.decode_encode (by decide) ⟨List.pairwise_singleton _ _, trivial, trivial⟩ (by decide)
      (by decide) (by decide)
  -- the claim key starts with `idempotent`, the resource's keys with `player`
  have hkey : ∀ g shape, Guard.key insertLane.queue insertRequest.requestId ≠
      Results.entryKey insertLane.resource g shape := by
    intro g shape h
    have h1 := congrArg (fun s : String => s.toList.head?) h
    simp [Guard.key, Results.entryKey, String.toList_append, insertLane,
      Subscription.Config.make] at h1
  have hcl : Handler.sampleState.clock.mono + Handler.sampleBridge.guard.ttl.nanos ≤
      Clock.monoEnd := by decide
  have hres : Handler.sampleState.clock.mono + Handler.sampleBridge.results.ttl.nanos ≤
      Clock.monoEnd := by decide
  have hgen : ∀ raw, Handler.sampleState.store.live? Handler.sampleState.clock.mono
      (Results.generationKey insertLane.resource) = some raw →
        (Text.IntFormat.signed 64).parse raw ≠ .ok int64Max := fun _ h => by cases h
  exact ⟨hq, rfl, rfl, fun _ _ => rfl, hkey, hcl, hres, hgen,
    first_delivery_ignores_store_faults Handler.sampleBridge insertLane Handler.insertDelivery
      Handler.sampleState insertRequest hq rfl rfl (fun _ _ => rfl) hkey hcl hres hgen⟩

/-- The lane that reads all the players of the resource `idempotent` from the queue `g0`: the
claim key of the request `get-all` there is `idempotent:g0:get-all`, the key of the lane's own
cached result at generation 0. -/
def collidingLane : Subscription.Config :=
  (Subscription.Config.make "idempotent" .getAll).withQueue "g0"

def collidingDelivery : Delivery :=
  ⟨"1-0", "g0", (Request.encode ⟨"get-all", "/players", "POST", .null, 0⟩).toUTF8.toList, 1⟩

def collidingState : Handler.State Script :=
  ⟨{}, {}, ⟨0, ⟨0⟩⟩, ⟨[.ok (.str "fresh")], .ok (.str "default")⟩, []⟩

/-- On a working store the handling reads back the claim record it has just written as the
cached result of its query, and publishes it without calling the operation; on a failing store
the same handling calls the operation. -/
theorem claim_read_back_as_cached_result :
    (Handler.handle Handler.sampleBridge collidingLane collidingState collidingDelivery).map
        (·.2.calls) = .ok [] ∧
      (Handler.handle Handler.sampleBridge collidingLane
        { collidingState with store := { available := false } } collidingDelivery).map
        (·.2.calls) = .ok [(.getAll, .null)] := by
  decide +kernel

end Stage

end Concurrent

end Relay
