import Mathlib
import Relay.Settings
/-!
# Checked settings and the subscriptions they expand to

`Settings.validate` accepts exactly the settings that keep the rules of `Settings.Valid`, and
otherwise blames the variable of the first rule broken, in the order of `Settings.rules`
(`validate_eq_ok`, `validate_blames_first`); settings read from the environment have passed it.

Checked settings expand to one subscription per resource and verb, resources in their order and
verbs in theirs, each the record `Settings.subscription` describes: its queue is
`<resource>-<verb>`, its concurrency the verb's ceiling, between one and the pool size, and it
has priority exactly when its queue is listed. No verb's name ends in a dash and another verb's
name, so a queue's name tells its resource and verb apart (`Verb.queue_inj`), and the queues
are distinct exactly when no resource is listed twice (`queues_nodup_iff`). Nothing checks that:
a resource listed twice gets its queues twice.
-/
namespace Relay

namespace Verb

theorem eq_of_dash_suffix {v v' : Verb} (h : ('-' :: v'.name.toList) <:+ ('-' :: v.name.toList)) :
    v = v' := by
  revert h
  cases v <;> cases v' <;> decide

theorem queue_toList (v : Verb) (r : String) :
    (v.queue r).toList = r.toList ++ '-' :: v.name.toList := by
  simp [queue]

theorem queue_inj_of_prefix {v v' : Verb} {r r' : String} {a : List Char}
    (hr : r'.toList = r.toList ++ a) (hn : '-' :: v.name.toList = a ++ '-' :: v'.name.toList) :
    r = r' ∧ v = v' := by
  obtain rfl := eq_of_dash_suffix ⟨a, hn.symm⟩
  have ha : a = [] := by simpa using congrArg List.length hn
  exact ⟨String.toList_inj.mp (by rw [hr, ha, List.append_nil]), rfl⟩

theorem queue_inj {v v' : Verb} {r r' : String} (h : v.queue r = v'.queue r') :
    r = r' ∧ v = v' := by
  have hl := congrArg String.toList h
  rw [queue_toList, queue_toList] at hl
  rcases List.append_eq_append_iff.mp hl with ⟨a, hr, hn⟩ | ⟨c, hr, hn⟩
  · exact queue_inj_of_prefix hr hn
  · obtain ⟨hr', hv'⟩ := queue_inj_of_prefix hr hn
    exact ⟨hr'.symm, hv'.symm⟩

theorem all_nodup : all.Nodup := by decide

theorem mem_all (v : Verb) : v ∈ all := by cases v <;> decide

end Verb

namespace Settings

variable {s : Settings}

/-! ## Checking -/

/-- What checked settings keep: each concurrency ceiling at least one and below the pool size,
some resource, a blocking read of at least a moment, and a response timeout beyond it. -/
structure Valid (s : Settings) : Prop where
  read_pos : 1 ≤ s.readConcurrency
  read_lt : s.readConcurrency < s.backendPoolSize
  write_pos : 1 ≤ s.writeConcurrency
  write_lt : s.writeConcurrency < s.backendPoolSize
  resources_ne : s.resources ≠ []
  block_pos : 0 < s.block.nanos
  block_lt : s.block < s.readResponseTimeout

def rules (s : Settings) : List (Bool × String) :=
  [(decide (1 ≤ s.readConcurrency ∧ s.readConcurrency < s.backendPoolSize),
      "BRIDGE_READ_CONCURRENCY"),
    (decide (1 ≤ s.writeConcurrency ∧ s.writeConcurrency < s.backendPoolSize),
      "BRIDGE_WRITE_CONCURRENCY"),
    (decide (s.resources ≠ []), "BRIDGE_RESOURCES"),
    (decide (0 < s.block.nanos), "BRIDGE_BLOCK_MS"),
    (decide (s.block < s.readResponseTimeout), "BRIDGE_READ_RESPONSE_TIMEOUT_MS")]

def firstBroken (s : Settings) : Option (Bool × String) := s.rules.find? (fun r => !r.1)

theorem firstBroken_eq_none : s.firstBroken = none ↔ s.Valid := by
  simp only [firstBroken, rules, List.find?_eq_none, List.mem_cons, List.not_mem_nil, or_false,
    forall_eq_or_imp, forall_eq, Bool.not_eq_true', decide_eq_false_iff_not, not_not]
  constructor
  · rintro ⟨⟨h1, h2⟩, ⟨h3, h4⟩, h5, h6, h7⟩
    exact ⟨h1, h2, h3, h4, h5, h6, h7⟩
  · rintro ⟨h1, h2, h3, h4, h5, h6, h7⟩
    exact ⟨⟨h1, h2⟩, ⟨h3, h4⟩, h5, h6, h7⟩

theorem checkCeiling_eq_ok {pool c : Nat} {key : String} :
    checkCeiling pool key c = .ok () ↔ 1 ≤ c ∧ c < pool := by
  unfold checkCeiling
  by_cases h0 : c = 0
  · simp [h0, throw, throwThe, MonadExceptOf.throw, bind, Except.bind]
  · by_cases h1 : pool ≤ c
    · simp [h0, h1, throw, throwThe, MonadExceptOf.throw]
    · simp [h0, h1, pure, Except.pure]
      omega

theorem checkCeiling_blames {pool c : Nat} {key : String} {p : Config.Problem}
    (h : checkCeiling pool key c = .error p) : ¬(1 ≤ c ∧ c < pool) ∧ ∃ d, p = .invalid key d := by
  refine ⟨fun hc => by simp [checkCeiling_eq_ok.2 hc] at h, ?_⟩
  unfold checkCeiling at h
  by_cases h0 : c = 0
  · simp only [h0, if_true, throw, throwThe, MonadExceptOf.throw, bind, Except.bind,
      Except.error.injEq] at h
    exact ⟨_, h.symm⟩
  · by_cases h1 : pool ≤ c
    · simp only [h0, h1, if_true, if_false, throw, throwThe, MonadExceptOf.throw, bind,
        Except.bind, pure, Except.pure, Except.error.injEq] at h
      exact ⟨_, h.symm⟩
    · simp [h0, h1, pure, Except.pure] at h

theorem validate_cases (s : Settings) :
    (s.Valid ∧ s.validate = .ok ()) ∨
      ∃ r d, s.firstBroken = some r ∧ s.validate = .error (.invalid r.2 d) := by
  -- the checks in their order: the first that fails gives the error
  rcases h1 : checkCeiling s.backendPoolSize "BRIDGE_READ_CONCURRENCY" s.readConcurrency
    with p | ⟨⟩
  · obtain ⟨hb, d, rfl⟩ := checkCeiling_blames h1
    exact .inr ⟨(false, "BRIDGE_READ_CONCURRENCY"), d, by simp [firstBroken, rules, hb],
      by simp [validate, h1, bind, Except.bind]⟩
  have ha := checkCeiling_eq_ok.1 h1
  rcases h2 : checkCeiling s.backendPoolSize "BRIDGE_WRITE_CONCURRENCY" s.writeConcurrency
    with p | ⟨⟩
  · obtain ⟨hb, d, rfl⟩ := checkCeiling_blames h2
    exact .inr ⟨(false, "BRIDGE_WRITE_CONCURRENCY"), d, by simp [firstBroken, rules, ha, hb],
      by simp [validate, h1, h2, bind, Except.bind]⟩
  have hb := checkCeiling_eq_ok.1 h2
  by_cases hr : s.resources = []
  · exact .inr ⟨(false, "BRIDGE_RESOURCES"), "at least one resource is required",
      by simp [firstBroken, rules, ha, hb, hr],
      by simp [validate, h1, h2, hr, bind, Except.bind, throw, throwThe, MonadExceptOf.throw]⟩
  by_cases hz : s.block.nanos = 0
  · exact .inr ⟨(false, "BRIDGE_BLOCK_MS"), "blocking read must be at least 1 ms",
      by simp [firstBroken, rules, ha, hb, hr, hz],
      by simp [validate, h1, h2, hr, hz, bind, Except.bind, throw, throwThe, MonadExceptOf.throw]⟩
  by_cases ht : s.readResponseTimeout ≤ s.block
  · have hlt : ¬s.block < s.readResponseTimeout := fun h => Nat.not_le_of_lt h ht
    exact .inr ⟨(false, "BRIDGE_READ_RESPONSE_TIMEOUT_MS"), "response timeout " ++
      s.readResponseTimeout.text ++ " must exceed BRIDGE_BLOCK_MS " ++ s.block.text,
      by simp [firstBroken, rules, ha, hb, hr, hz, hlt],
      by simp [validate, h1, h2, hr, hz, ht, bind, Except.bind, throw, throwThe, MonadExceptOf.throw]⟩
  · exact .inl ⟨⟨ha.1, ha.2, hb.1, hb.2, hr, Nat.pos_of_ne_zero hz, Nat.lt_of_not_le ht⟩,
      by simp [validate, h1, h2, hr, hz, ht, bind, Except.bind, pure, Except.pure]⟩

theorem validate_eq_ok : s.validate = .ok () ↔ s.Valid := by
  rcases validate_cases s with ⟨hv, hok⟩ | ⟨r, d, hr, herr⟩
  · exact ⟨fun _ => hv, fun _ => hok⟩
  · rw [herr]
    refine ⟨(fun h => by cases h), fun hv => ?_⟩
    rw [firstBroken_eq_none.2 hv] at hr
    cases hr

theorem validate_blames_first {p : Config.Problem} (h : s.validate = .error p) :
    ∃ r d, s.firstBroken = some r ∧ p = .invalid r.2 d := by
  rcases validate_cases s with ⟨-, hok⟩ | ⟨r, d, hr, herr⟩
  · rw [hok] at h
    cases h
  · rw [herr] at h
    cases h
    exact ⟨r, d, hr, rfl⟩

theorem ofEnv_valid {e : Config.Env} {fresh : String} (h : ofEnv e fresh = .ok s) : s.Valid := by
  unfold ofEnv at h
  rcases hr : read e fresh with _ | s'
  · simp [hr, bind, Except.bind] at h
  · rcases hv : s'.validate with _ | ⟨⟩
    · simp [hr, hv, bind, Except.bind] at h
    · simp only [hr, hv, bind, Except.bind, pure, Except.pure, Except.ok.injEq] at h
      subst h
      exact validate_eq_ok.1 hv

/-! ## Expanding -/

def subscription (s : Settings) (r : String) (v : Verb) : Subscription.Config where
  queue := v.queue r
  resource := r
  verb := v
  concurrency := v.ceiling s.readConcurrency s.writeConcurrency
  priority := s.priorityQueues.contains (v.queue r)
  block := s.block
  claimTimeout := s.claimTimeout
  claimInterval := Span.ofSecs 5
  drainTimeout := s.drainTimeout
  retry := RetryPolicy.standard

theorem ceiling_bounds (hv : s.Valid) (v : Verb) :
    1 ≤ v.ceiling s.readConcurrency s.writeConcurrency ∧
      v.ceiling s.readConcurrency s.writeConcurrency < s.backendPoolSize := by
  unfold Verb.ceiling
  split
  · exact ⟨hv.read_pos, hv.read_lt⟩
  · exact ⟨hv.write_pos, hv.write_lt⟩

theorem subscriptions_eq (hv : s.Valid) :
    s.subscriptions = s.resources.flatMap fun r => Verb.all.map (s.subscription r) := by
  unfold subscriptions
  congr 1
  funext r
  congr 1
  funext v
  have hc := (ceiling_bounds hv v).1
  simp [Subscription.Config.make, Subscription.Config.withConcurrency,
    Subscription.Config.withPriority, Subscription.Config.withBlock,
    Subscription.Config.withClaimTimeout, Subscription.Config.withDrainTimeout, subscription,
    Nat.max_eq_left hc]

theorem queues_eq (hv : s.Valid) :
    s.subscriptions.map (·.queue) = s.resources.flatMap fun r => Verb.all.map (·.queue r) := by
  rw [subscriptions_eq hv, List.map_flatMap]
  simp [subscription, Function.comp_def]

theorem queues_nodup_iff (hv : s.Valid) :
    (s.subscriptions.map (·.queue)).Nodup ↔ s.resources.Nodup := by
  rw [queues_eq hv, List.nodup_flatMap]
  have hinner : ∀ r, (Verb.all.map (·.queue r)).Nodup := fun r =>
    Verb.all_nodup.map fun v v' h => (Verb.queue_inj h).2
  -- two resources share a queue only when they are the same resource
  have hdisj : ∀ r r', List.Disjoint (Verb.all.map (·.queue r)) (Verb.all.map (·.queue r')) ↔
      r ≠ r' := by
    intro r r'
    constructor
    · rintro hd rfl
      exact hd (List.mem_map_of_mem (Verb.mem_all .getAll)) (List.mem_map_of_mem (Verb.mem_all .getAll))
    · intro hne x hx hx'
      obtain ⟨v, -, rfl⟩ := List.mem_map.mp hx
      obtain ⟨v', -, hq⟩ := List.mem_map.mp hx'
      exact hne (Verb.queue_inj hq).1.symm
  constructor
  · rintro ⟨-, hp⟩
    exact hp.imp fun {r r'} h => (hdisj r r').1 h
  · intro hn
    exact ⟨fun r _ => hinner r, hn.imp fun {r r'} h => (hdisj r r').2 h⟩

theorem mem_subscriptions (hv : s.Valid) {c : Subscription.Config} :
    c ∈ s.subscriptions ↔ ∃ r ∈ s.resources, ∃ v, c = s.subscription r v := by
  rw [subscriptions_eq hv, List.mem_flatMap]
  constructor
  · rintro ⟨r, hr, hc⟩
    obtain ⟨v, -, rfl⟩ := List.mem_map.mp hc
    exact ⟨r, hr, v, rfl⟩
  · rintro ⟨r, hr, v, rfl⟩
    exact ⟨r, hr, List.mem_map_of_mem (Verb.mem_all v)⟩

/-- Settings pass the check exactly when they keep the rules of `Valid`, and otherwise the error
blames the variable of the first rule broken; settings read from the environment pass it. Checked
settings expand to the subscription of each resource and verb, resources in their order and verbs
in theirs: its queue is `<resource>-<verb>`, its concurrency the verb's ceiling, at least one and
below the pool size, and it has priority exactly when its queue is listed. Their queues are
distinct exactly when no resource is listed twice. -/
theorem checked_settings_expand (s : Settings) :
    (s.validate = .ok () ↔ s.Valid) ∧
      (∀ p, s.validate = .error p → ∃ r d, s.firstBroken = some r ∧ p = .invalid r.2 d) ∧
      (∀ e fresh, ofEnv e fresh = .ok s → s.Valid) ∧
      (s.Valid →
        s.subscriptions = s.resources.flatMap (fun r => Verb.all.map (s.subscription r)) ∧
        (∀ c ∈ s.subscriptions, c.queue = c.verb.queue c.resource ∧
          c.concurrency = c.verb.ceiling s.readConcurrency s.writeConcurrency ∧
          1 ≤ c.concurrency ∧ c.concurrency < s.backendPoolSize ∧
          (c.priority = true ↔ c.queue ∈ s.priorityQueues)) ∧
        ((s.subscriptions.map (·.queue)).Nodup ↔ s.resources.Nodup)) := by
  refine ⟨validate_eq_ok, fun p h => validate_blames_first h, fun e fresh h => ofEnv_valid h,
    fun hv => ⟨subscriptions_eq hv, fun c hc => ?_, queues_nodup_iff hv⟩⟩
  obtain ⟨r, -, v, rfl⟩ := (mem_subscriptions hv).1 hc
  have hb := ceiling_bounds hv v
  simp [subscription, hb.1, hb.2]

/-- The default settings pass the check, and their queues are distinct. -/
theorem checked_settings_expand_defaults :
    let s : Settings := { consumerId := "c" }
    s.Valid ∧ (s.subscriptions.map (·.queue)).Nodup := by
  intro s
  have hv : s.Valid := ⟨by decide, by decide, by decide, by decide, by simp [s], by decide,
    by decide⟩
  exact ⟨hv, ((checked_settings_expand s).2.2.2 hv).2.2.2 (by simp [s])⟩

/-- A resource listed twice passes the check and gets every queue twice. -/
theorem repeated_resource_repeats_queues :
    let s : Settings := { consumerId := "c", resources := ["player", "player"] }
    s.validate = .ok () ∧ ¬(s.subscriptions.map (·.queue)).Nodup := by
  intro s
  have hv : s.Valid := ⟨by decide, by decide, by decide, by decide, by simp [s], by decide,
    by decide⟩
  refine ⟨validate_eq_ok.2 hv, ?_⟩
  rw [queues_nodup_iff hv]
  simp [s]

end Settings

end Relay
