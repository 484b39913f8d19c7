import Mathlib.Data.Nat.Find
import Mathlib.Order.Bounds.Defs
import Relay.Handler
/-!
# Retrying an operation in its lane

A handling calls the backend with the same request until the answer is data, or a failure
whose kind allows no further retry after the retries already made. The call after `i` retries
therefore ends the handling exactly when `stopsAt` holds of its answer at `i`, and the handling
makes as many retries as the first such `i`, whatever kinds the failures before it had. No kind
allows more than three retries, so a handling calls the backend at most four times.

In the lane, each call keeps the handling waiting as long as the backend kept it, and a call
that is retried also waits the pause its kind gives for that retry.
-/
namespace Relay.Handler

variable {σ : Type} [Backend σ] (br : Bridge)

def called (st : State σ) (resource : String) (verb : Verb) (payload : Json) : Nat → State σ
  | 0 => st
  | i + 1 => (call (called st resource verb payload i) resource verb payload).2

def answer (st : State σ) (resource : String) (verb : Verb) (payload : Json) (i : Nat) :
    Except Failure Json :=
  (call (called st resource verb payload i) resource verb payload).1

def stopsAt (o : Except Failure Json) (i : Nat) : Bool :=
  match o with
  | .ok _ => true
  | .error f => !(br.classifier.classify f).shouldRetry i

def classified : Except Failure Json → Except (Failure × Failure.Kind) Json
  | .ok v => .ok v
  | .error f => .error (f, br.classifier.classify f)

theorem maxRetries_le_budget (k : Failure.Kind) : k.maxRetries ≤ retryBudget := by
  cases k <;> decide

theorem lt_budget_of_shouldRetry {k : Failure.Kind} {i : Nat} (h : k.shouldRetry i = true) :
    i < retryBudget := by
  have hk := maxRetries_le_budget k
  simp only [Failure.Kind.shouldRetry, decide_eq_true_eq] at h
  omega

theorem stopsAt_budget (o : Except Failure Json) : stopsAt br o retryBudget = true := by
  cases o with
  | ok v => rfl
  | error f =>
    have hk := maxRetries_le_budget (br.classifier.classify f)
    simp only [stopsAt, Failure.Kind.shouldRetry, Bool.not_eq_eq_eq_not, Bool.not_true,
      decide_eq_false_iff_not, Nat.not_lt]
    exact hk

theorem exists_error_of_not_stopsAt {o : Except Failure Json} {i : Nat}
    (h : stopsAt br o i = false) :
    ∃ f, o = .error f ∧ (br.classifier.classify f).shouldRetry i = true := by
  cases o with
  | ok v => cases h
  | error f =>
    refine ⟨f, rfl, ?_⟩
    simpa [stopsAt] using h

section Calls

variable (st : State σ) (resource : String) (verb : Verb) (payload : Json)

theorem called_calls (i : Nat) :
    (called st resource verb payload i).calls = List.replicate i (verb, payload) ++ st.calls := by
  induction i with
  | zero => rfl
  | succ i ih =>
    simp only [called, call, ih, List.replicate_succ, List.cons_append]

theorem exists_first_stop :
    ∃ m, IsLeast {i | stopsAt br (answer st resource verb payload i) i = true} m ∧
      m ≤ retryBudget := by
  have hex : ∃ i, stopsAt br (answer st resource verb payload i) i = true :=
    ⟨retryBudget, stopsAt_budget br _⟩
  refine ⟨Nat.find hex, ⟨Nat.find_spec hex, fun j hj => Nat.find_min' hex hj⟩, ?_⟩
  exact Nat.find_min' hex (stopsAt_budget br _)

variable {st resource verb payload}

theorem ask_of_stopsAt {i : Nat} (h : stopsAt br (answer st resource verb payload i) i = true) :
    ask br resource verb payload i (called st resource verb payload i) =
      (.final (classified br (answer st resource verb payload i)),
        called st resource verb payload (i + 1)) := by
  unfold answer at h
  rw [called, ask, answer]
  cases hc : call (called st resource verb payload i) resource verb payload with
  | mk r st' =>
    rw [hc] at h
    cases r with
    | ok v => rfl
    | error f =>
      have hr : (br.classifier.classify f).shouldRetry i = false := by simpa [stopsAt] using h
      simp only [hr, classified]
      rfl

theorem ask_of_retry {i : Nat} {f : Failure} (h : answer st resource verb payload i = .error f)
    (hr : (br.classifier.classify f).shouldRetry i = true) :
    ask br resource verb payload i (called st resource verb payload i) =
      (.retry f (br.classifier.classify f), called st resource verb payload (i + 1)) := by
  unfold answer at h
  rw [called, ask]
  cases hc : call (called st resource verb payload i) resource verb payload with
  | mk r st' =>
    rw [hc] at h
    subst h
    simp only [hr]
    rfl

theorem attempt_called (fuel : Nat) {i m : Nat} (hfuel : i + fuel = retryBudget) (him : i ≤ m)
    (hm : stopsAt br (answer st resource verb payload m) m = true)
    (hgo : ∀ j, i ≤ j → j < m → stopsAt br (answer st resource verb payload j) j = false) :
    attempt br resource verb payload i fuel (called st resource verb payload i) =
      (classified br (answer st resource verb payload m), called st resource verb payload (m + 1)) := by
  induction fuel generalizing i with
  | zero =>
    -- with no retry left the call is the last one: a retry here would exceed the budget
    obtain rfl | hlt := Nat.eq_or_lt_of_le him
    · rw [attempt, ask_of_stopsAt br hm]
    · obtain ⟨f, hf, hr⟩ := exists_error_of_not_stopsAt br (hgo i le_rfl hlt)
      have := lt_budget_of_shouldRetry hr
      omega
  | succ fuel ih =>
    obtain rfl | hlt := Nat.eq_or_lt_of_le him
    · rw [attempt, ask_of_stopsAt br hm]
    · obtain ⟨f, hf, hr⟩ := exists_error_of_not_stopsAt br (hgo i le_rfl hlt)
      rw [attempt, ask_of_retry br hf hr]
      exact ih (by omega) hlt (fun j hj hjm => hgo j (by omega) hjm)

end Calls

section Steps

variable (lane : Subscription.Config) (w : Handling) (st : State σ)

theorem step_of_stopsAt {i : Nat}
    (h : stopsAt br (answer st lane.resource lane.verb w.request.payload i) i = true) :
    step br lane (called st lane.resource lane.verb w.request.payload i)
        { w with stand := .calling i } =
      .ok (.pauses
        { w with stand := .answered (classified br (answer st lane.resource lane.verb w.request.payload i)) }
        (Backend.latency (called st lane.resource lane.verb w.request.payload i).backend
          lane.resource),
        called st lane.resource lane.verb w.request.payload (i + 1)) := by
  simp only [step, ask_of_stopsAt br h]

theorem step_of_retry {i : Nat} {f : Failure}
    (h : answer st lane.resource lane.verb w.request.payload i = .error f)
    (hr : (br.classifier.classify f).shouldRetry i = true) :
    step br lane (called st lane.resource lane.verb w.request.payload i)
        { w with stand := .calling i } =
      .ok (.pauses { w with stand := .calling (i + 1) }
        ⟨(Backend.latency (called st lane.resource lane.verb w.request.payload i).backend
            lane.resource).nanos + ((br.classifier.classify f).backoff i).nanos⟩,
        called st lane.resource lane.verb w.request.payload (i + 1)) := by
  have hb := lt_budget_of_shouldRetry hr
  simp only [step, ask_of_retry br h hr, hb, if_true]

/-- The in-lane retries of an operation. For every backend, and so for every sequence of
answers, whose failures may fall into a different kind on each call: the handling makes `m`
retries, where `m` is the least `i` such that the call after `i` retries answers with data or
with a failure whose kind allows at most `i` retries, and `m` is at most three. It calls the
backend `m + 1` times with the request's payload and ends with the answer of the last call,
a failure paired with its kind. In its lane, the call after each of the first `m` retries
waits as long as the backend kept it and then the pause of its failure's kind for that retry,
and the last call waits only as long as the backend kept it. -/
theorem execute_retries_until_final :
    ∃ m, IsLeast {i | stopsAt br (answer st lane.resource lane.verb w.request.payload i) i = true} m ∧
      m + 1 ≤ 4 ∧
      execute br lane.resource lane.verb w.request.payload st =
        (classified br (answer st lane.resource lane.verb w.request.payload m),
          called st lane.resource lane.verb w.request.payload (m + 1)) ∧
      (called st lane.resource lane.verb w.request.payload (m + 1)).calls =
        List.replicate (m + 1) (lane.verb, w.request.payload) ++ st.calls ∧
      (∀ i < m, ∃ f, answer st lane.resource lane.verb w.request.payload i = .error f ∧
        step br lane (called st lane.resource lane.verb w.request.payload i)
            { w with stand := .calling i } =
          .ok (.pauses { w with stand := .calling (i + 1) }
            ⟨(Backend.latency (called st lane.resource lane.verb w.request.payload i).backend
                lane.resource).nanos + ((br.classifier.classify f).backoff i).nanos⟩,
            called st lane.resource lane.verb w.request.payload (i + 1))) ∧
      step br lane (called st lane.resource lane.verb w.request.payload m)
          { w with stand := .calling m } =
        .ok (.pauses
          { w with stand := .answered (classified br (answer st lane.resource lane.verb w.request.payload m)) }
          (Backend.latency (called st lane.resource lane.verb w.request.payload m).backend
            lane.resource),
          called st lane.resource lane.verb w.request.payload (m + 1)) := by
  obtain ⟨m, ⟨hm, hleast⟩, hbudget⟩ :=
    exists_first_stop br st lane.resource lane.verb w.request.payload
  -- every call before the first that stops is a failure with a retry left
  have hgo : ∀ j, j < m →
      stopsAt br (answer st lane.resource lane.verb w.request.payload j) j = false := by
    intro j hj
    by_contra hne
    have := hleast (Bool.not_eq_false _ ▸ hne)
    omega
  refine ⟨m, ⟨hm, hleast⟩, by simp only [retryBudget] at hbudget; omega, ?_, called_calls _ _ _ _ _,
    ?_, step_of_stopsAt br lane w st hm⟩
  · exact attempt_called br retryBudget (Nat.zero_add _) (Nat.zero_le m) hm
      (fun j _ hj => hgo j hj)
  · intro i hi
    obtain ⟨f, hf, hr⟩ := exists_error_of_not_stopsAt br (hgo i hi)
    exact ⟨f, hf, step_of_retry br lane w st hf hr⟩

end Steps

end Relay.Handler
