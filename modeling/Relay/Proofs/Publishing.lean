import Relay.Publisher
import Relay.Proofs.Conservation
/-!
# The shared destination is authoritative

A publication talks to its broker only through appends, and sees of the broker only what each
append answers. Run against a broker that answers each call as a script says and logs it
(`scripted`), which stands for every broker, a publication makes its first call to the shared
destination with the result's bytes; exactly when that call succeeds and the resource is
legacy, it makes one more, with the same bytes, to the legacy destination of the result's
outcome, and no other call. It succeeds exactly when the first call did, whatever the second
one answers, and every failure it reports is a publish fault, whatever fault the broker gave.

On the in-memory broker an append puts the bytes at the end of the stream of the
destination's key. The legacy destination `<resource>-response/success` has the same key as a
shared destination of that name, and then the stream gets the bytes twice
(`legacy_copy_lands_on_shared_stream`).
-/
namespace Relay.Publisher

structure Call where
  dest : Destination
  bytes : List UInt8
  answer : Except Fault String

def scripted (answer : Nat → Destination → List UInt8 → Except Fault String) (d : Destination)
    (bytes : List UInt8) : StateM (List Call) (Except Fault String) :=
  modifyGet fun log => (answer log.length d bytes, log ++ [⟨d, bytes, answer log.length d bytes⟩])

section Scripted

variable (answer : Nat → Destination → List UInt8 → Except Fault String) (p : Publisher)
  (resource : String) (r : Reply)

theorem scripted_run (d : Destination) (bytes : List UInt8) (log : List Call) :
    (scripted answer d bytes).run log =
      (answer log.length d bytes, log ++ [⟨d, bytes, answer log.length d bytes⟩]) := by
  simp only [scripted, StateT.run_modifyGet]
  rfl

theorem scripted_cases :
    (∃ e, answer 0 p.destination r.bytes = .error e ∧
        (p.publishVia (scripted answer) resource r).run [] =
          (.error e.toPublish, [⟨p.destination, r.bytes, .error e⟩])) ∨
      (∃ id, answer 0 p.destination r.bytes = .ok id ∧ p.isLegacy resource = false ∧
        (p.publishVia (scripted answer) resource r).run [] =
          (.ok (), [⟨p.destination, r.bytes, .ok id⟩])) ∨
      (∃ id, answer 0 p.destination r.bytes = .ok id ∧ p.isLegacy resource = true ∧
        (p.publishVia (scripted answer) resource r).run [] =
          (.ok (), [⟨p.destination, r.bytes, .ok id⟩,
            ⟨legacyDestination resource r.isCompleted, r.bytes,
              answer 1 (legacyDestination resource r.isCompleted) r.bytes⟩])) := by
  have h₀ : (scripted answer p.destination r.bytes).run [] =
      (answer 0 p.destination r.bytes, [⟨p.destination, r.bytes, answer 0 p.destination r.bytes⟩]) :=
    scripted_run answer _ _ []
  cases ha : answer 0 p.destination r.bytes with
  | error e =>
    rw [ha] at h₀
    exact .inl ⟨e, rfl, publishVia_shared_fails h₀⟩
  | ok id =>
    rw [ha] at h₀
    cases hl : p.isLegacy resource
    · exact .inr (.inl ⟨id, rfl, rfl, publishVia_not_legacy h₀ hl⟩)
    · exact .inr (.inr ⟨id, rfl, rfl, publishVia_legacy h₀ hl (scripted_run answer _ _ _)⟩)

theorem scripted_calls :
    ((p.publishVia (scripted answer) resource r).run []).2 =
      ⟨p.destination, r.bytes, answer 0 p.destination r.bytes⟩ ::
        if (answer 0 p.destination r.bytes).isOk && p.isLegacy resource then
          [⟨legacyDestination resource r.isCompleted, r.bytes,
            answer 1 (legacyDestination resource r.isCompleted) r.bytes⟩]
        else [] := by
  rcases scripted_cases answer p resource r with ⟨e, ha, hr⟩ | ⟨id, ha, hl, hr⟩ | ⟨id, ha, hl, hr⟩
  · simp [hr, ha, Except.isOk, Except.toBool]
  · simp [hr, ha, hl, Except.isOk, Except.toBool]
  · simp [hr, ha, hl, Except.isOk, Except.toBool]

theorem scripted_ok_iff :
    ((p.publishVia (scripted answer) resource r).run []).1 = .ok () ↔
      (answer 0 p.destination r.bytes).isOk := by
  rcases scripted_cases answer p resource r with ⟨e, ha, hr⟩ | ⟨id, ha, hl, hr⟩ | ⟨id, ha, hl, hr⟩ <;>
    simp [hr, ha, Except.isOk, Except.toBool]

theorem toPublish_is_publish (f : Fault) : ∃ why, f.toPublish = .publish why := by
  cases f <;> simp [Fault.toPublish]

theorem scripted_error {f : Fault} (h : ((p.publishVia (scripted answer) resource r).run []).1 = .error f) :
    ∃ why, f = .publish why := by
  rcases scripted_cases answer p resource r with ⟨e, ha, hr⟩ | ⟨id, ha, hl, hr⟩ | ⟨id, ha, hl, hr⟩ <;>
    rw [hr] at h
  · cases h
    exact toPublish_is_publish e
  · cases h
  · cases h

end Scripted

section Memory

theorem history_append (b : Broker) (q q' : String) (payload : List UInt8) :
    ((b.append q payload).2.stream q').history =
      (b.stream q').history ++ if q = q' then [payload] else [] := by
  by_cases h : q = q'
  · subst h
    simp [Broker.stream_append_self]
  · simp [Broker.stream_append_of_ne b payload (Ne.symm h), h]

theorem publishFailing_append (b : Broker) (q : String) (payload : List UInt8) :
    (b.append q payload).2.publishFailing = b.publishFailing := rfl

variable (p : Publisher) (resource : String) (r : Reply)

theorem publish_history {b : Broker} (h : b.publishFailing = false) :
    ∃ b', p.publish b resource r = .ok b' ∧ ∀ k, (b'.stream k).history =
      (b.stream k).history ++ (if p.destination.streamKey = k then [r.bytes] else []) ++
        if p.isLegacy resource = true ∧ (legacyDestination resource r.isCompleted).streamKey = k
        then [r.bytes] else [] := by
  -- the broker after each append, named so that unification does not unfold `append`
  let a₁ := b.append p.destination.streamKey r.bytes
  let a₂ := a₁.2.append (legacyDestination resource r.isCompleted).streamKey r.bytes
  have h₁ : b.publish p.destination r.bytes = .ok (a₁.1, a₁.2) := by simp [a₁, Broker.publish, h]
  cases hl : p.isLegacy resource
  · exact ⟨a₁.2, publish_not_legacy h₁ hl, fun k => by rw [history_append]; simp⟩
  · have h₂ : a₁.2.publish (legacyDestination resource r.isCompleted) r.bytes = .ok (a₂.1, a₂.2) := by
      simp [a₂, Broker.publish, a₁, publishFailing_append, h]
    exact ⟨a₂.2, publish_legacy_copied h₁ hl h₂, fun k => by rw [history_append, history_append]; simp⟩

end Memory

/-- Publishing, for every publisher, resource and result. Against any broker, the first call
appends the result's bytes to the shared destination; exactly when it succeeds and the resource
is legacy, a second call appends the same bytes to the legacy destination of the result's
outcome, and no other call is made. The publication succeeds exactly when the first call does,
whatever the second answers, and reports every failure as a publish fault. On the in-memory
broker this puts the bytes at the end of the shared destination's stream, then of the copy's;
with publishing off it fails at once, the broker untouched. -/
theorem shared_destination_is_authoritative (p : Publisher) (resource : String) (r : Reply)
    (answer : Nat → Destination → List UInt8 → Except Fault String) (b : Broker) :
    ((p.publishVia (scripted answer) resource r).run []).2 =
        ⟨p.destination, r.bytes, answer 0 p.destination r.bytes⟩ ::
          (if (answer 0 p.destination r.bytes).isOk && p.isLegacy resource then
            [⟨legacyDestination resource r.isCompleted, r.bytes,
              answer 1 (legacyDestination resource r.isCompleted) r.bytes⟩]
          else []) ∧
      (((p.publishVia (scripted answer) resource r).run []).1 = .ok () ↔
        (answer 0 p.destination r.bytes).isOk) ∧
      (∀ f, ((p.publishVia (scripted answer) resource r).run []).1 = .error f →
        ∃ why, f = .publish why) ∧
      (b.publishFailing = false → ∃ b', p.publish b resource r = .ok b' ∧ ∀ k,
        (b'.stream k).history =
          (b.stream k).history ++ (if p.destination.streamKey = k then [r.bytes] else []) ++
            if p.isLegacy resource = true ∧ (legacyDestination resource r.isCompleted).streamKey = k
            then [r.bytes] else []) ∧
      (b.publishFailing = true →
        p.publish b resource r = .error (.publish (p.destination.text ++ ": broker unreachable"))) :=
  ⟨scripted_calls answer p resource r, scripted_ok_iff answer p resource r,
    fun _ h => scripted_error answer p resource r h, publish_history p resource r,
    publish_failing p b resource r⟩

/-- A shared destination named like the copy channel of a legacy resource: the stream
`player-response:success` receives every completed result of `player` twice. -/
theorem legacy_copy_lands_on_shared_stream :
    ∃ b, ({ destination := ⟨"player-response", "success"⟩, legacy := ["player"] } : Publisher).publish
        {} "player" (Reply.completed "r" (.bool true) defaultSource ⟨0⟩) = .ok b ∧
      (b.stream "player-response:success").history.length = 2 := by
  obtain ⟨b, hb, hh⟩ := publish_history
    { destination := ⟨"player-response", "success"⟩, legacy := ["player"] } "player"
    (Reply.completed "r" (.bool true) defaultSource ⟨0⟩) (rfl : ({} : Broker).publishFailing = false)
  refine ⟨b, hb, ?_⟩
  rw [hh]
  decide

end Relay.Publisher
