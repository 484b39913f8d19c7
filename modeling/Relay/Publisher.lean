import Relay.Broker.Basic
import Relay.Reply
/-!
# Publishing results

Every result goes to one shared destination, under the publisher's source. A resource marked
as legacy gets a copy as well, on `<resource>-response` with the routing key `success` or
`error`. The shared destination is the one that counts: when publishing there fails, the
result is not published and the failure is a publish fault; a failed copy is passed over.
-/
namespace Relay

def defaultSource : String := "rpc-bridge"

def legacyDestination (resource : String) (success : Bool) : Destination :=
  ⟨resource ++ "-response", if success then "success" else "error"⟩

def Fault.toPublish : Fault → Fault
  | .publish why => .publish why
  | f => .publish f.message

def Reply.bytes (r : Reply) : List UInt8 := r.encode.toUTF8.toList

def Broker.send (d : Destination) (bytes : List UInt8) : StateM Broker (Except Fault String) :=
  modifyGet fun b =>
    match b.publish d bytes with
    | .ok (id, b') => (.ok id, b')
    | .error f => (.error f, b)

structure Publisher where
  destination : Destination
  source : String := defaultSource
  legacy : List String := []
  deriving Repr

namespace Publisher

def isLegacy (p : Publisher) (resource : String) : Bool := p.legacy.contains resource

def completed (p : Publisher) (requestId : String) (data : Json) (now : Moment) : Reply :=
  Reply.completed requestId data p.source now

def failed (p : Publisher) (requestId error : String) (now : Moment) : Reply :=
  Reply.failed requestId error p.source now

/-- Publishes a result of a resource through a broker's `send`, which appends bytes to the
stream of a destination and answers the new entry's id, or fails. The copy for a legacy resource
is sent only once the shared destination has taken the result, and a failed copy is passed
over; any failure of the shared destination is told as a publish fault. -/
def publishVia {μ : Type → Type} [Monad μ] (send : Destination → List UInt8 → μ (Except Fault String))
    (p : Publisher) (resource : String) (r : Reply) : μ (Except Fault Unit) := do
  match ← send p.destination r.bytes with
  | .error f => pure (.error f.toPublish)
  | .ok _ =>
    if p.isLegacy resource then
      discard <| send (legacyDestination resource r.isCompleted) r.bytes
    pure (.ok ())

def publish (p : Publisher) (b : Broker) (resource : String) (r : Reply) : Except Fault Broker :=
  match (p.publishVia Broker.send resource r).run b with
  | (.ok (), b') => .ok b'
  | (.error f, _) => .error f

section Run

variable {σ : Type} {send : Destination → List UInt8 → StateM σ (Except Fault String)}
  {p : Publisher} {resource : String} {r : Reply} {s s₁ s₂ : σ} {id : String}

theorem publishVia_shared_fails {f : Fault} (h : (send p.destination r.bytes).run s = (.error f, s₁)) :
    (p.publishVia send resource r).run s = (.error f.toPublish, s₁) := by
  simp only [publishVia, StateT.run_bind, h]
  rfl

theorem publishVia_not_legacy (h : (send p.destination r.bytes).run s = (.ok id, s₁))
    (hl : p.isLegacy resource = false) : (p.publishVia send resource r).run s = (.ok (), s₁) := by
  simp only [publishVia, StateT.run_bind, h, hl]
  rfl

theorem publishVia_legacy {a : Except Fault String} (h : (send p.destination r.bytes).run s = (.ok id, s₁))
    (hl : p.isLegacy resource = true)
    (h₂ : (send (legacyDestination resource r.isCompleted) r.bytes).run s₁ = (a, s₂)) :
    (p.publishVia send resource r).run s = (.ok (), s₂) := by
  simp only [publishVia, StateT.run_bind, h, hl]
  exact congrArg (fun x => ((.ok () : Except Fault Unit), x.2)) h₂

end Run

section Calls

variable {p : Publisher} {b b₁ b₂ : Broker} {resource : String} {r : Reply} {id id₂ : String}

theorem send_run_ok {d : Destination} {bytes : List UInt8} (h : b.publish d bytes = .ok (id, b₁)) :
    (Broker.send d bytes).run b = (.ok id, b₁) := by
  simp only [Broker.send, StateT.run_modifyGet, h]
  rfl

theorem send_run_error {d : Destination} {bytes : List UInt8} {f : Fault}
    (h : b.publish d bytes = .error f) : (Broker.send d bytes).run b = (.error f, b) := by
  simp only [Broker.send, StateT.run_modifyGet, h]
  rfl

theorem publish_shared_fails {f : Fault} (h : b.publish p.destination r.bytes = .error f) :
    p.publish b resource r = .error f.toPublish := by
  rw [publish, publishVia_shared_fails (send_run_error h)]

theorem publish_not_legacy (h : b.publish p.destination r.bytes = .ok (id, b₁))
    (hl : p.isLegacy resource = false) : p.publish b resource r = .ok b₁ := by
  rw [publish, publishVia_not_legacy (send_run_ok h) hl]

theorem publish_legacy_copied (h : b.publish p.destination r.bytes = .ok (id, b₁))
    (hl : p.isLegacy resource = true)
    (h₂ : b₁.publish (legacyDestination resource r.isCompleted) r.bytes = .ok (id₂, b₂)) :
    p.publish b resource r = .ok b₂ := by
  rw [publish, publishVia_legacy (send_run_ok h) hl (send_run_ok h₂)]

theorem publish_legacy_fails {f : Fault} (h : b.publish p.destination r.bytes = .ok (id, b₁))
    (hl : p.isLegacy resource = true)
    (h₂ : b₁.publish (legacyDestination resource r.isCompleted) r.bytes = .error f) :
    p.publish b resource r = .ok b₁ := by
  rw [publish, publishVia_legacy (send_run_ok h) hl (send_run_error h₂)]

end Calls

theorem publish_failing (p : Publisher) (b : Broker) (resource : String) (r : Reply)
    (h : b.publishFailing = true) :
    p.publish b resource r = .error (.publish (p.destination.text ++ ": broker unreachable")) := by
  have hb : b.publish p.destination r.bytes =
      .error (.publish (p.destination.text ++ ": broker unreachable")) := by
    simp [Broker.publish, h]
  exact publish_shared_fails hb

end Publisher

end Relay
