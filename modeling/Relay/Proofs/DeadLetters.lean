import Mathlib
import Relay.Proofs.Conservation
import Relay.Proofs.Utf8
/-!
# Replaying dead letters

A discarded delivery becomes a dead letter of its queue, and the dead letter keeps the
delivery's bytes as text: each unit that starts no character becomes U+FFFD
(`Utf8.decodeLossy`). Replaying takes up to `n` of the oldest dead letters off the list and
appends the UTF-8 bytes of their texts to the queue again, each under a new id. The bytes that
come back are those of the lossy text, which are the discarded bytes exactly when these are valid
UTF-8 (`encode_decodeLossy_eq_iff`); other bytes come back changed.

Which bytes stand behind a queue's dead letters is followed along a run of a client's
operations by `Op.filed`: a discard on the queue files its delivery's bytes last, a replay of the
queue takes the oldest away. `Files` says that the dead letters hold the lossy texts of the filed
bytes, in order; every operation keeps it, and so every run.
-/
namespace Relay

namespace Utf8

theorem encode_decodeLossy_eq_iff (p : List UInt8) :
    encode (decodeLossy p) = p ↔ ∃ t : String, encode t = p := by
  constructor
  · intro h
    exact ⟨decodeLossy p, h⟩
  · rintro ⟨t, rfl⟩
    have ht : decodeLossy (encode t) = t := by
      rw [encode, toUTF8_toList, decodeLossy_encode, String.ofList_toList]
    rw [ht]

theorem decodeLossyList_of_bad {bs r : List UInt8} {k : Nat} (h : scan bs = some (.bad k r)) :
    decodeLossyList bs = '�' :: decodeLossyList r := by
  rw [decodeLossyList]
  split <;> simp_all

theorem decodeLossyList_nil : decodeLossyList [] = [] := by
  rw [decodeLossyList]
  rfl

end Utf8

namespace Broker

variable (b : Broker)

theorem foldl_handOut_dead (s : Stream) (l : List Delivery) : (l.foldl Stream.handOut s).dead = s.dead := by
  induction l generalizing s with
  | nil => rfl
  | cons d l ih => rw [List.foldl_cons, ih]; rfl

theorem deadLetters_setStream (q q' : String) (s : Stream) :
    (b.setStream q' s).deadLetters q = if q = q' then s.dead else b.deadLetters q := by
  by_cases h : q = q'
  · subst h
    simp [deadLetters, stream_setStream]
  · simp [deadLetters, stream_setStream_of_ne _ _ h, h]

theorem deadLetters_append (q q' : String) (payload : List UInt8) :
    (b.append q' payload).2.deadLetters q = b.deadLetters q := by
  by_cases h : q = q'
  · subst h
    simp [deadLetters, stream_append_self]
  · simp [deadLetters, stream_append_of_ne _ _ h]

theorem deadLetters_take (q q' : String) (c now : Nat) :
    (b.take q' c now).2.deadLetters q = b.deadLetters q := by
  rw [take, deadLetters_setStream, foldl_handOut_dead]
  split
  · next h => subst h; rfl
  · rfl

theorem deadLetters_receive (q q' : String) (c : Clock) (n : Nat) (block : Span) :
    (b.receive c q' n block).2.1.deadLetters q = b.deadLetters q := by
  unfold receive
  split
  · rfl
  · rcases ht : b.take q' n c.mono with ⟨batch, b₁⟩
    have h₁ : b₁.deadLetters q = b.deadLetters q := by rw [← deadLetters_take b q q' n c.mono, ht]
    simp only
    split
    · exact h₁
    · simp only [deadLetters_take, h₁]

theorem deadLetters_settle (q : String) (c : Clock) (d : Delivery) (o : Outcome)
    (reason : Option String) :
    (b.settle c d o reason).deadLetters q =
      if o = .nackDiscard ∧ d.queue = q then
        b.deadLetters q ++
          [DeadLetter.ofDelivery (idOf (b.lastId + 1)) d (reason.getD "discarded") c.wall]
      else b.deadLetters q := by
  by_cases hq : d.queue = q
  · subst hq
    cases o with
    | nackDiscard => simp [deadLetters_discard]
    | ack => simp [settle, deadLetters, stream_setStream]
    | nackRequeue => simp [settle, deadLetters, stream_setStream]
  · simp only [hq, and_false, if_false]
    exact congrArg Stream.dead (stream_settle_of_ne b c d o reason (Ne.symm hq))

/-! ## Appending one payload after another -/

def newEntries (q : String) (last : Nat) (payloads : List (List UInt8)) : List Delivery :=
  payloads.mapIdx fun i p => ⟨idOf (last + 1 + i), q, p, 1⟩

theorem newEntries_cons (q : String) (last : Nat) (p : List UInt8) (ps : List (List UInt8)) :
    newEntries q last (p :: ps) = ⟨idOf (last + 1), q, p, 1⟩ :: newEntries q (last + 1) ps := by
  have hid : (fun i (p : List UInt8) => (⟨idOf (last + 1 + (i + 1)), q, p, 1⟩ : Delivery)) =
      fun i p => ⟨idOf (last + 1 + 1 + i), q, p, 1⟩ := by
    funext i p
    rw [show last + 1 + (i + 1) = last + 1 + 1 + i by omega]
  simp only [newEntries, List.mapIdx_cons, Nat.add_zero, hid]

section Appends

variable {α : Type} (q : String) (f : α → List UInt8)

def appendAll (b : Broker) (xs : List α) : Broker := xs.foldl (fun b x => (b.append q (f x)).2) b

theorem appendAll_cons (x : α) (xs : List α) :
    b.appendAll q f (x :: xs) = (b.append q (f x)).2.appendAll q f xs := rfl

theorem stream_appendAll (xs : List α) :
    (b.appendAll q f xs).stream q =
      { b.stream q with
        history := (b.stream q).history ++ xs.map f
        ready := (b.stream q).ready ++ newEntries q b.lastId (xs.map f) } := by
  induction xs generalizing b with
  | nil => simp [appendAll, newEntries]
  | cons x xs ih =>
    rw [appendAll_cons, ih, stream_append_self, append_lastId, List.map_cons, newEntries_cons]
    simp

theorem deadLetters_appendAll (q' : String) (xs : List α) :
    (b.appendAll q f xs).deadLetters q' = b.deadLetters q' := by
  induction xs generalizing b with
  | nil => rfl
  | cons x xs ih => rw [appendAll_cons, ih, deadLetters_append]

end Appends

/-! ## Replay -/

theorem replayDeadLetters_eq (q : String) (n : Nat) (hq : b.deadLetters q ≠ []) :
    b.replayDeadLetters q n =
      (((b.deadLetters q).take n).length,
        (b.setStream q { b.stream q with dead := (b.deadLetters q).drop n }).appendAll q
          (fun e : DeadLetter => Utf8.encode e.payload) ((b.deadLetters q).take n)) := by
  unfold replayDeadLetters
  split
  · next hs => simp [deadLetters, stream, hs] at hq
  · next s hs =>
    have hsq : b.stream q = s := by simp [stream, hs]
    simp only [deadLetters, hsq]
    rfl

theorem replayDeadLetters_nil (q : String) (n : Nat) (hq : b.deadLetters q = []) :
    (b.replayDeadLetters q n).1 = 0 ∧ ∀ q', (b.replayDeadLetters q n).2.stream q' = b.stream q' := by
  unfold replayDeadLetters
  split
  · exact ⟨rfl, fun _ => rfl⟩
  · next s hs =>
    have hsq : b.stream q = s := by simp [stream, hs]
    have hdead : s.dead = [] := by rw [← hsq]; exact hq
    refine ⟨by simp [hdead], fun q' => ?_⟩
    -- the stream is put back as it was: nothing to drop, nothing to append
    have hput : ({ s with dead := [] } : Stream) = s := by
      cases s
      simp only at hdead
      simp [hdead]
    by_cases h : q' = q
    · subst h
      simp only [hdead, List.take_nil, List.drop_nil, List.foldl_nil, stream_setStream, hput, hsq]
    · simp [hdead, stream_setStream_of_ne _ _ h]

theorem replayDeadLetters_moves (q : String) (n : Nat) :
    let r := b.replayDeadLetters q n
    let moved := (b.deadLetters q).take n
    r.1 = min n (b.deadLetters q).length ∧
      r.2.deadLetters q = (b.deadLetters q).drop n ∧
      (r.2.stream q).history = (b.stream q).history ++ moved.map (Utf8.encode ·.payload) ∧
      (r.2.stream q).ready =
        (b.stream q).ready ++ newEntries q b.lastId (moved.map (Utf8.encode ·.payload)) := by
  intro r moved
  by_cases hq : b.deadLetters q = []
  · obtain ⟨h1, hs⟩ := b.replayDeadLetters_nil q n hq
    have hq' : (b.stream q).dead = [] := hq
    simp [r, moved, h1, hq', deadLetters, hs, newEntries]
  · have hr := b.replayDeadLetters_eq q n hq
    simp only [r, moved, hr, deadLetters_appendAll, stream_appendAll, deadLetters_setStream,
      stream_setStream, lastId_setStream, List.length_take, if_true, and_self]

theorem deadLetters_replay_of_ne {q q' : String} (h : q' ≠ q) (n : Nat) :
    (b.replayDeadLetters q n).2.deadLetters q' = b.deadLetters q' := by
  by_cases hq : b.deadLetters q = []
  · simp [deadLetters, (b.replayDeadLetters_nil q n hq).2]
  · rw [b.replayDeadLetters_eq q n hq, deadLetters_appendAll, deadLetters_setStream, if_neg h]

/-! ## The bytes behind the dead letters along a run -/

def Op.filed (q : String) (l : List (List UInt8)) : Op → List (List UInt8)
  | .settle d .nackDiscard _ => if d.queue = q then l ++ [d.payload] else l
  | .replay q' n => if q' = q then l.drop n else l
  | _ => l

def filedAfter (q : String) (ops : List Op) : List (List UInt8) := ops.foldl (Op.filed q) []

def Files (b : Broker) (q : String) (l : List (List UInt8)) : Prop :=
  (b.deadLetters q).map (·.payload) = l.map Utf8.decodeLossy

namespace Files

variable {b : Broker} {q : String} {l : List (List UInt8)}

theorem length_eq (h : Files b q l) : (b.deadLetters q).length = l.length := by
  simpa using congrArg List.length h

theorem settle (h : Files b q l) (c : Clock) (d : Delivery) (o : Outcome)
    (reason : Option String) :
    Files (b.settle c d o reason) q (Op.filed q l (.settle d o reason)) := by
  unfold Files at h ⊢
  rw [deadLetters_settle]
  cases o with
  | nackDiscard =>
    by_cases hq : d.queue = q
    · simp [Op.filed, hq, h, DeadLetter.ofDelivery]
    · simpa [Op.filed, hq] using h
  | ack => simpa [Op.filed] using h
  | nackRequeue => simpa [Op.filed] using h

theorem replay (h : Files b q l) (q' : String) (n : Nat) :
    Files (b.replayDeadLetters q' n).2 q (Op.filed q l (.replay q' n)) := by
  unfold Files at h ⊢
  by_cases hq : q' = q
  · subst hq
    rw [(b.replayDeadLetters_moves q' n).2.1]
    simp only [Op.filed, if_true, List.map_drop, h]
  · simpa [Op.filed, hq, b.deadLetters_replay_of_ne (Ne.symm hq)] using h

theorem step {s : Session} (h : Files s.broker q l) (op : Op) :
    Files (s.step op).broker q (Op.filed q l op) := by
  cases op with
  | enqueue q' payload => simpa [Session.step, Files, Op.filed, deadLetters_append] using h
  | publish dest payload =>
    rcases hp : s.broker.publish dest payload with _ | ⟨_, b'⟩
    · simpa [Session.step, hp, Op.filed] using h
    · have hb : b' = (s.broker.append dest.streamKey payload).2 := by
        unfold publish at hp
        split at hp
        · cases hp
        · cases hp; rfl
      simpa [Session.step, hp, Op.filed, Files, hb, deadLetters_append] using h
  | receive q' n block => simpa [Session.step, Files, Op.filed, deadLetters_receive] using h
  | settle d o reason => exact h.settle s.clock d o reason
  | replay q' n => exact h.replay q' n
  | sleep span => simpa [Session.step, Op.filed] using h

theorem run {s : Session} (h : Files s.broker q l) (ops : List Op) :
    Files (s.run ops).broker q (ops.foldl (Op.filed q) l) := by
  induction ops generalizing s l with
  | nil => exact h
  | cons op ops ih => exact ih (h.step op)

theorem start (delay : Span) (clock : Clock) : Files (Session.start delay clock).broker q [] := by
  simp [Files, Session.start, withDelay, deadLetters, stream]

end Files

theorem replay_appends_reencoded (delay : Span) (clock : Clock) (ops : List Op) (q : String)
    (n : Nat) :
    let b := ((Session.start delay clock).run ops).broker
    let r := b.replayDeadLetters q n
    let moved := (filedAfter q ops).take n
    (b.deadLetters q).map (·.payload) = (filedAfter q ops).map Utf8.decodeLossy ∧
      r.1 = min n (filedAfter q ops).length ∧
      r.2.deadLetters q = (b.deadLetters q).drop n ∧
      (r.2.stream q).history =
        (b.stream q).history ++ moved.map (Utf8.encode ∘ Utf8.decodeLossy) ∧
      (r.2.stream q).ready =
        (b.stream q).ready ++ newEntries q b.lastId (moved.map (Utf8.encode ∘ Utf8.decodeLossy)) := by
  intro b r moved
  have hf : Files b q (filedAfter q ops) := (Files.start delay clock).run ops
  obtain ⟨h1, h2, h3, h4⟩ := b.replayDeadLetters_moves q n
  -- the moved dead letters are the lossy texts of the first `n` filed bytes
  have hbytes : ((b.deadLetters q).take n).map (Utf8.encode ·.payload) =
      moved.map (Utf8.encode ∘ Utf8.decodeLossy) := by
    have htake : ((b.deadLetters q).take n).map (·.payload) = moved.map Utf8.decodeLossy := by
      rw [List.map_take, hf, ← List.map_take]
    calc ((b.deadLetters q).take n).map (Utf8.encode ·.payload)
        = (((b.deadLetters q).take n).map (·.payload)).map Utf8.encode := by rw [List.map_map]; rfl
      _ = moved.map (Utf8.encode ∘ Utf8.decodeLossy) := by rw [htake, List.map_map]
  exact ⟨hf, by rw [h1, hf.length_eq], h2, by rw [h3, hbytes], by rw [h4, hbytes]⟩

/-- Replay gives back the discarded bytes when they are text: after any run, if the bytes of the
deliveries discarded on `q` that replaying `n` dead letters moves are valid UTF-8, replay appends
exactly those bytes to `q`, oldest first and each as a first delivery under a new id, takes
exactly the `min n` oldest dead letters off the list, and answers how many it moved. -/
theorem replay_restores_discarded_bytes (delay : Span) (clock : Clock) (ops : List Op)
    (q : String) (n : Nat)
    (hvalid : ∀ p ∈ (filedAfter q ops).take n, ∃ t : String, Utf8.encode t = p) :
    let b := ((Session.start delay clock).run ops).broker
    let r := b.replayDeadLetters q n
    let moved := (filedAfter q ops).take n
    (b.deadLetters q).map (·.payload) = (filedAfter q ops).map Utf8.decodeLossy ∧
      r.1 = min n (b.deadLetters q).length ∧
      r.2.deadLetters q = (b.deadLetters q).drop n ∧
      (r.2.stream q).history = (b.stream q).history ++ moved ∧
      (r.2.stream q).ready = (b.stream q).ready ++ newEntries q b.lastId moved := by
  intro b r moved
  obtain ⟨hf, h1, h2, h3, h4⟩ := replay_appends_reencoded delay clock ops q n
  have hlen : (b.deadLetters q).length = (filedAfter q ops).length := Files.length_eq hf
  -- valid bytes read back as themselves, so re-encoding changes none of the moved ones
  have hback : moved.map (Utf8.encode ∘ Utf8.decodeLossy) = moved := by
    conv_rhs => rw [← List.map_id moved]
    apply List.map_congr_left
    intro p hp
    exact (Utf8.encode_decodeLossy_eq_iff p).2 (hvalid p hp)
  exact ⟨hf, by rw [h1, hlen], h2, by rw [h3, hback], by rw [h4, hback]⟩

/-- A discarded delivery with the text `hi` comes back as it was. -/
theorem replay_restores_discarded_bytes_text :
    let ops := [Op.settle ⟨"1-0", "orders", [104, 105], 1⟩ .nackDiscard none]
    (∀ p ∈ (filedAfter "orders" ops).take 1, ∃ t : String, Utf8.encode t = p) ∧
      let b := ((Session.start Span.zero ⟨0, ⟨0⟩⟩).run ops).broker
      let r := b.replayDeadLetters "orders" 1
      let moved := (filedAfter "orders" ops).take 1
      (b.deadLetters "orders").map (·.payload) =
          (filedAfter "orders" ops).map Utf8.decodeLossy ∧
        r.1 = min 1 (b.deadLetters "orders").length ∧
        r.2.deadLetters "orders" = (b.deadLetters "orders").drop 1 ∧
        (r.2.stream "orders").history = (b.stream "orders").history ++ moved ∧
        (r.2.stream "orders").ready = (b.stream "orders").ready ++ newEntries "orders" b.lastId moved := by
  intro ops
  have hvalid : ∀ p ∈ (filedAfter "orders" ops).take 1, ∃ t : String, Utf8.encode t = p := by
    intro p hp
    have hp' : p = [104, 105] := by simpa [ops, filedAfter, Op.filed] using hp
    refine ⟨String.ofList ['h', 'i'], ?_⟩
    rw [hp', Utf8.encode, Utf8.toUTF8_toList, String.toList_ofList]
    rfl
  exact ⟨hvalid, replay_restores_discarded_bytes Span.zero ⟨0, ⟨0⟩⟩ ops "orders" 1 hvalid⟩

/-- The byte `ff` starts no character: discarded, it is kept as U+FFFD, and replay appends the
three bytes of U+FFFD in its place. -/
theorem replay_changes_invalid_bytes :
    let ops := [Op.settle ⟨"1-0", "orders", [255], 1⟩ .nackDiscard none]
    let b := ((Session.start Span.zero ⟨0, ⟨0⟩⟩).run ops).broker
    filedAfter "orders" ops = [[255]] ∧
      ((b.replayDeadLetters "orders" 1).2.stream "orders").ready =
        [⟨idOf 2, "orders", [239, 191, 189], 1⟩] := by
  intro ops b
  have hfiled : filedAfter "orders" ops = [[255]] := by decide
  have hlossy : Utf8.encode (Utf8.decodeLossy [255]) = [239, 191, 189] := by
    have hscan : Utf8.scan [255] = some (.bad 1 []) := rfl
    rw [Utf8.decodeLossy, Utf8.decodeLossyList_of_bad hscan, Utf8.decodeLossyList_nil, Utf8.encode,
      Utf8.toUTF8_toList, String.toList_ofList]
    rfl
  obtain ⟨-, -, -, -, hready⟩ := replay_appends_reencoded Span.zero ⟨0, ⟨0⟩⟩ ops "orders" 1
  -- the settlement made stream `orders` with no ready entry and took number 1 of the counter
  have hb : (b.stream "orders").ready = [] ∧ b.lastId = 1 := by
    simp [b, ops, Session.run, Session.step, Session.start, withDelay, settle, stream_setStream]
    rfl
  refine ⟨hfiled, ?_⟩
  rw [hready, hfiled]
  change (b.stream "orders").ready ++ newEntries "orders" b.lastId _ = _
  simp [hb.1, hb.2, hlossy, newEntries, idOf]

end Broker

end Relay
