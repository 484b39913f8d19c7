import Mathlib
import Relay.Broker.Basic
/-!
# What the broker does with the entries appended to it

Every entry ever appended to a queue is, after any run of a client's operations, in exactly
one place: waiting to be handed out (ready or requeued), handed out and not settled,
acknowledged, dead-lettered, or replayed out of the dead letters, replay having appended it
again under a new id (`Broker.Session.run_conserves_entries`). Entry numbers grow with every append,
so entry ids are unique. A run is any sequence of appends, receives, settlements of open
hand-outs, dead-letter replays and clock steps (`Op`); handing an entry out again without a
settlement (`Broker.redeliver`) is left out, as it puts one entry in two places on purpose.

Where an id stands is read off its `Tally`: how often it occurs among the waiting, the
unsettled and the dead-lettered entries, and the last settlement it had. Each operation moves
the tally of at most a few ids in a way its own lemma states, and the places are shapes of the
tally that no two share. The invariant `Conserved` is kept by every operation, each by its own
lemma, and so by every run.
-/
namespace Relay

/-! ## Ids -/

def idOf (n : Nat) : String := toString n ++ "-0"

theorem idOf_injective : Function.Injective idOf := by
  intro n m h
  have hl : (Nat.repr n).toList = (Nat.repr m).toList := by
    have := congrArg String.toList h
    simpa [idOf, Nat.toString_eq_repr] using this
  rw [Nat.toList_repr, Nat.toList_repr] at hl
  rw [← Nat.ofDigitChars_toDigits (b := 10) (n := n) (by decide) (by decide), hl,
    Nat.ofDigitChars_toDigits (by decide) (by decide)]

/-! ## Where an id stands in a stream -/

@[ext] structure Tally where
  waiting : Nat
  unsettled : Nat
  dead : Nat
  last : Option Outcome
  deriving DecidableEq, Repr

def Tally.unseen : Tally := ⟨0, 0, 0, none⟩

inductive Place where
  | waiting
  | handedOut
  | acked
  | deadLettered
  | replayed
  deriving DecidableEq, Repr

def Place.Fits : Place → Tally → Prop
  | .waiting, t => t.waiting = 1 ∧ t.unsettled = 0 ∧ t.dead = 0
  | .handedOut, t => t.waiting = 0 ∧ t.unsettled = 1 ∧ t.dead = 0
  | .acked, t => t.waiting = 0 ∧ t.unsettled = 0 ∧ t.dead = 0 ∧ t.last = some .ack
  | .deadLettered, t => t.waiting = 0 ∧ t.unsettled = 0 ∧ t.dead = 1 ∧ t.last = some .nackDiscard
  | .replayed, t => t.waiting = 0 ∧ t.unsettled = 0 ∧ t.dead = 0 ∧ t.last = some .nackDiscard

instance (p : Place) (t : Tally) : Decidable (p.Fits t) :=
  match p with
  | .waiting => inferInstanceAs (Decidable (_ ∧ _ ∧ _))
  | .handedOut => inferInstanceAs (Decidable (_ ∧ _ ∧ _))
  | .acked => inferInstanceAs (Decidable (_ ∧ _ ∧ _ ∧ _))
  | .deadLettered => inferInstanceAs (Decidable (_ ∧ _ ∧ _ ∧ _))
  | .replayed => inferInstanceAs (Decidable (_ ∧ _ ∧ _ ∧ _))

theorem Place.fits_unique {p q : Place} {t : Tally} (hp : p.Fits t) (hq : q.Fits t) : p = q := by
  cases p <;> cases q <;> simp_all [Fits]

theorem Place.ne_unseen {p : Place} {t : Tally} (hp : p.Fits t) : t ≠ Tally.unseen := by
  rintro rfl
  cases p <;> simp [Fits, Tally.unseen] at hp

namespace Tally

def Sound (t : Tally) : Prop := t = unseen ∨ ∃ p : Place, p.Fits t

variable {t t' : Tally}

theorem Sound.fits_waiting (h : t.Sound) (hw : 0 < t.waiting) : Place.waiting.Fits t := by
  rcases h with rfl | ⟨p, hp⟩
  · simp [unseen] at hw
  · cases p <;> simp_all [Place.Fits]

theorem Sound.fits_handedOut (h : t.Sound) (hu : 0 < t.unsettled) : Place.handedOut.Fits t := by
  rcases h with rfl | ⟨p, hp⟩
  · simp [unseen] at hu
  · cases p <;> simp_all [Place.Fits]

theorem Sound.fits_deadLettered (h : t.Sound) (hd : 0 < t.dead) : Place.deadLettered.Fits t := by
  rcases h with rfl | ⟨p, hp⟩
  · simp [unseen] at hd
  · cases p <;> simp_all [Place.Fits]

theorem Sound.waiting_le_one (h : t.Sound) : t.waiting ≤ 1 := by
  rcases Nat.eq_zero_or_pos t.waiting with hw | hw
  · omega
  · exact Nat.le_of_eq (h.fits_waiting hw).1

theorem Sound.handOut {k : Nat} (h : t.Sound) (hw : t'.waiting + k = t.waiting)
    (hu : t'.unsettled = t.unsettled + k) (hd : t'.dead = t.dead) (hl : t'.last = t.last) :
    t'.Sound ∧ (t' = unseen ↔ t = unseen) := by
  rcases Nat.eq_zero_or_pos k with rfl | hk
  · obtain rfl : t' = t := Tally.ext (by omega) (by omega) hd hl
    exact ⟨h, Iff.rfl⟩
  have hwt := h.fits_waiting (by omega)
  have hp : Place.handedOut.Fits t' := by
    simp only [Place.Fits] at hwt ⊢
    omega
  exact ⟨.inr ⟨_, hp⟩, iff_of_false (Place.ne_unseen hp) (Place.ne_unseen hwt)⟩

theorem Sound.replay {k : Nat} (h : t.Sound) (hd : t'.dead + k = t.dead)
    (hw : t'.waiting = t.waiting) (hu : t'.unsettled = t.unsettled) (hl : t'.last = t.last) :
    t'.Sound ∧ (t' = unseen ↔ t = unseen) := by
  rcases Nat.eq_zero_or_pos k with rfl | hk
  · obtain rfl : t' = t := Tally.ext hw hu (by omega) hl
    exact ⟨h, Iff.rfl⟩
  have hdt := h.fits_deadLettered (by omega)
  have hp : Place.replayed.Fits t' := by
    simp only [Place.Fits, hl] at hdt ⊢
    refine ⟨?_, ?_, ?_, hdt.2.2.2⟩ <;> omega
  exact ⟨.inr ⟨_, hp⟩, iff_of_false (Place.ne_unseen hp) (Place.ne_unseen hdt)⟩

theorem Sound.settle (o : Outcome) (h : t.Sound) (hu : 0 < t.unsettled) :
    Place.Fits (match o with | .ack => .acked | .nackDiscard => .deadLettered | .nackRequeue => .waiting)
      ⟨t.waiting + (if o = .nackRequeue then 1 else 0), 0,
        t.dead + (if o = .nackDiscard then 1 else 0), some o⟩ := by
  obtain ⟨h1, -, h3⟩ := h.fits_handedOut hu
  cases o <;> simp [Place.Fits, h1, h3]

end Tally

namespace Stream

def waitingIds (s : Stream) : List String := s.ready.map (·.id) ++ s.delayed.map (·.2.id)

def unsettledIds (s : Stream) : List String := s.unsettled.map (·.id)

def deadIds (s : Stream) : List String := s.dead.map (·.originalId)

def tally (s : Stream) (i : String) : Tally :=
  ⟨s.waitingIds.count i, s.unsettledIds.count i, s.deadIds.count i, s.lastSettled.lookup i⟩

def At (s : Stream) (i : String) (p : Place) : Prop := p.Fits (s.tally i)

/-! ## How each operation moves the tallies of one stream -/

theorem tally_ready_append (s : Stream) (h : List (List UInt8)) (ds : List Delivery) (i : String) :
    ({ s with history := h, ready := s.ready ++ ds } : Stream).tally i =
      { s.tally i with waiting := (s.tally i).waiting + (ds.map (·.id)).count i } := by
  simp only [tally, waitingIds, unsettledIds, deadIds, List.map_append, List.count_append]
  congr 1
  omega

theorem tally_promote (s : Stream) (now : Nat) (i : String) : (s.promote now).tally i = s.tally i := by
  have hperm : (s.promote now).waitingIds.Perm s.waitingIds := by
    simp only [waitingIds, promote, List.map_append, List.append_assoc]
    refine List.Perm.append_left _ ?_
    have h := (List.filter_append_perm (fun e : Nat × Delivery => decide (e.1 ≤ now))
      s.delayed).map (fun e => e.2.id)
    rw [List.map_append] at h
    rwa [List.map_map]
  simp only [tally, hperm.count_eq]
  rfl

theorem promote_perm (s : Stream) (now : Nat) :
    ((s.delayed.filter (·.1 ≤ now)).map (·.2) ++ (s.promote now).delayed.map (·.2)).Perm
      (s.delayed.map (·.2)) := by
  have h := (List.filter_append_perm (fun e : Nat × Delivery => decide (e.1 ≤ now))
    s.delayed).map (·.2)
  rwa [List.map_append] at h

/-- `s'` is `s` with `batch` handed out from the front of its waiting entries: the batch and
what stays ready are the ready entries followed by requeued ones that fell due, and the other
requeued ones are still delayed. -/
def HandsOut (s s' : Stream) (batch : List Delivery) : Prop :=
  s'.unsettled = s.unsettled ++ batch ∧
    ∃ due, batch ++ s'.ready = s.ready ++ due ∧
      (due ++ s'.delayed.map (·.2)).Perm (s.delayed.map (·.2))

theorem HandsOut.trans {s s₁ s₂ : Stream} {b₁ b₂ : List Delivery} (h₁ : s.HandsOut s₁ b₁)
    (h₂ : s₁.HandsOut s₂ b₂) : s.HandsOut s₂ (b₁ ++ b₂) := by
  obtain ⟨hu₁, due₁, hr₁, hp₁⟩ := h₁
  obtain ⟨hu₂, due₂, hr₂, hp₂⟩ := h₂
  refine ⟨by rw [hu₂, hu₁, List.append_assoc], due₁ ++ due₂, ?_, ?_⟩
  · calc b₁ ++ b₂ ++ s₂.ready = b₁ ++ (s₁.ready ++ due₂) := by rw [List.append_assoc, hr₂]
      _ = s.ready ++ (due₁ ++ due₂) := by rw [← List.append_assoc, hr₁, List.append_assoc]
  · have hp : (due₁ ++ due₂ ++ s₂.delayed.map (·.2)).Perm (due₁ ++ s₁.delayed.map (·.2)) := by
      rw [List.append_assoc]
      exact hp₂.append_left due₁
    exact hp.trans hp₁

theorem handOut_foldl : ∀ {s : Stream} {batch : List Delivery}, (batch.map (·.id)).Nodup →
    (∀ d ∈ batch, d.id ∉ s.unsettledIds) →
    batch.foldl handOut s = { s with unsettled := s.unsettled ++ batch }
  | s, [], _, _ => by simp
  | s, d :: ds, hn, hu => by
    have hd : s.unsettled.any (·.id == d.id) = false := by
      have := hu d List.mem_cons_self
      simpa [unsettledIds] using this
    have hstep : s.handOut d = { s with unsettled := s.unsettled ++ [d] } := by
      simp [handOut, hd]
    rw [List.foldl_cons, hstep, handOut_foldl (List.nodup_cons.mp hn).2]
    · simp
    · intro e he
      simp only [unsettledIds, List.map_append, List.mem_append, List.map_cons, List.map_nil,
        List.mem_singleton, not_or]
      refine ⟨hu e (List.mem_cons_of_mem d he), fun heq => ?_⟩
      have hm : d.id ∈ ds.map (·.id) := heq ▸ List.mem_map_of_mem he
      exact (List.nodup_cons.mp hn).1 hm

theorem handOut_take (s : Stream) (c : Nat) (hs : ∀ i, (s.tally i).Sound) :
    (s.ready.take c).foldl handOut { s with ready := s.ready.drop c } =
      { s with ready := s.ready.drop c, unsettled := s.unsettled ++ s.ready.take c } := by
  have hle : ∀ i, ((s.ready.take c).map (·.id)).count i ≤ (s.tally i).waiting := by
    intro i
    have hsub := ((List.take_sublist c s.ready).map (·.id)).count_le i
    simp only [tally, waitingIds, List.count_append]
    omega
  apply handOut_foldl
  · exact List.nodup_iff_count_le_one.mpr fun i => (hle i).trans (hs i).waiting_le_one
  · intro d hd
    have hw : 0 < (s.tally d.id).waiting :=
      Nat.lt_of_lt_of_le (List.count_pos_iff.mpr (List.mem_map_of_mem hd)) (hle d.id)
    exact List.count_eq_zero.mp ((hs d.id).fits_waiting hw).2.1

theorem tally_take (s : Stream) (c : Nat) (i : String) :
    let s' : Stream := { s with ready := s.ready.drop c, unsettled := s.unsettled ++ s.ready.take c }
    let k := ((s.ready.take c).map (·.id)).count i
    (s'.tally i).waiting + k = (s.tally i).waiting ∧
      (s'.tally i).unsettled = (s.tally i).unsettled + k ∧
      (s'.tally i).dead = (s.tally i).dead ∧ (s'.tally i).last = (s.tally i).last := by
  have hr : s.ready.map (·.id) = (s.ready.take c).map (·.id) ++ (s.ready.drop c).map (·.id) := by
    rw [← List.map_append, List.take_append_drop]
  simp only [tally, waitingIds, unsettledIds, deadIds, List.map_append, List.count_append, hr,
    and_true]
  omega

theorem tally_drop_dead (s : Stream) (c : Nat) (i : String) :
    let s' : Stream := { s with dead := s.dead.drop c }
    let k := ((s.dead.take c).map (·.originalId)).count i
    (s'.tally i).dead + k = (s.tally i).dead ∧ (s'.tally i).waiting = (s.tally i).waiting ∧
      (s'.tally i).unsettled = (s.tally i).unsettled ∧ (s'.tally i).last = (s.tally i).last := by
  have hd : s.dead.map (·.originalId) =
      (s.dead.take c).map (·.originalId) ++ (s.dead.drop c).map (·.originalId) := by
    rw [← List.map_append, List.take_append_drop]
  simp only [tally, waitingIds, unsettledIds, deadIds, hd, List.count_append, and_true]
  omega

theorem tally_append_ready (s : Stream) (h : List (List UInt8)) (d : Delivery) (i : String) :
    ({ s with history := h, ready := s.ready ++ [d] } : Stream).tally i =
      if d.id = i then { s.tally i with waiting := (s.tally i).waiting + 1 } else s.tally i := by
  rw [tally_ready_append]
  split
  · next h => simp [h]
  · next h => simp [h]

theorem count_filter_id (l : List Delivery) (x i : String) :
    ((l.filter (·.id != x)).map (·.id)).count i = if i = x then 0 else (l.map (·.id)).count i := by
  have hm : (l.filter (·.id != x)).map (·.id) = (l.map (·.id)).filter (· != x) :=
    (List.filter_map (f := (·.id)) (p := (· != x)) (l := l)).symm
  rw [hm]
  split
  · next h =>
    subst h
    exact List.count_eq_zero.mpr (by simp)
  · next h => exact List.count_filter (by simpa using h)

end Stream

theorem lookup_putEntry_of_ne {α : Type} {k k' : String} (v : α) (h : k' ≠ k) :
    ∀ l : List (String × α), (putEntry k v l).lookup k' = l.lookup k'
  | [] => by
    have hb : (k' == k) = false := by simp [h]
    simp [putEntry, List.lookup_cons, hb]
  | (k'', v'') :: rest => by
    by_cases hk : k'' = k
    · subst hk
      have hb : (k' == k'') = false := by simp [h]
      simp [putEntry, List.lookup_cons, hb]
    · have ih := lookup_putEntry_of_ne v h rest
      simp [putEntry, hk, List.lookup_cons, ih]

namespace Broker

variable (b : Broker)

@[simp] theorem lastId_setStream (q : String) (s : Stream) : (b.setStream q s).lastId = b.lastId :=
  rfl

theorem stream_setStream_of_ne {q q' : String} (s : Stream) (h : q' ≠ q) :
    (b.setStream q s).stream q' = b.stream q' := by
  simp [setStream, stream, lookup_putEntry_of_ne s h]

@[simp] theorem stream_nextId (q : String) : b.nextId.2.stream q = b.stream q := rfl

@[simp] theorem lastId_nextId : b.nextId.2.lastId = b.lastId + 1 := rfl

section Settle

variable (c : Clock) (d : Delivery) (o : Outcome) (reason : Option String)

@[simp] theorem lastId_settle : (b.settle c d o reason).lastId = b.lastId + 1 := by
  cases o <;> rfl

theorem stream_settle_of_ne {q : String} (h : q ≠ d.queue) :
    (b.settle c d o reason).stream q = b.stream q := by
  cases o <;> exact stream_setStream_of_ne _ _ h

theorem tally_settle_of_ne {i : String} (h : i ≠ d.id) :
    ((b.settle c d o reason).stream d.queue).tally i = (b.stream d.queue).tally i := by
  cases o <;>
    simp [settle, nextId, stream, setStream, lookup_putEntry, lookup_putEntry_of_ne _ h, Stream.tally,
      Stream.waitingIds, Stream.unsettledIds, Stream.deadIds, Stream.count_filter_id, h,
      Ne.symm h, DeadLetter.ofDelivery]

theorem tally_settle_self :
    ((b.settle c d o reason).stream d.queue).tally d.id =
      ⟨((b.stream d.queue).tally d.id).waiting + (if o = .nackRequeue then 1 else 0), 0,
        ((b.stream d.queue).tally d.id).dead + (if o = .nackDiscard then 1 else 0), some o⟩ := by
  cases o <;>
    simp [settle, nextId, stream, setStream, lookup_putEntry, Stream.tally, Stream.waitingIds,
      Stream.unsettledIds, Stream.deadIds, Stream.count_filter_id, DeadLetter.ofDelivery,
      Nat.add_assoc]

end Settle

theorem take_eq (q : String) (c now : Nat) (hs : ∀ i, ((b.stream q).tally i).Sound) :
    b.take q c now =
      (((b.stream q).promote now).ready.take c,
        b.setStream q { (b.stream q).promote now with
          ready := ((b.stream q).promote now).ready.drop c
          unsettled := ((b.stream q).promote now).unsettled ++
            ((b.stream q).promote now).ready.take c }) := by
  have hp : ∀ i, (((b.stream q).promote now).tally i).Sound := fun i => by
    rw [Stream.tally_promote]
    exact hs i
  simp only [take, Stream.handOut_take _ c hp]

theorem stream_append_self (q : String) (payload : List UInt8) :
    (b.append q payload).2.stream q =
      { b.stream q with
        history := (b.stream q).history ++ [payload]
        ready := (b.stream q).ready ++ [⟨idOf (b.lastId + 1), q, payload, 1⟩] } :=
  stream_setStream _ _ _

theorem stream_append_of_ne {q q' : String} (payload : List UInt8) (h : q' ≠ q) :
    (b.append q payload).2.stream q' = b.stream q' :=
  stream_setStream_of_ne _ _ h

end Broker

/-! ## The invariant -/

/-- What holds of a broker and the entries appended to it, each as its queue and the number of
its id, oldest first: the numbers grow, none is past the counter, every id a stream has seen
is at one place, and a stream has seen exactly the ids appended to it. -/
structure Conserved (b : Broker) (log : List (String × Nat)) : Prop where
  increasing : (log.map (·.2)).Pairwise (· < ·)
  bounded : ∀ e ∈ log, e.2 ≤ b.lastId
  sound : ∀ q i, ((b.stream q).tally i).Sound
  seen_iff : ∀ q i, (b.stream q).tally i ≠ Tally.unseen ↔ ∃ n, i = idOf n ∧ (q, n) ∈ log

namespace Conserved

variable {b b' : Broker} {log : List (String × Nat)}

theorem withDelay (delay : Span) : Conserved (Broker.withDelay delay) [] where
  increasing := List.Pairwise.nil
  bounded := by simp
  sound _ _ := .inl rfl
  seen_iff _ _ := by
    simp [Broker.withDelay, Broker.stream, Stream.tally, Stream.waitingIds, Stream.unsettledIds,
      Stream.deadIds, Tally.unseen]

theorem placed (h : Conserved b log) {e : String × Nat} (he : e ∈ log) :
    ∃ p, (b.stream e.1).At (idOf e.2) p := by
  have hseen : (b.stream e.1).tally (idOf e.2) ≠ Tally.unseen :=
    (h.seen_iff _ _).mpr ⟨e.2, rfl, he⟩
  rcases h.sound e.1 (idOf e.2) with hu | hp
  · exact absurd hu hseen
  · exact hp

theorem fresh (h : Conserved b log) (q : String) :
    (b.stream q).tally (idOf (b.lastId + 1)) = Tally.unseen := by
  by_contra hne
  obtain ⟨n, hn, hmem⟩ := (h.seen_iff q _).mp hne
  have hle := h.bounded _ hmem
  have heq := idOf_injective hn
  simp only at hle
  omega

theorem restream {q : String} (h : Conserved b log) (hlast : b.lastId ≤ b'.lastId)
    (hother : ∀ q', q' ≠ q → b'.stream q' = b.stream q')
    (hstep : ∀ i, ((b'.stream q).tally i).Sound ∧
      ((b'.stream q).tally i = Tally.unseen ↔ (b.stream q).tally i = Tally.unseen)) :
    Conserved b' log where
  increasing := h.increasing
  bounded e he := (h.bounded e he).trans hlast
  sound q' i := by
    by_cases hq : q' = q
    · subst hq
      exact (hstep i).1
    · rw [hother q' hq]
      exact h.sound q' i
  seen_iff q' i := by
    by_cases hq : q' = q
    · subst hq
      rw [← h.seen_iff, not_iff_not]
      exact (hstep i).2
    · rw [hother q' hq]
      exact h.seen_iff q' i

theorem append (h : Conserved b log) (q : String) (payload : List UInt8) :
    Conserved (b.append q payload).2 (log ++ [(q, b.lastId + 1)]) where
  increasing := by
    rw [List.map_append, List.pairwise_append]
    refine ⟨h.increasing, List.pairwise_singleton _ _, ?_⟩
    intro x hx y hy
    obtain ⟨e, he, rfl⟩ := List.mem_map.mp hx
    simp only [List.map_cons, List.map_nil, List.mem_singleton] at hy
    exact hy ▸ Nat.lt_succ_of_le (h.bounded e he)
  bounded e he := by
    rw [Broker.append_lastId]
    rcases List.mem_append.mp he with he | he
    · exact (h.bounded e he).trans (Nat.le_succ _)
    · simp only [List.mem_singleton] at he
      simp [he]
  sound q' i := by
    by_cases hq : q' = q
    · subst hq
      rw [Broker.stream_append_self, Stream.tally_append_ready]
      split
      · next hi =>
        -- the new id was unseen, so now it waits once
        subst hi
        rw [h.fresh]
        exact .inr ⟨.waiting, rfl, rfl, rfl⟩
      · exact h.sound q' i
    · rw [Broker.stream_append_of_ne _ _ hq]
      exact h.sound q' i
  seen_iff q' i := by
    by_cases hq : q' = q
    · subst hq
      rw [Broker.stream_append_self, Stream.tally_append_ready]
      split
      · next hi =>
        subst hi
        refine iff_of_true (fun h0 => ?_) ⟨b.lastId + 1, rfl, by simp⟩
        simpa [Tally.unseen] using congrArg Tally.waiting h0
      · next hi =>
        rw [h.seen_iff]
        constructor
        · rintro ⟨n, rfl, hn⟩
          exact ⟨n, rfl, List.mem_append_left _ hn⟩
        · rintro ⟨n, rfl, hn⟩
          rcases List.mem_append.mp hn with hn | hn
          · exact ⟨n, rfl, hn⟩
          · simp only [List.mem_singleton, Prod.mk.injEq, true_and] at hn
            exact absurd (hn ▸ rfl) hi
    · rw [Broker.stream_append_of_ne _ _ hq, h.seen_iff]
      simp [hq]

theorem take (h : Conserved b log) (q : String) (c now : Nat) :
    Conserved (b.take q c now).2 log := by
  rw [Broker.take_eq b q c now (h.sound q)]
  refine h.restream (Nat.le_refl _) (fun q' hq => Broker.stream_setStream_of_ne _ _ hq) fun i => ?_
  obtain ⟨hw, hu, hd, hl⟩ := Stream.tally_take ((b.stream q).promote now) c i
  have hs := h.sound q i
  rw [← Stream.tally_promote (b.stream q) now i] at hs ⊢
  rw [Broker.stream_setStream]
  exact hs.handOut hw hu hd hl

theorem receive (h : Conserved b log) (c : Clock) (q : String) (n : Nat) (block : Span) :
    Conserved (b.receive c q n block).2.1 log := by
  unfold Broker.receive
  split
  · exact ⟨h.increasing, h.bounded, h.sound, h.seen_iff⟩
  · have h1 := h.take q n c.mono
    rcases ht : b.take q n c.mono with ⟨batch, b1⟩
    rw [ht] at h1
    simp only
    split
    · exact h1
    · exact h1.take _ _ _

theorem settle (h : Conserved b log) (c : Clock) (d : Delivery) (o : Outcome)
    (reason : Option String) (hd : d.id ∈ (b.stream d.queue).unsettledIds) :
    Conserved (b.settle c d o reason) log := by
  refine h.restream (by simp) (fun q' hq => Broker.stream_settle_of_ne _ _ _ _ _ hq) fun i => ?_
  by_cases hi : i = d.id
  · subst hi
    have hu : 0 < ((b.stream d.queue).tally d.id).unsettled := List.count_pos_iff.mpr hd
    have hp := (h.sound d.queue d.id).settle o hu
    rw [Broker.tally_settle_self]
    refine ⟨.inr ⟨_, hp⟩, iff_of_false (Place.ne_unseen hp) fun h0 => ?_⟩
    simp [h0, Tally.unseen] at hu
  · rw [Broker.tally_settle_of_ne _ _ _ _ _ hi]
    exact ⟨h.sound _ _, Iff.rfl⟩

theorem dropDead (h : Conserved b log) (q : String) (c : Nat) :
    Conserved (b.setStream q { b.stream q with dead := (b.stream q).dead.drop c }) log := by
  refine h.restream (Nat.le_refl _) (fun q' hq => Broker.stream_setStream_of_ne _ _ hq) fun i => ?_
  obtain ⟨hd, hw, hu, hl⟩ := Stream.tally_drop_dead (b.stream q) c i
  rw [Broker.stream_setStream]
  exact (h.sound q i).replay hd hw hu hl

theorem append_foldl {α : Type} (h : Conserved b log) (q : String) (f : α → List UInt8)
    (xs : List α) :
    Conserved (xs.foldl (fun b x => (b.append q (f x)).2) b)
      (log ++ (List.range' (b.lastId + 1) xs.length).map (q, ·)) := by
  induction xs generalizing b log with
  | nil => simpa using h
  | cons x xs ih =>
    have hx := ih (h.append q (f x))
    rw [Broker.append_lastId, List.append_assoc] at hx
    simpa [List.range'_succ] using hx

theorem replay (h : Conserved b log) (q : String) (n : Nat) :
    Conserved (b.replayDeadLetters q n).2
      (log ++ (List.range' (b.lastId + 1) (b.replayDeadLetters q n).1).map (q, ·)) := by
  unfold Broker.replayDeadLetters
  split
  · simpa using h
  · next s hs =>
    have hsq : b.stream q = s := by simp [Broker.stream, hs]
    have h1 := h.dropDead q n
    rw [hsq] at h1
    exact h1.append_foldl q _ (s.dead.take n)

end Conserved

/-! ## Receiving, requeueing, discarding, recovering -/

namespace Broker

variable (b : Broker)

theorem take_handsOut (q : String) (c now : Nat) (hs : ∀ i, ((b.stream q).tally i).Sound) :
    (b.take q c now).1.length ≤ c ∧
      (b.stream q).HandsOut ((b.take q c now).2.stream q) (b.take q c now).1 := by
  rw [take_eq b q c now hs, stream_setStream]
  refine ⟨List.length_take_le _ _, rfl, _, List.take_append_drop _ _, ?_⟩
  exact Stream.promote_perm _ _

theorem receive_handsOut {log : List (String × Nat)} (h : Conserved b log) {c c' : Clock}
    {q : String} {n : Nat} {block : Span} {batch : List Delivery} {b' : Broker}
    (hr : b.receive c q n block = (.ok batch, b', c')) :
    batch.length ≤ n ∧ (b.stream q).HandsOut (b'.stream q) batch := by
  unfold receive at hr
  split at hr
  · cases hr
  · have h₁ := b.take_handsOut q n c.mono (h.sound q)
    have hc₁ := h.take q n c.mono
    rcases ht : b.take q n c.mono with ⟨batch₁, b₁⟩
    rw [ht] at h₁ hc₁
    simp only [ht] at hr
    split at hr
    · simp only [Prod.mk.injEq, Except.ok.injEq] at hr
      obtain ⟨rfl, rfl, -⟩ := hr
      exact h₁
    · next hne =>
      -- nothing was ready: the second look hands out what fell due while waiting
      have hnil : batch₁ = [] ∧ block.nanos ≠ 0 := by simpa using hne
      obtain ⟨rfl, -⟩ := hnil
      have h₂ := fun now => b₁.take_handsOut q n now (hc₁.sound q)
      simp only [Prod.mk.injEq, Except.ok.injEq] at hr
      obtain ⟨rfl, rfl, -⟩ := hr
      exact ⟨(h₂ _).1, h₁.2.trans (h₂ _).2⟩

theorem ready_after_requeue (c : Clock) (d : Delivery) (reason : Option String) {t : Nat}
    (ht : c.mono + b.redeliveryDelay.nanos ≤ t) :
    { d with count := d.count + 1 } ∈
      (((b.settle c d .nackRequeue reason).stream d.queue).promote t).ready := by
  simp [settle, nextId, stream_setStream, Stream.promote, ht]

theorem deadLetters_discard (c : Clock) (d : Delivery) (reason : Option String) :
    (b.settle c d .nackDiscard reason).deadLetters d.queue =
      b.deadLetters d.queue ++
        [DeadLetter.ofDelivery (idOf (b.lastId + 1)) d (reason.getD "discarded") c.wall] := by
  simp [settle, nextId, deadLetters, stream, setStream, lookup_putEntry, idOf]

theorem recover_eq (q : String) (n : Nat) :
    b.recover q n = (((b.stream q).unsettled.mergeSort
      fun x y => entrySequence x.id ≤ entrySequence y.id).take n).map
        fun d => { d with count := d.count + 1 } := by
  unfold recover stream
  split
  · next hs => simp [hs]
  · next s hs => simp [hs]

theorem recover_smallest (q : String) (n : Nat) :
    ∃ taken rest : List Delivery, (taken ++ rest).Perm (b.stream q).unsettled ∧
      b.recover q n = taken.map (fun d => { d with count := d.count + 1 }) ∧
      taken.length = min n (b.stream q).unsettled.length ∧
      taken.Pairwise (fun x y => entrySequence x.id ≤ entrySequence y.id) ∧
      ∀ x ∈ taken, ∀ y ∈ rest, entrySequence x.id ≤ entrySequence y.id := by
  let sorted := (b.stream q).unsettled.mergeSort fun x y => entrySequence x.id ≤ entrySequence y.id
  have hperm : sorted.Perm (b.stream q).unsettled := List.mergeSort_perm _ _
  have hsorted : sorted.Pairwise (fun x y => entrySequence x.id ≤ entrySequence y.id) := by
    have h : sorted.Pairwise fun x y => decide (entrySequence x.id ≤ entrySequence y.id) :=
      List.pairwise_mergeSort (fun _ _ _ hxy hyz => by simp only [decide_eq_true_eq] at *; omega)
        (fun x y => by simp only [Bool.or_eq_true, decide_eq_true_eq]; omega) _
    simpa using h
  rw [← List.take_append_drop n sorted, List.pairwise_append] at hsorted
  refine ⟨sorted.take n, sorted.drop n, (List.take_append_drop n sorted).symm ▸ hperm,
    b.recover_eq q n, by rw [List.length_take, hperm.length_eq], hsorted.1, ?_⟩
  exact fun x hx y hy => hsorted.2.2 x hx y hy

end Broker

/-! ## Runs -/

namespace Broker

inductive Op where
  | enqueue (queue : String) (payload : List UInt8)
  | publish (dest : Destination) (payload : List UInt8)
  | receive (queue : String) (count : Nat) (block : Span)
  | settle (d : Delivery) (o : Outcome) (reason : Option String)
  | replay (queue : String) (count : Nat)
  | sleep (span : Span)

structure Session where
  broker : Broker
  clock : Clock
  appended : List (String × Nat)

namespace Session

def start (delay : Span) (clock : Clock) : Session := ⟨Broker.withDelay delay, clock, []⟩

def step (s : Session) : Op → Session
  | .enqueue q payload =>
    ⟨(s.broker.append q payload).2, s.clock, s.appended ++ [(q, s.broker.lastId + 1)]⟩
  | .publish dest payload =>
    match s.broker.publish dest payload with
    | .ok (_, b) => ⟨b, s.clock, s.appended ++ [(dest.streamKey, s.broker.lastId + 1)]⟩
    | .error _ => s
  | .receive q n block =>
    let r := s.broker.receive s.clock q n block
    ⟨r.2.1, r.2.2, s.appended⟩
  | .settle d o reason => { s with broker := s.broker.settle s.clock d o reason }
  | .replay q n =>
    let r := s.broker.replayDeadLetters q n
    ⟨r.2, s.clock, s.appended ++ (List.range' (s.broker.lastId + 1) r.1).map (q, ·)⟩
  | .sleep span => { s with clock := s.clock.advance span }

def Allowed (s : Session) : Op → Prop
  | .settle d _ _ => d.id ∈ (s.broker.stream d.queue).unsettledIds
  | _ => True

instance (s : Session) (op : Op) : Decidable (s.Allowed op) :=
  match op with
  | .enqueue .. | .publish .. | .receive .. | .replay .. | .sleep .. => isTrue trivial
  | .settle d _ _ => inferInstanceAs (Decidable (d.id ∈ _))

def run (s : Session) (ops : List Op) : Session := ops.foldl step s

def Allows (s : Session) : List Op → Prop
  | [] => True
  | op :: ops => s.Allowed op ∧ (s.step op).Allows ops

instance decAllows (s : Session) : (ops : List Op) → Decidable (s.Allows ops)
  | [] => isTrue trivial
  | op :: ops =>
    have := decAllows (s.step op) ops
    inferInstanceAs (Decidable (s.Allowed op ∧ _))

def Conserved (s : Session) : Prop := Relay.Conserved s.broker s.appended

theorem Conserved.step {s : Session} {op : Op} (h : s.Conserved) (ha : s.Allowed op) :
    (s.step op).Conserved := by
  cases op with
  | enqueue q payload => exact Relay.Conserved.append h q payload
  | publish dest payload =>
    cases hf : s.broker.publishFailing
    · simp only [Session.step, Broker.publish, hf, Bool.false_eq_true, if_false]
      exact Relay.Conserved.append h _ payload
    · simpa only [Session.step, Broker.publish, hf, if_true] using h
  | receive q n block => exact Relay.Conserved.receive h s.clock q n block
  | settle d o reason => exact Relay.Conserved.settle h s.clock d o reason ha
  | replay q n => exact Relay.Conserved.replay h q n
  | sleep span => exact h

theorem Conserved.run {s : Session} (h : s.Conserved) :
    ∀ {ops : List Op}, s.Allows ops → (s.run ops).Conserved
  | [], _ => h
  | _ :: _, ⟨ha, hs⟩ => Conserved.run (h.step ha) hs

theorem conserved_start (delay : Span) (clock : Clock) : (start delay clock).Conserved :=
  Relay.Conserved.withDelay delay

/-- Whatever a client does, every entry appended to a queue is at exactly one place of it, the
entries' numbers grow in the order they were appended and their ids differ; a receive hands
out at most its count, from the front of the waiting entries; a requeued delivery is ready
again, counted once more, after the redelivery delay; a discarded one adds one dead letter;
and recovery, which changes nothing, gives the unsettled entries with the smallest sequence
numbers in ascending order. -/
theorem run_conserves_entries (delay : Span) (clock : Clock) (ops : List Op)
    (hops : (start delay clock).Allows ops) :
    let s := (start delay clock).run ops
    (∀ e ∈ s.appended, ∃! p, (s.broker.stream e.1).At (idOf e.2) p) ∧
    (s.appended.map (·.2)).Pairwise (· < ·) ∧
    (s.appended.map (idOf ·.2)).Nodup ∧
    (∀ q n block batch b' c', s.broker.receive s.clock q n block = (.ok batch, b', c') →
      batch.length ≤ n ∧ (s.broker.stream q).HandsOut (b'.stream q) batch) ∧
    (∀ d reason t, s.clock.mono + s.broker.redeliveryDelay.nanos ≤ t →
      { d with count := d.count + 1 } ∈
        (((s.broker.settle s.clock d .nackRequeue reason).stream d.queue).promote t).ready) ∧
    (∀ d reason, (s.broker.settle s.clock d .nackDiscard reason).deadLetters d.queue =
      s.broker.deadLetters d.queue ++
        [DeadLetter.ofDelivery (idOf (s.broker.lastId + 1)) d (reason.getD "discarded")
          s.clock.wall]) ∧
    (∀ q n, ∃ taken rest : List Delivery, (taken ++ rest).Perm (s.broker.stream q).unsettled ∧
      s.broker.recover q n = taken.map (fun d => { d with count := d.count + 1 }) ∧
      taken.length = min n (s.broker.stream q).unsettled.length ∧
      taken.Pairwise (fun x y => entrySequence x.id ≤ entrySequence y.id) ∧
      ∀ x ∈ taken, ∀ y ∈ rest, entrySequence x.id ≤ entrySequence y.id) := by
  intro s
  have h : s.Conserved := (conserved_start delay clock).run hops
  have hnum : (s.appended.map (·.2)).Nodup := h.increasing.imp Nat.ne_of_lt
  refine ⟨fun e he => ?_, h.increasing, ?_, fun q n block batch b' c' hr => ?_,
    fun d reason t ht => s.broker.ready_after_requeue s.clock d reason ht,
    fun d reason => s.broker.deadLetters_discard s.clock d reason,
    fun q n => s.broker.recover_smallest q n⟩
  · obtain ⟨p, hp⟩ := h.placed he
    exact ⟨p, hp, fun p' hp' => Place.fits_unique hp' hp⟩
  · have hmap := hnum.map idOf_injective
    rwa [List.map_map] at hmap
  · exact s.broker.receive_handsOut h hr

def orderOps : List Op :=
  [.enqueue "orders" [7], .enqueue "orders" [8], .receive "orders" 1 Span.zero,
    .settle ⟨idOf 1, "orders", [7], 1⟩ .ack none, .receive "orders" 1 Span.zero]

theorem run_conserves_entries_orders :
    (start Span.zero ⟨0, ⟨0⟩⟩).Allows orderOps ∧
      ((start Span.zero ⟨0, ⟨0⟩⟩).run orderOps).appended = [("orders", 1), ("orders", 2)] ∧
      ∀ e ∈ ((start Span.zero ⟨0, ⟨0⟩⟩).run orderOps).appended,
        ∃! p, (((start Span.zero ⟨0, ⟨0⟩⟩).run orderOps).broker.stream e.1).At (idOf e.2) p := by
  have ha : (start Span.zero ⟨0, ⟨0⟩⟩).Allows orderOps := by decide
  exact ⟨ha, by decide, (run_conserves_entries Span.zero ⟨0, ⟨0⟩⟩ orderOps ha).1⟩

end Session

end Broker

end Relay
