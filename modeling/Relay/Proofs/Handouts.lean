import Relay.Proofs.Conservation
/-!
# The entries a queue has handed out

A consumer of a queue works on the entries the broker handed out to it and has not seen
settled. What it may rely on is read off the broker's operations here: every entry a stream
holds is filed under that stream (`Broker.Filed`), recovery gives back only entries that are
out, each once, a read hands out entries that were waiting and none that was out, settling one
delivery closes its own hand-out and no other, and what others do with the broker (appends,
replays, clock steps, reads and settlements of other queues) leaves the queue's hand-outs alone.
-/
namespace Relay

namespace Stream

def entries (s : Stream) : List Delivery := s.ready ++ s.delayed.map (·.2) ++ s.unsettled

def FiledAs (s : Stream) (q : String) : Prop := ∀ d ∈ s.entries, d.queue = q

theorem mem_entries {s : Stream} {d : Delivery} :
    d ∈ s.entries ↔ d ∈ s.ready ∨ d ∈ s.delayed.map (·.2) ∨ d ∈ s.unsettled := by
  simp only [entries, List.mem_append, or_assoc]

theorem FiledAs.promote {s : Stream} {q : String} (h : s.FiledAs q) (now : Nat) :
    (s.promote now).FiledAs q := by
  intro d hd
  apply h
  have hdue : ∀ e : Nat × Delivery, e ∈ s.delayed.filter (fun e => decide (e.1 ≤ now)) ∨
      e ∈ s.delayed.filter (fun e => !decide (e.1 ≤ now)) → e ∈ s.delayed := by
    intro e he
    rcases he with he | he <;> exact List.mem_of_mem_filter he
  unfold Stream.promote at hd
  rw [mem_entries] at hd ⊢
  rcases hd with hr | hl | hu
  · rcases List.mem_append.mp hr with hr | hr
    · exact .inl hr
    · obtain ⟨e, he, rfl⟩ := List.mem_map.mp hr
      exact .inr (.inl (List.mem_map_of_mem (hdue e (.inl he))))
  · obtain ⟨e, he, rfl⟩ := List.mem_map.mp hl
    exact .inr (.inl (List.mem_map_of_mem (hdue e (.inr he))))
  · exact .inr (.inr hu)

theorem FiledAs.handOut {s : Stream} {q : String} (h : s.FiledAs q) {d : Delivery}
    (hd : d.queue = q) : (s.handOut d).FiledAs q := by
  intro e he
  simp only [Stream.handOut, mem_entries] at he
  rcases he with hr | hl | hu
  · exact h e (mem_entries.mpr (.inl hr))
  · exact h e (mem_entries.mpr (.inr (.inl hl)))
  · split at hu
    · obtain ⟨e', he', rfl⟩ := List.mem_map.mp hu
      split
      · exact hd
      · exact h e' (mem_entries.mpr (.inr (.inr he')))
    · rcases List.mem_append.mp hu with hu | hu
      · exact h e (mem_entries.mpr (.inr (.inr hu)))
      · rw [List.mem_singleton.mp hu]
        exact hd

theorem FiledAs.foldl_handOut {q : String} :
    ∀ {s : Stream} {batch : List Delivery}, s.FiledAs q → (∀ d ∈ batch, d.queue = q) →
      (batch.foldl Stream.handOut s).FiledAs q
  | _, [], h, _ => h
  | _, d :: ds, h, hb => by
    rw [List.foldl_cons]
    exact FiledAs.foldl_handOut (h.handOut (hb d List.mem_cons_self))
      fun e he => hb e (List.mem_cons_of_mem d he)

theorem unsettledIds_nodup {s : Stream} (hs : ∀ i, (s.tally i).Sound) : s.unsettledIds.Nodup := by
  refine List.nodup_iff_count_le_one.mpr fun i => ?_
  rcases Nat.eq_zero_or_pos (s.tally i).unsettled with h0 | hpos
  · have : s.unsettledIds.count i = 0 := h0
    omega
  · exact Nat.le_of_eq ((hs i).fits_handedOut hpos).2.1

theorem not_mem_unsettledIds_of_waiting {s : Stream} (hs : ∀ i, (s.tally i).Sound) {d : Delivery}
    (hd : d ∈ s.ready ∨ d ∈ s.delayed.map (·.2)) : d.id ∉ s.unsettledIds := by
  have hw : 0 < (s.tally d.id).waiting := by
    apply List.count_pos_iff.mpr
    simp only [waitingIds, List.mem_append]
    rcases hd with hd | hd
    · exact .inl (List.mem_map_of_mem hd)
    · obtain ⟨e, he, rfl⟩ := List.mem_map.mp hd
      exact .inr (List.mem_map_of_mem he)
  exact List.count_eq_zero.mp ((hs d.id).fits_waiting hw).2.1

end Stream

namespace Broker

def Filed (b : Broker) : Prop := ∀ q, (b.stream q).FiledAs q

variable {b b' : Broker}

theorem Filed.withDelay (delay : Span) : (Broker.withDelay delay).Filed := by
  intro q d hd
  simp [Broker.withDelay, stream, Stream.entries] at hd

theorem Filed.of_stream_eq (h : b.Filed) (he : ∀ q, b'.stream q = b.stream q) : b'.Filed :=
  fun q => he q ▸ h q

theorem Filed.setStream (h : b.Filed) {q : String} {s : Stream} (hs : s.FiledAs q) :
    (b.setStream q s).Filed := by
  intro q'
  by_cases hq : q' = q
  · subst hq
    rw [stream_setStream]
    exact hs
  · rw [stream_setStream_of_ne _ _ hq]
    exact h q'

theorem Filed.append (h : b.Filed) (q : String) (payload : List UInt8) : (b.append q payload).2.Filed := by
  have hn : b.nextId.2.Filed := h.of_stream_eq fun _ => rfl
  refine hn.setStream fun d hd => ?_
  · simp only [Stream.mem_entries, List.mem_append, List.mem_singleton] at hd
    rcases hd with (hr | rfl) | hl | hu
    · exact h q d (Stream.mem_entries.mpr (.inl hr))
    · rfl
    · exact h q d (Stream.mem_entries.mpr (.inr (.inl hl)))
    · exact h q d (Stream.mem_entries.mpr (.inr (.inr hu)))

theorem Filed.take (h : b.Filed) (q : String) (c now : Nat) : (b.take q c now).2.Filed := by
  have hp : ((b.stream q).promote now).FiledAs q := (h q).promote now
  refine h.setStream (Stream.FiledAs.foldl_handOut (fun d hd => ?_) fun d hd => ?_)
  · apply hp
    simp only [Stream.mem_entries] at hd ⊢
    rcases hd with hr | hl | hu
    · exact .inl (List.mem_of_mem_drop hr)
    · exact .inr (.inl hl)
    · exact .inr (.inr hu)
  · exact hp d (Stream.mem_entries.mpr (.inl (List.mem_of_mem_take hd)))

theorem Filed.receive (h : b.Filed) (c : Clock) (q : String) (n : Nat) (block : Span) :
    (b.receive c q n block).2.1.Filed := by
  unfold Broker.receive
  split
  · exact h.of_stream_eq fun _ => rfl
  · have h1 := h.take q n c.mono
    rcases ht : b.take q n c.mono with ⟨batch, b1⟩
    rw [ht] at h1
    simp only
    split
    · exact h1
    · exact h1.take _ _ _

theorem mem_entries_settle (c : Clock) (d : Delivery) (o : Outcome) (reason : Option String)
    {e : Delivery} (he : e ∈ ((b.settle c d o reason).stream d.queue).entries) :
    e ∈ (b.stream d.queue).entries ∨ e = { d with count := d.count + 1 } := by
  cases o <;>
    simp only [Broker.settle, nextId, stream, setStream, lookup_putEntry, Option.getD_some,
      Stream.mem_entries, List.map_append, List.mem_append, List.map_cons, List.map_nil,
      List.mem_singleton, List.mem_filter] at he ⊢
  all_goals tauto

theorem Filed.settle (h : b.Filed) (c : Clock) (d : Delivery) (o : Outcome) (reason : Option String) :
    (b.settle c d o reason).Filed := by
  intro q
  by_cases hq : q = d.queue
  · subst hq
    intro e he
    rcases mem_entries_settle c d o reason he with he | rfl
    · exact h _ e he
    · rfl
  · rw [stream_settle_of_ne _ _ _ _ _ hq]
    exact h q

theorem Filed.ensureQueue (h : b.Filed) (q : String) : (b.ensureQueue q).Filed := by
  unfold Broker.ensureQueue
  split
  · exact h.setStream (h q)
  · have hg : ({ b with groups := b.groups ++ [q] } : Broker).Filed := h.of_stream_eq fun _ => rfl
    exact hg.setStream (h q)

theorem Filed.foldl_append {α : Type} (q : String) (f : α → List UInt8) :
    ∀ (xs : List α) {b : Broker}, b.Filed → (xs.foldl (fun b e => (b.append q (f e)).2) b).Filed
  | [], _, hb => hb
  | x :: xs, _, hb => Filed.foldl_append q f xs (hb.append q (f x))

theorem Filed.replay (h : b.Filed) (q : String) (n : Nat) : (b.replayDeadLetters q n).2.Filed := by
  unfold Broker.replayDeadLetters
  split
  · exact h
  · next s hs =>
    have hq : s = b.stream q := by simp [stream, hs]
    subst hq
    exact Filed.foldl_append q _ _ (h.setStream fun d hd => h q d (by simpa [Stream.entries] using hd))

/-! ## What each operation does to the entries out -/

@[simp] theorem stream_ensureQueue (b : Broker) (q q' : String) :
    (b.ensureQueue q).stream q' = b.stream q' := by
  unfold Broker.ensureQueue
  by_cases hq : q' = q
  · subst hq
    split <;> exact stream_setStream _ _ _
  · split <;> exact stream_setStream_of_ne _ _ hq

@[simp] theorem lastId_ensureQueue (b : Broker) (q : String) : (b.ensureQueue q).lastId = b.lastId := by
  unfold Broker.ensureQueue
  split <;> rfl

theorem stream_take_of_ne (b : Broker) {q q' : String} (c now : Nat) (h : q' ≠ q) :
    (b.take q c now).2.stream q' = b.stream q' :=
  stream_setStream_of_ne _ _ h

theorem stream_receive_of_ne (b : Broker) (c : Clock) {q q' : String} (n : Nat) (block : Span)
    (h : q' ≠ q) : (b.receive c q n block).2.1.stream q' = b.stream q' := by
  unfold Broker.receive
  split
  · rfl
  · rcases ht : b.take q n c.mono with ⟨batch, b1⟩
    have h1 : b1.stream q' = b.stream q' := by
      rw [← stream_take_of_ne b n c.mono h, ht]
    simp only
    split
    · exact h1
    · rw [stream_take_of_ne _ _ _ h, h1]

theorem stream_receive_of_error (b : Broker) (c : Clock) (q : String) (n : Nat) (block : Span)
    {f : Fault} (h : (b.receive c q n block).1 = .error f) (q' : String) :
    (b.receive c q n block).2.1.stream q' = b.stream q' := by
  unfold Broker.receive at h ⊢
  split
  · rfl
  · next hn =>
    rw [if_neg hn] at h
    rcases ht : b.take q n c.mono with ⟨batch₁, b₁⟩
    simp only [ht] at h
    split at h <;> simp at h

theorem take_length_le (b : Broker) (q : String) (c now : Nat) : (b.take q c now).1.length ≤ c :=
  List.length_take_le _ _

theorem receive_length_le (b : Broker) (c : Clock) (q : String) (n : Nat) (block : Span)
    {batch : List Delivery} (h : (b.receive c q n block).1 = .ok batch) : batch.length ≤ n := by
  unfold Broker.receive at h
  split at h
  · cases h
  · rcases ht : b.take q n c.mono with ⟨batch₁, b₁⟩
    have h₁ : batch₁.length ≤ n := by
      have h₀ := b.take_length_le q n c.mono
      rwa [ht] at h₀
    simp only [ht] at h
    split at h
    · obtain rfl : batch₁ = batch := by simpa using h
      exact h₁
    · have h₂ := b₁.take_length_le q n (c.advance ⟨b₁.wakeTime q n c.mono (c.mono + block.nanos) - c.mono⟩).mono
      obtain rfl : (b₁.take q n (c.advance ⟨b₁.wakeTime q n c.mono (c.mono + block.nanos) - c.mono⟩).mono).1 = batch := by
        simpa using h
      exact h₂

@[simp] theorem unsettled_append (b : Broker) (q q' : String) (payload : List UInt8) :
    ((b.append q' payload).2.stream q).unsettled = (b.stream q).unsettled := by
  by_cases hq : q = q'
  · subst hq
    rw [stream_append_self]
  · rw [stream_append_of_ne _ _ hq]

theorem unsettled_foldl_append {α : Type} (q q' : String) (f : α → List UInt8) :
    ∀ (xs : List α) (b : Broker),
      ((xs.foldl (fun b e => (b.append q' (f e)).2) b).stream q).unsettled = (b.stream q).unsettled
  | [], _ => rfl
  | x :: xs, b => by
    rw [List.foldl_cons, unsettled_foldl_append q q' f xs, unsettled_append]

@[simp] theorem unsettled_replay (b : Broker) (q q' : String) (n : Nat) :
    ((b.replayDeadLetters q' n).2.stream q).unsettled = (b.stream q).unsettled := by
  unfold Broker.replayDeadLetters
  split
  · rfl
  · next s hs =>
    rw [unsettled_foldl_append]
    by_cases hq : q = q'
    · subst hq
      rw [stream_setStream]
      simp [stream, hs]
    · rw [stream_setStream_of_ne _ _ hq]

theorem mem_unsettledIds_settle_of_ne (b : Broker) (c : Clock) (d : Delivery) (o : Outcome)
    (reason : Option String) {i : String} (hi : i ≠ d.id) (q : String) :
    i ∈ ((b.settle c d o reason).stream q).unsettledIds ↔ i ∈ (b.stream q).unsettledIds := by
  by_cases hq : q = d.queue
  · subst hq
    have ht := congrArg Tally.unsettled (b.tally_settle_of_ne c d o reason hi)
    simp only [Stream.tally] at ht
    rw [← List.count_pos_iff, ← List.count_pos_iff, ht]
  · rw [stream_settle_of_ne _ _ _ _ _ hq]

namespace Op

def foreign (q : String) : Op → Bool
  | .receive q' _ _ => q' != q
  | .settle d _ _ => d.queue != q
  | _ => true

end Op

end Broker

namespace Conserved

variable {b : Broker} {log : List (String × Nat)}

theorem of_stream_eq {b' : Broker} (h : Conserved b log) (hs : ∀ q, b'.stream q = b.stream q)
    (hl : b.lastId ≤ b'.lastId) : Conserved b' log where
  increasing := h.increasing
  bounded e he := (h.bounded e he).trans hl
  sound q i := hs q ▸ h.sound q i
  seen_iff q i := hs q ▸ h.seen_iff q i

theorem ensureQueue (h : Conserved b log) (q : String) : Conserved (b.ensureQueue q) log :=
  h.of_stream_eq (Broker.stream_ensureQueue b q) (by simp)

theorem unsettledIds_nodup (h : Conserved b log) (q : String) : (b.stream q).unsettledIds.Nodup :=
  Stream.unsettledIds_nodup (h.sound q)

theorem recover_out (h : Conserved b log) (hf : b.Filed) (q : String) (n : Nat) :
    ((b.recover q n).map (·.id)).Nodup ∧
      ∀ d ∈ b.recover q n, d.queue = q ∧ d.id ∈ (b.stream q).unsettledIds := by
  obtain ⟨taken, rest, hperm, hrec, -⟩ := b.recover_smallest q n
  have hids : (b.recover q n).map (·.id) = taken.map (·.id) := by
    rw [hrec, List.map_map]
    rfl
  have hall : ((taken ++ rest).map (·.id)).Nodup :=
    (hperm.map fun d : Delivery => d.id).nodup_iff.mpr (h.unsettledIds_nodup q)
  rw [List.map_append] at hall
  refine ⟨hids ▸ (List.nodup_append.mp hall).1, fun d hd => ?_⟩
  rw [hrec] at hd
  obtain ⟨e, he, rfl⟩ := List.mem_map.mp hd
  have he' : e ∈ (b.stream q).unsettled := hperm.subset (List.mem_append_left rest he)
  refine ⟨hf q e (Stream.mem_entries.mpr (.inr (.inr he'))), ?_⟩
  show e.id ∈ (b.stream q).unsettled.map (·.id)
  exact List.mem_map_of_mem he'

theorem receive_out (h : Conserved b log) (hf : b.Filed) {c : Clock} {q : String} {n : Nat}
    {block : Span} {batch : List Delivery} (hr : (b.receive c q n block).1 = .ok batch) :
    (batch.map (·.id)).Nodup ∧ (∀ d ∈ batch, d.queue = q ∧ d.id ∉ (b.stream q).unsettledIds) ∧
      ((b.receive c q n block).2.1.stream q).unsettledIds =
        (b.stream q).unsettledIds ++ batch.map (·.id) := by
  have hc := h.receive c q n block
  rcases hres : b.receive c q n block with ⟨r, b', c'⟩
  rw [hres] at hr hc
  subst hr
  obtain ⟨-, hu, due, hready, hdue⟩ := Broker.receive_handsOut b h hres
  have hids : (b'.stream q).unsettledIds = (b.stream q).unsettledIds ++ batch.map (·.id) := by
    simp only [Stream.unsettledIds, hu, List.map_append]
  refine ⟨?_, fun d hd => ?_, hids⟩
  · have hn := hc.unsettledIds_nodup q
    rw [hids] at hn
    exact (List.nodup_append.mp hn).2.1
  · have hw : d ∈ (b.stream q).ready ∨ d ∈ (b.stream q).delayed.map (·.2) := by
      have hm : d ∈ (b.stream q).ready ++ due := hready ▸ List.mem_append_left _ hd
      rcases List.mem_append.mp hm with hm | hm
      · exact .inl hm
      · exact .inr (hdue.subset (List.mem_append_left _ hm))
    refine ⟨hf q d (Stream.mem_entries.mpr ?_), Stream.not_mem_unsettledIds_of_waiting (h.sound q) hw⟩
    rcases hw with hw | hw
    · exact .inl hw
    · exact .inr (.inl hw)

end Conserved

namespace Broker.Session

variable {s : Session}

theorem filed_step (h : s.broker.Filed) : ∀ op : Op, (s.step op).broker.Filed
  | .enqueue q payload => h.append q payload
  | .publish dest payload => by
    cases hf : s.broker.publishFailing
    · simp only [Session.step, Broker.publish, hf, Bool.false_eq_true, if_false]
      exact h.append _ payload
    · simpa only [Session.step, Broker.publish, hf, if_true] using h
  | .receive q n block => h.receive s.clock q n block
  | .settle d o reason => h.settle s.clock d o reason
  | .replay q n => h.replay q n
  | .sleep _ => h

theorem filed_run (h : s.broker.Filed) : ∀ ops : List Op, (s.run ops).broker.Filed := by
  intro ops
  induction ops generalizing s with
  | nil => exact h
  | cons op ops ih => exact ih (filed_step h op)

theorem unsettled_step_foreign {op : Op} {q : String} (hop : op.foreign q = true) :
    ((s.step op).broker.stream q).unsettled = (s.broker.stream q).unsettled := by
  cases op with
  | enqueue q' payload => exact Broker.unsettled_append _ _ _ _
  | publish dest payload =>
    cases hf : s.broker.publishFailing
    · simp only [Session.step, Broker.publish, hf, Bool.false_eq_true, if_false]
      exact Broker.unsettled_append _ _ _ _
    · simp only [Session.step, Broker.publish, hf, if_true]
  | receive q' n block =>
    have hq : q ≠ q' := fun e => by simp [Op.foreign, e] at hop
    exact congrArg Stream.unsettled (Broker.stream_receive_of_ne _ _ _ _ hq)
  | settle d o reason =>
    have hq : q ≠ d.queue := fun e => by simp [Op.foreign, e] at hop
    exact congrArg Stream.unsettled (Broker.stream_settle_of_ne _ _ _ _ _ hq)
  | replay q' n => exact Broker.unsettled_replay _ _ _ _
  | sleep span => rfl

end Broker.Session

end Relay
