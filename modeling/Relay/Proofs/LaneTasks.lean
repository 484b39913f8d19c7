import Relay.Proofs.Handouts
import Relay.Subscription.Loop
/-!
# The read loop of a subscription and its lanes

A subscription reads its queue in one task and handles each delivery in a lane task of its
own. Lanes are counted by a semaphore of `concurrency` permits: the read loop takes a permit
before it reads and passes it to the lane of the first entry it gets, takes one for each other
entry it hands out, and a lane gives its permit back, and lets go of its entry's id, once it
has settled its delivery. Before it reads the first time, and again after each failure it
rests from, the loop takes back the entries it was handed and never settled; from time to time
it claims entries left unsettled too long. Both lists are first cleared of the entries a lane
holds. Any call to the broker may fail, a read may find the group gone, and the count of
failures in a row is a 32-bit one.

A step (`Tasks.step`) is one task's run from one await to the next, and any task may be the
next to run; anyone else may use the broker between two steps. On a runtime that runs one task
at a time with the in-memory broker, as the bridge's tests do, the loop looks at the lanes in
the run that brings the broker's answer; on one that runs lanes in parallel, as the bridge's
service does, a lane may settle and let go of its id in between (`Point.filtering`), and an
entry can then be settled twice (`settles_twice_on_parallel_lanes`). `Tasks.Moves` says what one step
can do. The permits are conserved on either runtime (`Tasks.Ceiling`); every lane works on an
open hand-out only on the first (`Tasks.Open`).
-/
namespace Relay.Subscription

namespace Tasks

inductive Runtime where
  | currentThread
  | multiThread
  deriving DecidableEq, Repr

inductive Source where
  | recovered
  | claimed
  | received
  deriving DecidableEq, Repr

inductive Point where
  | opening
  | recovering
  | filtering (src : Source) (ds : List Delivery)
  | handing (src : Source) (rest : List Delivery)
  | top
  | claiming (count : Nat)
  | acquiring
  | receiving (count : Nat)
  | regrouping
  | resting
  | draining
  | stopped
  | crashed
  deriving DecidableEq, Repr

def Point.held : Point → Nat
  | .receiving _ => 1
  | _ => 0

/-- The permits the loop will need, without waiting, for the entries it asked for or holds: one
for each entry of a read but the first, which takes the permit the loop holds; one for each
entry of a claim; one for each entry read or claimed that waits for a lane. -/
def Point.wants : Point → Nat
  | .receiving count => count - 1
  | .claiming count => count
  | .filtering .recovered _ | .handing .recovered _ => 0
  | .filtering _ ds | .handing _ ds => ds.length
  | _ => 0

def Point.queued : Point → Bool
  | .filtering .. | .handing .. => true
  | _ => false

def Source.next : Source → Point
  | .recovered => .top
  | .claimed => .acquiring
  | .received => .top

def Source.stopAt : Source → Point
  | .recovered => .draining
  | .claimed => .acquiring
  | .received => .top

end Tasks

structure Tasks where
  config : Config
  session : Broker.Session
  available : Nat
  lanes : List Delivery
  point : Tasks.Point
  stopping : Bool
  retries : Nat
  runtime : Tasks.Runtime

namespace Tasks

inductive Move where
  | run
  | claim
  | claimed (answer : Option (List Delivery))
  | settle (d : Delivery) (o : Outcome) (reason : Option String)
  | stop
  | other (op : Broker.Op)
  | faults (n : Nat) (publishFailing : Bool)
  | outage (o : Outage)

def start (c : Config) (s : Broker.Session) (rt : Runtime := .currentThread) : Tasks :=
  ⟨c, s, c.concurrency, [], .opening, false, 0, rt⟩

variable (k : Tasks)

def holds (id : String) : Bool := k.lanes.any (·.id == id)

def unheld (ds : List Delivery) : List Delivery := ds.filter fun d => !k.holds d.id

def Out (d : Delivery) : Prop :=
  d.queue = k.config.queue ∧ d.id ∈ (k.session.broker.stream k.config.queue).unsettledIds

def claimable (count : Nat) (ds : List Delivery) : Bool :=
  decide (ds.length ≤ count) && decide (ds.map (·.id)).Nodup &&
    ds.all fun d => d.queue == k.config.queue &&
      (k.session.broker.stream k.config.queue).unsettledIds.contains d.id

def call (kind : Call) : Option Fault × Tasks :=
  ((k.session.broker.answer kind).1,
    { k with session := { k.session with broker := (k.session.broker.answer kind).2 } })

def ensure : Tasks :=
  { k with session := { k.session with broker := k.session.broker.ensureQueue k.config.queue } }

/-- The loop clears the broker's answer `ds` from `src` of the entries lanes hold: in the same
run on a runtime that runs one task at a time, at its next step on one that runs lanes in
parallel. -/
def look (src : Source) (ds : List Delivery) : Tasks :=
  match k.runtime with
  | .currentThread => { k with point := .handing src (k.unheld ds) }
  | .multiThread => { k with point := .filtering src ds }

def dispatch (d : Delivery) : Tasks := { k with available := k.available - 1, lanes := k.lanes ++ [d] }

def crash : Tasks := { k with available := k.available + k.lanes.length, lanes := [], point := .crashed }

/-- After a failed call: one more failure in a row; the loop rests if its retry policy allows
that many and drains otherwise, and panics counting past the greatest 32-bit count. -/
def fail : Tasks :=
  if k.retries < RetryPolicy.maxRetries then
    { k with
      retries := k.retries + 1
      point := if k.config.effectiveRetry.allows (k.retries + 1) then .resting else .draining }
  else k.crash

def answer (count : Nat) : Except Fault (List Delivery) :=
  (k.session.broker.receive k.session.clock k.config.queue count k.config.block).1

def afterRead (count : Nat) : Tasks :=
  { k with session := k.session.step (.receive k.config.queue count k.config.block) }

/-- A read of `count` entries that the broker answers. Its first entry goes to a lane on the
permit the loop holds, and the others wait for theirs; an empty read gives the permit back; a
failed read gives it back and counts one more failure. -/
def receive (count : Nat) : Tasks :=
  match k.answer count with
  | .ok [] => { k.afterRead count with available := k.available + 1, point := .top, retries := 0 }
  | .ok (d :: rest) =>
    { k.afterRead count with lanes := k.lanes ++ [d], point := .handing .received rest, retries := 0 }
  | .error _ => { k.afterRead count with available := k.available + 1 }.fail

/-- A read of `count` entries: the network may fail it, with the group gone or otherwise, and a
deadline past the end of the clock panics; each gives the loop's permit back. Otherwise the
broker answers it. -/
def read (count : Nat) : Tasks :=
  match k.call .receive with
  | (some f, k₁) =>
    if f.isNoGroup then { k₁ with available := k₁.available + 1, point := .regrouping }
    else { k₁ with available := k₁.available + 1 }.fail
  | (none, k₁) =>
    match k₁.session.broker.receivePanic? k₁.session.clock k₁.config.block with
    | some _ => { k₁ with available := k₁.available + 1 }.crash
    | none => k₁.receive count

/-- The read loop runs on to its next await; `none` while it waits, for a free lane or for the
broker's answer to a claim, and once it has stopped or crashed. -/
def advance : Option Tasks :=
  match k.point with
  | .opening =>
    match k.call .ensureQueue with
    | (some _, k₁) => some k₁.fail
    | (none, k₁) => some { k₁.ensure with point := .recovering }
  | .recovering =>
    match k.call .recover with
    | (some _, k₁) => some k₁.fail
    | (none, k₁) =>
      some (k₁.look .recovered (k₁.session.broker.recover k₁.config.queue Loop.recoverBatch))
  | .filtering src ds => some { k with point := .handing src (k.unheld ds) }
  | .handing src [] => some { k with point := src.next }
  | .handing src (d :: rest) =>
    if 0 < k.available then some { k.dispatch d with point := .handing src rest }
    else if k.stopping then some { k with point := src.stopAt }
    else none
  | .top => some { k with point := if k.stopping then .draining else .acquiring }
  | .claiming _ => none
  | .acquiring =>
    if 0 < k.available then
      some { k with available := k.available - 1, point := .receiving k.available }
    else if k.stopping then some { k with point := .draining }
    else none
  | .receiving count => some (k.read count)
  | .regrouping =>
    match k.call .ensureQueue with
    | (some _, k₁) => some k₁.fail
    | (none, k₁) => some { k₁.ensure with point := .top }
  | .resting => some { k with point := if k.stopping then .draining else .opening }
  | .draining =>
    -- the lanes still under way when the drain span is over are broken off
    some { k with available := k.available + k.lanes.length, lanes := [], point := .stopped }
  | .stopped | .crashed => none

def step : Move → Option Tasks
  | .run => k.advance
  | .claim =>
    if k.point = .top ∧ k.stopping = false ∧ 0 < k.available then
      some { k with point := .claiming k.available }
    else none
  | .claimed answer =>
    match k.point, answer with
    | .claiming _, none => some { k with point := .acquiring }
    | .claiming count, some ds => if k.claimable count ds then some (k.look .claimed ds) else none
    | _, _ => none
  | .settle d o reason =>
    if d ∈ k.lanes then
      some { k with
        session := k.session.step (.settle d o reason)
        lanes := k.lanes.erase d
        available := k.available + 1 }
    else none
  | .stop => some { k with stopping := true }
  | .other op =>
    if op.foreign k.config.queue = true ∧ k.session.Allowed op then
      some { k with session := k.session.step op }
    else none
  | .faults n p =>
    some { k with
      session := { k.session with
        broker := { k.session.broker with failingReceives := n, publishFailing := p } } }
  | .outage o =>
    some { k with session := { k.session with broker := { k.session.broker with outage := o } } }

inductive Moves : Tasks → Prop
  | open_ {k₁ : Tasks} (hp : k.point = .opening) (hc : k.call .ensureQueue = (none, k₁)) :
    Moves { k₁.ensure with point := .recovering }
  | recover {k₁ : Tasks} (hp : k.point = .recovering) (hc : k.call .recover = (none, k₁)) :
    Moves (k₁.look .recovered (k₁.session.broker.recover k₁.config.queue Loop.recoverBatch))
  | regroup {k₁ : Tasks} (hp : k.point = .regrouping) (hc : k.call .ensureQueue = (none, k₁)) :
    Moves { k₁.ensure with point := .top }
  | callFailed {kind : Call} {f : Fault} {k₁ : Tasks}
      (hp : k.point = .opening ∧ kind = .ensureQueue ∨ k.point = .recovering ∧ kind = .recover ∨
        k.point = .regrouping ∧ kind = .ensureQueue)
      (hc : k.call kind = (some f, k₁)) :
    Moves k₁.fail
  | filter {src : Source} {ds : List Delivery} (hp : k.point = .filtering src ds) :
    Moves { k with point := .handing src (k.unheld ds) }
  | handed {src : Source} (hp : k.point = .handing src []) : Moves { k with point := src.next }
  | dispatch {src : Source} {d : Delivery} {rest : List Delivery}
      (hp : k.point = .handing src (d :: rest)) (ha : 0 < k.available) :
    Moves { k.dispatch d with point := .handing src rest }
  | leave {src : Source} {d : Delivery} {rest : List Delivery}
      (hp : k.point = .handing src (d :: rest)) (ha : k.available = 0) (hs : k.stopping = true) :
    Moves { k with point := src.stopAt }
  | top (hp : k.point = .top) :
    Moves { k with point := if k.stopping then .draining else .acquiring }
  | claim (hp : k.point = .top) (hs : k.stopping = false) (ha : 0 < k.available) :
    Moves { k with point := .claiming k.available }
  | claimFailed {count : Nat} (hp : k.point = .claiming count) : Moves { k with point := .acquiring }
  | claimed {count : Nat} {ds : List Delivery} (hp : k.point = .claiming count)
      (hc : k.claimable count ds = true) :
    Moves (k.look .claimed ds)
  | acquire (hp : k.point = .acquiring) (ha : 0 < k.available) :
    Moves { k with available := k.available - 1, point := .receiving k.available }
  | giveUp (hp : k.point = .acquiring) (ha : k.available = 0) (hs : k.stopping = true) :
    Moves { k with point := .draining }
  | readLost {count : Nat} {f : Fault} {k₁ : Tasks} (hp : k.point = .receiving count)
      (hc : k.call .receive = (some f, k₁)) (hg : f.isNoGroup = false) :
    Moves { k₁ with available := k₁.available + 1 }.fail
  | readNoGroup {count : Nat} {f : Fault} {k₁ : Tasks} (hp : k.point = .receiving count)
      (hc : k.call .receive = (some f, k₁)) (hg : f.isNoGroup = true) :
    Moves { k₁ with available := k₁.available + 1, point := .regrouping }
  | readPanic {count : Nat} {k₁ : Tasks} {p : Panic} (hp : k.point = .receiving count)
      (hc : k.call .receive = (none, k₁))
      (hn : k₁.session.broker.receivePanic? k₁.session.clock k₁.config.block = some p) :
    Moves { k₁ with available := k₁.available + 1 }.crash
  | readEmpty {count : Nat} {k₁ : Tasks} (hp : k.point = .receiving count)
      (hc : k.call .receive = (none, k₁))
      (hn : k₁.session.broker.receivePanic? k₁.session.clock k₁.config.block = none)
      (hr : k₁.answer count = .ok []) :
    Moves { k₁.afterRead count with available := k₁.available + 1, point := .top, retries := 0 }
  | readSome {count : Nat} {k₁ : Tasks} {d : Delivery} {rest : List Delivery}
      (hp : k.point = .receiving count) (hc : k.call .receive = (none, k₁))
      (hn : k₁.session.broker.receivePanic? k₁.session.clock k₁.config.block = none)
      (hr : k₁.answer count = .ok (d :: rest)) :
    Moves { k₁.afterRead count with
      lanes := k₁.lanes ++ [d], point := .handing .received rest, retries := 0 }
  | readFailed {count : Nat} {k₁ : Tasks} {f : Fault} (hp : k.point = .receiving count)
      (hc : k.call .receive = (none, k₁))
      (hn : k₁.session.broker.receivePanic? k₁.session.clock k₁.config.block = none)
      (hr : k₁.answer count = .error f) :
    Moves { k₁.afterRead count with available := k₁.available + 1 }.fail
  | rest (hp : k.point = .resting) :
    Moves { k with point := if k.stopping then .draining else .opening }
  | drain (hp : k.point = .draining) :
    Moves { k with available := k.available + k.lanes.length, lanes := [], point := .stopped }
  | settle {d : Delivery} (o : Outcome) (reason : Option String) (hd : d ∈ k.lanes) :
    Moves { k with
      session := k.session.step (.settle d o reason)
      lanes := k.lanes.erase d
      available := k.available + 1 }
  | stop : Moves { k with stopping := true }
  | other {op : Broker.Op} (hop : op.foreign k.config.queue = true) (ha : k.session.Allowed op) :
    Moves { k with session := k.session.step op }
  | faults (n : Nat) (p : Bool) :
    Moves { k with
      session := { k.session with
        broker := { k.session.broker with failingReceives := n, publishFailing := p } } }
  | outage (o : Outage) :
    Moves { k with session := { k.session with broker := { k.session.broker with outage := o } } }

variable {k}

/-! ## Steps -/

theorem call_snd {kind : Call} {f : Option Fault} {k₁ : Tasks} (h : k.call kind = (f, k₁)) :
    k₁ = { k with session := { k.session with broker := (k.session.broker.answer kind).2 } } :=
  (congrArg Prod.snd h).symm

@[simp] theorem fail_config (k : Tasks) : k.fail.config = k.config := by
  unfold fail
  split <;> rfl

@[simp] theorem fail_runtime (k : Tasks) : k.fail.runtime = k.runtime := by
  unfold fail
  split <;> rfl

@[simp] theorem look_config (k : Tasks) (src : Source) (ds : List Delivery) :
    (k.look src ds).config = k.config := by
  unfold look
  split <;> rfl

@[simp] theorem look_runtime (k : Tasks) (src : Source) (ds : List Delivery) :
    (k.look src ds).runtime = k.runtime := by
  unfold look
  split <;> rfl

@[simp] theorem look_available (k : Tasks) (src : Source) (ds : List Delivery) :
    (k.look src ds).available = k.available := by
  unfold look
  split <;> rfl

@[simp] theorem look_lanes (k : Tasks) (src : Source) (ds : List Delivery) :
    (k.look src ds).lanes = k.lanes := by
  unfold look
  split <;> rfl

@[simp] theorem look_session (k : Tasks) (src : Source) (ds : List Delivery) :
    (k.look src ds).session = k.session := by
  unfold look
  split <;> rfl

theorem look_currentThread (h : k.runtime = .currentThread) (src : Source) (ds : List Delivery) :
    k.look src ds = { k with point := .handing src (k.unheld ds) } := by
  simp [look, h]

theorem fail_point (k : Tasks) :
    k.fail.point = .resting ∨ k.fail.point = .draining ∨ k.fail.point = .crashed := by
  unfold fail
  split
  · split
    · exact .inl rfl
    · exact .inr (.inl rfl)
  · exact .inr (.inr rfl)

theorem receive_moves {count : Nat} {k₁ : Tasks} (hp : k.point = .receiving count)
    (hc : k.call .receive = (none, k₁))
    (hn : k₁.session.broker.receivePanic? k₁.session.clock k₁.config.block = none) :
    k.Moves (k₁.receive count) := by
  unfold receive
  split
  · next hr => exact .readEmpty hp hc hn hr
  · next hr => exact .readSome hp hc hn hr
  · next hr => exact .readFailed hp hc hn hr

theorem read_moves {count : Nat} (hp : k.point = .receiving count) : k.Moves (k.read count) := by
  unfold read
  split
  · next f k₁ hc =>
    split
    · next hg => exact .readNoGroup hp hc hg
    · next hg => exact .readLost hp hc (Bool.eq_false_iff.mpr hg)
  · next k₁ hc =>
    split
    · next p hn => exact .readPanic hp hc hn
    · next hn => exact receive_moves hp hc hn

theorem advance_moves {k' : Tasks} (h : k.advance = some k') : k.Moves k' := by
  unfold advance at h
  split at h
  · next hp =>
    split at h
    · next hc => cases h; exact .callFailed (.inl ⟨hp, rfl⟩) hc
    · next hc => cases h; exact .open_ hp hc
  · next hp =>
    split at h
    · next hc => cases h; exact .callFailed (.inr (.inl ⟨hp, rfl⟩)) hc
    · next hc => cases h; exact .recover hp hc
  · next hp => cases h; exact .filter hp
  · next hp => cases h; exact .handed hp
  · next hp =>
    split at h
    · next ha => cases h; exact .dispatch hp ha
    · next ha =>
      split at h
      · next hs => cases h; exact .leave hp (by omega) hs
      · cases h
  · next hp => cases h; exact .top hp
  · cases h
  · next hp =>
    split at h
    · next ha => cases h; exact .acquire hp ha
    · next ha =>
      split at h
      · next hs => cases h; exact .giveUp hp (by omega) hs
      · cases h
  · next hp => cases h; exact read_moves hp
  · next hp =>
    split at h
    · next hc => cases h; exact .callFailed (.inr (.inr ⟨hp, rfl⟩)) hc
    · next hc => cases h; exact .regroup hp hc
  · next hp => cases h; exact .rest hp
  · next hp => cases h; exact .drain hp
  · cases h
  · cases h

theorem step_moves {m : Move} {k' : Tasks} (h : k.step m = some k') : k.Moves k' := by
  cases m with
  | run => exact advance_moves h
  | claim =>
    simp only [step] at h
    split at h
    · next hc => cases h; exact .claim hc.1 hc.2.1 hc.2.2
    · cases h
  | claimed answer =>
    simp only [step] at h
    split at h
    · next hp => cases h; exact .claimFailed hp
    · next hp =>
      split at h
      · next hc => cases h; exact .claimed hp hc
      · cases h
    · cases h
  | settle d o reason =>
    simp only [step] at h
    split at h
    · next hd => cases h; exact .settle o reason hd
    · cases h
  | stop => cases h; exact .stop
  | other op =>
    simp only [step] at h
    split at h
    · next ho => cases h; exact .other ho.1 ho.2
    · cases h
  | faults n p => cases h; exact .faults n p
  | outage o => cases h; exact .outage o

theorem Moves.frame {k' : Tasks} (h : k.Moves k') : k'.config = k.config ∧ k'.runtime = k.runtime := by
  cases h with
  | open_ _ hc | regroup _ hc | recover _ hc | callFailed _ hc | readLost _ hc _
  | readNoGroup _ hc _ | readPanic _ hc _ | readEmpty _ hc _ _ | readSome _ hc _ _
  | readFailed _ hc _ _ =>
    obtain rfl := call_snd hc
    simp [ensure, crash, afterRead]
  | claimed _ _ => simp
  | _ => exact ⟨rfl, rfl⟩

def play (k : Tasks) : List Move → Option Tasks
  | [] => some k
  | m :: ms => (k.step m).bind (·.play ms)

inductive Reachable (c : Config) (s : Broker.Session) : Tasks → Prop
  | init (rt : Runtime) : Reachable c s (start c s rt)
  | step {k k' : Tasks} (m : Move) : Reachable c s k → k.step m = some k' → Reachable c s k'

section Runs

variable {c : Config} {s : Broker.Session}

theorem Reachable.play {ms : List Move} : ∀ {k k' : Tasks},
    Reachable c s k → k.play ms = some k' → Reachable c s k' := by
  induction ms with
  | nil =>
    intro k k' h hp
    cases hp
    exact h
  | cons m ms ih =>
    intro k k' h hp
    simp only [Tasks.play, Option.bind_eq_some_iff] at hp
    obtain ⟨k₁, h₁, hp⟩ := hp
    exact ih (h.step m h₁) hp

theorem play_runtime {ms : List Move} : ∀ {k k' : Tasks}, k.play ms = some k' → k'.runtime = k.runtime := by
  induction ms with
  | nil =>
    intro k k' hp
    cases hp
    rfl
  | cons m ms ih =>
    intro k k' hp
    simp only [Tasks.play, Option.bind_eq_some_iff] at hp
    obtain ⟨k₁, h₁, hp⟩ := hp
    exact (ih hp).trans (step_moves h₁).frame.2

theorem Reachable.of_play {rt : Runtime} {ms : List Move} {p : Point}
    (h : ((start c s rt).play ms).map (·.point) = some p) :
    Reachable c s (((start c s rt).play ms).getD (start c s rt)) ∧
      (((start c s rt).play ms).getD (start c s rt)).point = p ∧
      (((start c s rt).play ms).getD (start c s rt)).runtime = rt := by
  obtain ⟨k, hplay, hpoint⟩ := Option.map_eq_some_iff.mp h
  rw [hplay, Option.getD_some]
  exact ⟨(Reachable.init _).play hplay, hpoint, play_runtime hplay⟩

theorem Reachable.config (h : Reachable c s k) : k.config = c := by
  induction h with
  | init => rfl
  | step m _ hs ih => exact (step_moves hs).frame.1.trans ih

end Runs

/-! ## Permits -/

theorem Point.held_eq_zero {p : Point} (h : ∀ count, p ≠ .receiving count) : p.held = 0 := by
  cases p <;> simp_all [Point.held]

theorem Source.next_ne_receiving (src : Source) (count : Nat) : src.next ≠ .receiving count := by
  cases src <;> nofun

theorem Source.stopAt_ne_receiving (src : Source) (count : Nat) : src.stopAt ≠ .receiving count := by
  cases src <;> nofun

@[simp] theorem Source.wants_next (src : Source) : src.next.wants = 0 := by cases src <;> rfl

@[simp] theorem Source.wants_stopAt (src : Source) : src.stopAt.wants = 0 := by cases src <;> rfl

theorem wants_unheld (src : Source) (ds : List Delivery) :
    (Point.handing src (k.unheld ds)).wants ≤ (Point.filtering src ds).wants := by
  cases src <;> simp only [Point.wants] <;> first | exact le_rfl | exact List.length_filter_le _ _

theorem wants_look (src : Source) (ds : List Delivery) :
    (k.look src ds).point.wants ≤ (Point.filtering src ds).wants := by
  unfold look
  split
  · exact wants_unheld src ds
  · exact le_rfl

theorem look_queued (src : Source) (ds : List Delivery) : ∀ count, (k.look src ds).point ≠ .receiving count := by
  intro count e
  unfold look at e
  split at e <;> cases e

theorem claimable_length {count : Nat} {ds : List Delivery} (h : k.claimable count ds = true) :
    ds.length ≤ count := by
  simp only [claimable, Bool.and_eq_true, decide_eq_true_eq] at h
  exact h.1.1

structure Ceiling (k : Tasks) : Prop where
  permits : k.available + k.lanes.length + k.point.held = k.config.concurrency
  wants : k.point.wants ≤ k.available
  asks : ∀ count, k.point = .receiving count → 0 < count

theorem start_ceiling (c : Config) (s : Broker.Session) (rt : Runtime) : (start c s rt).Ceiling where
  permits := by simp [start, Point.held]
  wants := Nat.zero_le _
  asks _ h := by cases h

theorem Ceiling.quiet {k' : Tasks} (h : k.Ceiling) (hc : k'.config = k.config)
    (ha : k'.available = k.available) (hl : k'.lanes.length = k.lanes.length)
    (hk : k.point.held = 0) (hp : ∀ count, k'.point ≠ .receiving count) (hw : k'.point.wants = 0) :
    k'.Ceiling where
  permits := by
    rw [hc, ha, hl, Point.held_eq_zero hp, ← h.permits, hk]
  wants := hw ▸ Nat.zero_le _
  asks count he := absurd he (hp count)

theorem Ceiling.call {kind : Call} {f : Option Fault} {k₁ : Tasks} (h : k.Ceiling)
    (hc : k.call kind = (f, k₁)) : k₁.Ceiling := by
  obtain rfl := call_snd hc
  exact ⟨h.permits, h.wants, h.asks⟩

theorem crash_ceiling (hper : k.available + k.lanes.length = k.config.concurrency) : k.crash.Ceiling where
  permits := by simpa [crash, Point.held] using hper
  wants := Nat.zero_le _
  asks _ e := by cases e

theorem fail_ceiling (hper : k.available + k.lanes.length = k.config.concurrency) : k.fail.Ceiling := by
  unfold fail
  split
  · refine ⟨?_, ?_, fun _ e => ?_⟩
    · split <;> simpa [Point.held] using hper
    · split <;> exact Nat.zero_le _
    · split at e <;> cases e
  · exact crash_ceiling hper

theorem Ceiling.moves {k' : Tasks} (h : k.Ceiling) (hm : k.Moves k') : k'.Ceiling := by
  have hper := h.permits
  have hwant := h.wants
  cases hm with
  | open_ hp hc | regroup hp hc =>
    obtain rfl := call_snd hc
    exact h.quiet rfl rfl rfl (by rw [hp]; rfl) (fun _ => nofun) rfl
  | recover hp hc =>
    have h₁ := h.call hc
    obtain rfl := call_snd hc
    exact h₁.quiet (look_config _ _ _) (look_available _ _ _) (by rw [look_lanes]) (by rw [hp]; rfl)
      (look_queued _ _) (Nat.le_zero.mp (wants_look _ _))
  | callFailed hp hc =>
    obtain rfl := call_snd hc
    refine fail_ceiling ?_
    have hheld : k.point.held = 0 := by
      rcases hp with ⟨hp, -⟩ | ⟨hp, -⟩ | ⟨hp, -⟩ <;> rw [hp] <;> rfl
    rw [hheld] at hper
    exact hper
  | filter hp =>
    rw [hp] at hper hwant
    exact ⟨hper, (wants_unheld _ _).trans hwant, fun _ e => by cases e⟩
  | handed hp =>
    exact h.quiet rfl rfl rfl (by rw [hp]; rfl) (Source.next_ne_receiving _) (Source.wants_next _)
  | @dispatch src d rest hp ha =>
    rw [hp] at hper hwant
    refine ⟨?_, ?_, fun _ e => by cases e⟩
    · simp only [dispatch, Point.held, List.length_append, List.length_singleton] at hper ⊢
      omega
    · cases src <;> simp only [dispatch, Point.wants, List.length_cons] at hwant ⊢ <;> omega
  | leave hp =>
    exact h.quiet rfl rfl rfl (by rw [hp]; rfl) (Source.stopAt_ne_receiving _) (Source.wants_stopAt _)
  | top hp | rest hp =>
    exact h.quiet rfl rfl rfl (by rw [hp]; rfl) (fun _ => by split <;> nofun) (by split <;> rfl)
  | claim hp hs ha =>
    refine ⟨by rw [hp] at hper; exact hper, le_refl _, fun _ e => by cases e⟩
  | claimFailed hp | giveUp hp => exact h.quiet rfl rfl rfl (by rw [hp]; rfl) (fun _ => nofun) rfl
  | @claimed count ds hp hc =>
    rw [hp] at hper hwant
    refine ⟨?_, ?_, fun _ e => absurd e (look_queued _ _ _)⟩
    · rw [look_available, look_lanes, look_config, Point.held_eq_zero (look_queued _ _)]
      exact hper
    · calc (k.look .claimed ds).point.wants
          ≤ (Point.filtering .claimed ds).wants := wants_look _ _
        _ ≤ count := claimable_length hc
        _ ≤ (k.look .claimed ds).available := by rw [look_available]; exact hwant
  | acquire hp ha =>
    rw [hp] at hper
    refine ⟨?_, ?_, fun _ e => ?_⟩
    · simp only [Point.held] at hper ⊢
      omega
    · exact le_refl _
    · cases e
      exact ha
  | readLost hp hc hg =>
    obtain rfl := call_snd hc
    rw [hp] at hper
    refine fail_ceiling ?_
    simp only [Point.held] at hper ⊢
    omega
  | readNoGroup hp hc hg =>
    obtain rfl := call_snd hc
    rw [hp] at hper
    refine ⟨?_, Nat.zero_le _, fun _ e => by cases e⟩
    simp only [Point.held] at hper ⊢
    omega
  | readPanic hp hc hn =>
    obtain rfl := call_snd hc
    rw [hp] at hper
    refine crash_ceiling ?_
    simp only [Point.held] at hper ⊢
    omega
  | readEmpty hp hc hn hr =>
    obtain rfl := call_snd hc
    rw [hp] at hper
    refine ⟨?_, Nat.zero_le _, fun _ e => by cases e⟩
    simp only [afterRead, Point.held] at hper ⊢
    omega
  | readSome hp hc hn hr =>
    obtain rfl := call_snd hc
    rw [hp] at hper hwant
    have hlen := Broker.receive_length_le _ _ _ _ _ hr
    refine ⟨?_, ?_, fun _ e => by cases e⟩
    · simp only [afterRead, Point.held, List.length_append, List.length_singleton] at hper ⊢
      omega
    · simp only [afterRead, Point.wants, List.length_cons] at hwant hlen ⊢
      omega
  | readFailed hp hc hn hr =>
    obtain rfl := call_snd hc
    rw [hp] at hper
    refine fail_ceiling ?_
    simp only [afterRead, Point.held] at hper ⊢
    omega
  | drain hp =>
    rw [hp] at hper
    refine ⟨?_, Nat.zero_le _, fun _ e => by cases e⟩
    simp only [Point.held, List.length_nil] at hper ⊢
    omega
  | settle o reason hd =>
    have hlen := List.length_erase_of_mem hd
    have hpos := List.length_pos_of_mem hd
    refine ⟨?_, Nat.le_succ_of_le hwant, h.asks⟩
    simp only at hper ⊢
    omega
  | stop | other | faults | outage => exact ⟨hper, hwant, h.asks⟩

theorem Reachable.ceiling {c : Config} {s : Broker.Session} (h : Reachable c s k) : k.Ceiling := by
  induction h with
  | init rt => exact start_ceiling c s rt
  | step m _ hs ih => exact ih.moves (step_moves hs)

/-! ## Hand-outs -/

theorem holds_eq_false_iff {id : String} : k.holds id = false ↔ id ∉ k.lanes.map (·.id) := by
  simp [holds]

theorem holds_false_of_subset {k' : Tasks} (hl : ∀ d ∈ k'.lanes, d ∈ k.lanes) {id : String}
    (h : k.holds id = false) : k'.holds id = false := by
  simp only [holds, List.any_eq_false, beq_iff_eq] at h ⊢
  exact fun d hd => h d (hl d hd)

theorem holds_false_append {k' : Tasks} {d : Delivery} (hl : k'.lanes = k.lanes ++ [d]) {id : String}
    (h : k.holds id = false) (hd : d.id ≠ id) : k'.holds id = false := by
  simp only [holds, hl, List.any_append, List.any_cons, List.any_nil, Bool.or_false,
    Bool.or_eq_false_iff, beq_eq_false_iff_ne]
  exact ⟨h, hd⟩

theorem nodup_ids_append {ls : List Delivery} {d : Delivery} (hn : (ls.map (·.id)).Nodup)
    (hd : d.id ∉ ls.map (·.id)) : ((ls ++ [d]).map (·.id)).Nodup := by
  rw [List.map_append, List.map_singleton]
  exact hn.append (List.nodup_singleton _) (List.disjoint_singleton.mpr hd)

@[simp] theorem Source.queued_next (src : Source) : src.next.queued = false := by cases src <;> rfl

@[simp] theorem Source.queued_stopAt (src : Source) : src.stopAt.queued = false := by
  cases src <;> rfl

theorem Out.mono {k' : Tasks} {d : Delivery} (hd : k.Out d) (hc : k'.config = k.config)
    (hu : ∀ i ∈ (k.session.broker.stream k.config.queue).unsettledIds,
      i ∈ (k'.session.broker.stream k.config.queue).unsettledIds) : k'.Out d := by
  obtain ⟨hq, hi⟩ := hd
  rw [Out, hc]
  exact ⟨hq, hu _ hi⟩

theorem claimable_out {count : Nat} {ds : List Delivery} (h : k.claimable count ds = true) :
    (ds.map (·.id)).Nodup ∧ ∀ d ∈ ds, k.Out d := by
  simp only [claimable, Bool.and_eq_true, decide_eq_true_eq, List.all_eq_true, beq_iff_eq,
    List.contains_iff_mem] at h
  exact ⟨h.1.2, fun d hd => h.2 d hd⟩

theorem unheld_waiting {ds : List Delivery} (hn : (ds.map (·.id)).Nodup) (ho : ∀ d ∈ ds, k.Out d) :
    ((k.unheld ds).map (·.id)).Nodup ∧ ∀ d ∈ k.unheld ds, k.Out d ∧ k.holds d.id = false := by
  refine ⟨hn.sublist (List.filter_sublist.map _), fun d hd => ?_⟩
  simp only [unheld, List.mem_filter, Bool.not_eq_eq_eq_not, Bool.not_true] at hd
  exact ⟨ho d hd.1, hd.2⟩

structure Open (k : Tasks) : Prop where
  conserved : k.session.Conserved
  filed : k.session.broker.Filed
  distinct : (k.lanes.map (·.id)).Nodup
  lanes : ∀ d ∈ k.lanes, k.Out d
  waiting : ∀ src rest, k.point = .handing src rest →
    (rest.map (·.id)).Nodup ∧ ∀ d ∈ rest, k.Out d ∧ k.holds d.id = false
  looked : ∀ src ds, k.point ≠ .filtering src ds

theorem start_open {c : Config} {s : Broker.Session} (hs : s.Conserved) (hf : s.broker.Filed)
    (rt : Runtime) : (start c s rt).Open where
  conserved := hs
  filed := hf
  distinct := List.nodup_nil
  lanes _ h := by cases h
  waiting _ _ h := by cases h
  looked _ _ h := by cases h

theorem Open.frame {k' : Tasks} (h : k.Open) (hc : k'.config = k.config) (hl : k'.lanes = k.lanes)
    (hcons : k'.session.Conserved) (hf : k'.session.broker.Filed)
    (hu : ∀ i ∈ (k.session.broker.stream k.config.queue).unsettledIds,
      i ∈ (k'.session.broker.stream k.config.queue).unsettledIds)
    (hw : k'.point.queued = true → k'.point = k.point) : k'.Open where
  conserved := hcons
  filed := hf
  distinct := hl ▸ h.distinct
  lanes d hd := (h.lanes d (hl ▸ hd)).mono hc hu
  waiting src rest hp := by
    obtain ⟨hn, hr⟩ := h.waiting src rest ((hw (by rw [hp]; rfl)).symm.trans hp)
    refine ⟨hn, fun d hd => ⟨((hr d hd).1).mono hc hu, ?_⟩⟩
    simp only [holds, hl]
    exact (hr d hd).2
  looked src ds hp := h.looked src ds ((hw (by rw [hp]; rfl)).symm.trans hp)

theorem Open.quiet {k' : Tasks} (h : k.Open) (hc : k'.config = k.config) (hs : k'.session = k.session)
    (hl : k'.lanes = k.lanes) (hw : k'.point.queued = true → k'.point = k.point) : k'.Open :=
  h.frame hc hl (hs ▸ h.conserved) (hs ▸ h.filed) (fun _ hi => hs ▸ hi) hw

theorem Open.call {kind : Call} {f : Option Fault} {k₁ : Tasks} (h : k.Open)
    (hc : k.call kind = (f, k₁)) : k₁.Open := by
  obtain rfl := call_snd hc
  exact ⟨h.conserved.of_stream_eq (fun _ => rfl) le_rfl, h.filed.of_stream_eq fun _ => rfl,
    h.distinct, h.lanes, h.waiting, h.looked⟩

theorem Open.withAvailable (h : k.Open) (n : Nat) : ({ k with available := n } : Tasks).Open :=
  ⟨h.conserved, h.filed, h.distinct, h.lanes, h.waiting, h.looked⟩

theorem Open.crash (h : k.Open) : k.crash.Open where
  conserved := h.conserved
  filed := h.filed
  distinct := List.nodup_nil
  lanes _ hd := by cases hd
  waiting _ _ e := by cases e
  looked _ _ e := by cases e

theorem Open.fail (h : k.Open) : k.fail.Open := by
  unfold Tasks.fail
  split
  · exact h.quiet rfl rfl rfl fun e => by split at e <;> cases e
  · exact h.crash

theorem unsettledIds_afterRead (h : k.Open) (count : Nat) :
    ∀ i ∈ (k.session.broker.stream k.config.queue).unsettledIds,
      i ∈ ((k.afterRead count).session.broker.stream k.config.queue).unsettledIds := by
  intro i hi
  simp only [afterRead, Broker.Session.step]
  cases hr : (k.session.broker.receive k.session.clock k.config.queue count k.config.block).1 with
  | ok batch =>
    rw [(h.conserved.receive_out h.filed hr).2.2]
    exact List.mem_append_left _ hi
  | error f =>
    rw [Broker.stream_receive_of_error _ _ _ _ _ hr]
    exact hi

theorem Open.afterRead (h : k.Open) (count : Nat) :
    (k.afterRead count).session.Conserved ∧ (k.afterRead count).session.broker.Filed :=
  ⟨Broker.Session.Conserved.step h.conserved trivial, Broker.Session.filed_step h.filed _⟩

theorem Open.handFirst {k' : Tasks} {src : Source} {d : Delivery} {rest : List Delivery}
    (hcons : k'.session.Conserved) (hf : k'.session.broker.Filed)
    (hdist : (k.lanes.map (·.id)).Nodup) (hold : ∀ e ∈ k.lanes, k'.Out e)
    (hl : k'.lanes = k.lanes ++ [d]) (hp : k'.point = .handing src rest)
    (hn : ((d :: rest).map (·.id)).Nodup) (hw : ∀ e ∈ d :: rest, k'.Out e ∧ k.holds e.id = false) :
    k'.Open := by
  have hnd : (d :: rest).map (·.id) = d.id :: rest.map (·.id) := rfl
  rw [hnd, List.nodup_cons] at hn
  have hd := hw d List.mem_cons_self
  refine ⟨hcons, hf, hl ▸ nodup_ids_append hdist (holds_eq_false_iff.mp hd.2), fun e he => ?_,
    fun src' rest' e => ?_, fun _ _ e => by rw [hp] at e; cases e⟩
  · rw [hl] at he
    rcases List.mem_append.mp he with he | he
    · exact hold e he
    · rw [List.mem_singleton.mp he]
      exact hd.1
  · rw [hp] at e
    cases e
    refine ⟨hn.2, fun e he => ⟨(hw e (List.mem_cons_of_mem d he)).1, ?_⟩⟩
    refine holds_false_append hl (hw e (List.mem_cons_of_mem d he)).2 ?_
    intro hde
    exact hn.1 (hde ▸ List.mem_map_of_mem he)

theorem Open.readSome (h : k.Open) {count : Nat} {d : Delivery} {rest : List Delivery}
    (hr : k.answer count = .ok (d :: rest)) :
    ({ k.afterRead count with
      lanes := k.lanes ++ [d], point := .handing .received rest, retries := 0 } : Tasks).Open := by
  obtain ⟨hn, hq, hu⟩ := h.conserved.receive_out h.filed hr
  obtain ⟨hcons, hf⟩ := h.afterRead count
  -- the entries read were waiting, so none was out, and every lane's entry is out
  have hfresh : ∀ e ∈ d :: rest, e.id ∉ k.lanes.map (·.id) := by
    intro e he hl
    obtain ⟨x, hx, hxe⟩ := List.mem_map.mp hl
    exact (hq e he).2 (hxe ▸ (h.lanes x hx).2)
  have hout : ∀ e ∈ d :: rest, (k.afterRead count).Out e := by
    intro e he
    refine ⟨(hq e he).1, ?_⟩
    show e.id ∈ ((k.session.step _).broker.stream k.config.queue).unsettledIds
    rw [Broker.Session.step, hu]
    exact List.mem_append_right _ (List.mem_map_of_mem he)
  exact Open.handFirst hcons hf h.distinct
    (fun e he => (h.lanes e he).mono rfl (unsettledIds_afterRead h count)) rfl rfl hn
    fun e he => ⟨hout e he, holds_eq_false_iff.mpr (hfresh e he)⟩

theorem Open.settle (h : k.Open) {d : Delivery} (o : Outcome) (reason : Option String) (hd : d ∈ k.lanes) :
    ({ k with
      session := k.session.step (.settle d o reason)
      lanes := k.lanes.erase d
      available := k.available + 1 } : Tasks).Open := by
  have hdq := h.lanes d hd
  have hallowed : k.session.Allowed (.settle d o reason) := by
    show d.id ∈ (k.session.broker.stream d.queue).unsettledIds
    rw [hdq.1]
    exact hdq.2
  -- every id other than the settled one stays out or not as it was
  have hkeep : ∀ e : Delivery, e.id ≠ d.id → k.Out e →
      ({ k with session := k.session.step (.settle d o reason) } : Tasks).Out e := by
    intro e he ho
    refine ⟨ho.1, ?_⟩
    show e.id ∈ ((k.session.broker.settle k.session.clock d o reason).stream k.config.queue).unsettledIds
    exact (Broker.mem_unsettledIds_settle_of_ne _ _ _ _ _ he _).mpr ho.2
  have hsub : ∀ e ∈ k.lanes.erase d, e ∈ k.lanes := fun e he => List.mem_of_mem_erase he
  have hne : ∀ e ∈ k.lanes.erase d, e.id ≠ d.id := by
    intro e he hid
    have hnd : k.lanes.Nodup := h.distinct.of_map _
    have hed : e ≠ d := ((hnd.mem_erase_iff).mp he).1
    exact hed (List.inj_on_of_nodup_map h.distinct (hsub e he) hd hid)
  refine ⟨Broker.Session.Conserved.step h.conserved hallowed,
    Broker.Session.filed_step h.filed _, h.distinct.sublist ((List.erase_sublist).map _),
    fun e he => hkeep e (hne e he) (h.lanes e (hsub e he)), fun src rest hp => ?_, h.looked⟩
  obtain ⟨hn, hr⟩ := h.waiting src rest hp
  refine ⟨hn, fun e he => ⟨hkeep e ?_ (hr e he).1, holds_false_of_subset hsub (hr e he).2⟩⟩
  intro hid
  have hheld := (holds_eq_false_iff.mp (hr e he).2)
  exact hheld (hid ▸ List.mem_map_of_mem hd)

theorem Open.look (h : k.Open) (hrt : k.runtime = .currentThread) {src : Source}
    {ds : List Delivery} (hn : (ds.map (·.id)).Nodup) (ho : ∀ d ∈ ds, k.Out d) :
    (k.look src ds).Open := by
  rw [look_currentThread hrt]
  refine ⟨h.conserved, h.filed, h.distinct, h.lanes, fun src' rest e => ?_, fun _ _ e => by cases e⟩
  cases e
  exact k.unheld_waiting hn ho

theorem Open.moves {k' : Tasks} (h : k.Open) (hrt : k.runtime = .currentThread) (hm : k.Moves k') :
    k'.Open := by
  cases hm with
  | open_ hp hc | regroup hp hc =>
    have h₁ := h.call hc
    obtain rfl := call_snd hc
    exact h₁.frame rfl rfl (h₁.conserved.ensureQueue _) (h₁.filed.ensureQueue _)
      (fun i hi => by simpa [ensure] using hi) fun e => by cases e
  | recover hp hc =>
    have h₁ := h.call hc
    obtain rfl := call_snd hc
    obtain ⟨hn, ho⟩ := h₁.conserved.recover_out h₁.filed k.config.queue Loop.recoverBatch
    exact h₁.look hrt hn fun d hd => ho d hd
  | callFailed hp hc => exact (h.call hc).fail
  | filter hp => exact absurd hp (h.looked _ _)
  | handed hp | leave hp => exact h.quiet rfl rfl rfl fun e => by simp at e
  | @dispatch src d rest hp ha =>
    obtain ⟨hn, hr⟩ := h.waiting _ _ hp
    exact Open.handFirst h.conserved h.filed h.distinct h.lanes rfl rfl hn hr
  | top hp | rest hp => exact h.quiet rfl rfl rfl fun e => by split at e <;> cases e
  | claim hp | claimFailed hp | acquire hp | giveUp hp => exact h.quiet rfl rfl rfl fun e => by cases e
  | claimed hp hc =>
    obtain ⟨hn, ho⟩ := k.claimable_out hc
    exact h.look hrt hn ho
  | readLost hp hc hg => exact ((h.call hc).withAvailable _).fail
  | readNoGroup hp hc hg =>
    have h₁ := h.call hc
    obtain rfl := call_snd hc
    exact h₁.quiet rfl rfl rfl fun e => by cases e
  | readPanic hp hc hn => exact ((h.call hc).withAvailable _).crash
  | @readEmpty count k₁ hp hc hn hr =>
    have h₁ := h.call hc
    obtain ⟨hcons, hf⟩ := h₁.afterRead count
    exact h₁.frame rfl rfl hcons hf (unsettledIds_afterRead h₁ count) fun e => by cases e
  | readSome hp hc hn hr => exact (h.call hc).readSome hr
  | @readFailed count k₁ f hp hc hn hr =>
    have h₁ := h.call hc
    obtain ⟨hcons, hf⟩ := h₁.afterRead count
    have hp₁ : k₁.point = .receiving count := by rw [call_snd hc]; exact hp
    refine Open.fail (h₁.frame rfl rfl hcons hf (unsettledIds_afterRead h₁ count) fun e => ?_)
    change k₁.point.queued = true at e
    rw [hp₁] at e
    cases e
  | drain hp =>
    exact ⟨h.conserved, h.filed, List.nodup_nil, fun _ he => (by cases he), fun _ _ e => (by cases e),
      fun _ _ e => (by cases e)⟩
  | settle o reason hd => exact h.settle o reason hd
  | stop => exact h.quiet rfl rfl rfl fun _ => rfl
  | @other op hop ha =>
    refine h.frame rfl rfl (Broker.Session.Conserved.step h.conserved ha)
      (Broker.Session.filed_step h.filed op) (fun i hi => ?_) fun _ => rfl
    show i ∈ ((k.session.step op).broker.stream k.config.queue).unsettled.map (·.id)
    rw [Broker.Session.unsettled_step_foreign hop]
    exact hi
  | faults n p | outage p =>
    exact h.frame rfl rfl (h.conserved.of_stream_eq (fun _ => rfl) le_rfl)
      (h.filed.of_stream_eq fun _ => rfl) (fun i hi => hi) fun _ => rfl

theorem Reachable.open {c : Config} {s : Broker.Session} (hs : s.Conserved) (hf : s.broker.Filed)
    (h : Reachable c s k) (hrt : k.runtime = .currentThread) : k.Open := by
  induction h with
  | init rt => exact start_open hs hf rt
  | step m _ hst ih =>
    -- the runtime never changes, so every earlier state ran on one task at a time too
    have hm := step_moves hst
    have hrt' := hm.frame.2.symm.trans hrt
    exact (ih hrt').moves hrt' hm

theorem step_run_dispatch {src : Source} {d : Delivery} {rest : List Delivery}
    (hp : k.point = .handing src (d :: rest)) (ha : 0 < k.available) :
    k.step .run = some { k.dispatch d with point := .handing src rest } := by
  simp [step, advance, hp, ha]

/-- The lane ceiling. For every configuration and broker, on either runtime, in every run of
the read loop and its lanes however their steps interleave: the free permits of the lane
semaphore, one permit for each lane under way and one for a loop inside a read make the
concurrency, so no more deliveries than that are in flight; a read asks for at least one entry
and at most one more than the permits free; and an entry that a read or a claim brought and
that waits for a lane goes to one at the loop's next step, without waiting, whether or not the
subscription was told to stop. -/
theorem lanes_within_concurrency {c : Config} {s : Broker.Session} {k : Tasks}
    (hk : Reachable c s k) :
    k.available + k.lanes.length + k.point.held = c.concurrency ∧
    (∀ count, k.point = .receiving count → 0 < count ∧ count ≤ k.available + 1) ∧
    ∀ src d rest, k.point = .handing src (d :: rest) → src ≠ .recovered →
      k.step .run = some { k.dispatch d with point := .handing src rest } := by
  have h := hk.ceiling
  refine ⟨hk.config ▸ h.permits, fun count hp => ?_, fun src d rest hp hsrc => ?_⟩
  · have hw := h.wants
    rw [hp] at hw
    exact ⟨h.asks count hp, by simp only [Point.wants] at hw; omega⟩
  · have hw := h.wants
    rw [hp] at hw
    have ha : 0 < k.available := by
      cases src with
      | recovered => exact absurd rfl hsrc
      | claimed | received =>
        simp only [Point.wants, List.length_cons] at hw
        omega
    exact step_run_dispatch hp ha

/-- No double dispatch on a runtime that runs one task at a time. For every configuration and
every broker that keeps its entries and files them under their queues, in every run of the read
loop and its lanes however their steps interleave, restarts after failures included: no two
lanes hold one id; every settlement a lane can make is of an open hand-out, which the broker
allows; every step that hands a delivery to a lane, whether taken back, claimed or read, hands
it one that no lane held and whose hand-out is open after the step, so none a lane has already
settled; and the broker still keeps every entry at one place. -/
theorem lanes_hold_open_handouts {c : Config} {s : Broker.Session} (hs : s.Conserved)
    (hf : s.broker.Filed) {k : Tasks} (hk : Reachable c s k) (hrt : k.runtime = .currentThread) :
    (k.lanes.map (·.id)).Nodup ∧
    (∀ d ∈ k.lanes, ∀ o reason, k.session.Allowed (.settle d o reason)) ∧
    (∀ m k' d, k.step m = some k' → k'.lanes = k.lanes ++ [d] →
      k.holds d.id = false ∧ d.id ∈ (k'.session.broker.stream d.queue).unsettledIds) ∧
    k.session.Conserved := by
  have h := hk.open hs hf hrt
  refine ⟨h.distinct, fun d hd o reason => ?_, fun m k' d hm hl => ?_, h.conserved⟩
  · obtain ⟨hq, hi⟩ := h.lanes d hd
    show d.id ∈ (k.session.broker.stream d.queue).unsettledIds
    rw [hq]
    exact hi
  · have h' := (hk.step m hm).open hs hf ((step_moves hm).frame.2.trans hrt)
    have hn := h'.distinct
    rw [hl, List.map_append, List.map_singleton] at hn
    obtain ⟨hq, hi⟩ := h'.lanes d (hl ▸ List.mem_append_right _ (List.mem_singleton_self d))
    refine ⟨holds_eq_false_iff.mpr fun hmem => ?_, hq ▸ hi⟩
    exact List.disjoint_of_nodup_append hn hmem (List.mem_singleton_self _)

def pairConfig : Config := Config.make "player" .getAll

def pairSession : Broker.Session :=
  (Broker.Session.start Span.zero ⟨0, ⟨0⟩⟩).run [.enqueue pairConfig.queue [1], .enqueue pairConfig.queue [2]]

def pairRun : Tasks :=
  ((start pairConfig pairSession).play [.run, .run, .run, .run, .run, .run]).getD
    (start pairConfig pairSession)

theorem lanes_within_concurrency_pair :
    Reachable pairConfig pairSession pairRun ∧
    pairRun.point = .handing .received [⟨"2-0", pairConfig.queue, [2], 1⟩] ∧
    (pairRun.available + pairRun.lanes.length + pairRun.point.held = pairConfig.concurrency ∧
      (∀ count, pairRun.point = .receiving count → 0 < count ∧ count ≤ pairRun.available + 1) ∧
      ∀ src d rest, pairRun.point = .handing src (d :: rest) → src ≠ .recovered →
        pairRun.step .run = some { pairRun.dispatch d with point := .handing src rest }) := by
  have hrun : ((start pairConfig pairSession).play [.run, .run, .run, .run, .run, .run]).map (·.point) =
      some (.handing .received [⟨"2-0", pairConfig.queue, [2], 1⟩]) := by
    decide +kernel
  obtain ⟨hreach, hpoint, -⟩ := Reachable.of_play hrun
  exact ⟨hreach, hpoint, lanes_within_concurrency hreach⟩

def pendingSession : Broker.Session :=
  (Broker.Session.start Span.zero ⟨0, ⟨0⟩⟩).run
    [.enqueue pairConfig.queue [1], .receive pairConfig.queue 1 Span.zero]

def pendingRun : Tasks :=
  ((start pairConfig pendingSession).play [.run, .run]).getD (start pairConfig pendingSession)

theorem lanes_hold_open_handouts_pending :
    pendingSession.Conserved ∧ pendingSession.broker.Filed ∧
    Reachable pairConfig pendingSession pendingRun ∧ pendingRun.runtime = .currentThread ∧
    pendingRun.point = .handing .recovered [⟨"1-0", pairConfig.queue, [1], 2⟩] ∧
    ((pendingRun.lanes.map (·.id)).Nodup ∧
      (∀ d ∈ pendingRun.lanes, ∀ o reason, pendingRun.session.Allowed (.settle d o reason)) ∧
      (∀ m k' d, pendingRun.step m = some k' → k'.lanes = pendingRun.lanes ++ [d] →
        pendingRun.holds d.id = false ∧ d.id ∈ (k'.session.broker.stream d.queue).unsettledIds) ∧
      pendingRun.session.Conserved) := by
  have hs : pendingSession.Conserved :=
    (Broker.Session.conserved_start Span.zero ⟨0, ⟨0⟩⟩).run ⟨trivial, trivial, trivial⟩
  have hf : pendingSession.broker.Filed :=
    Broker.Session.filed_run (Broker.Filed.withDelay Span.zero) _
  have hrun : ((start pairConfig pendingSession).play [.run, .run]).map (·.point) =
      some (.handing .recovered [⟨"1-0", pairConfig.queue, [1], 2⟩]) := by
    decide +kernel
  obtain ⟨hreach, hpoint, hrt⟩ := Reachable.of_play hrun
  exact ⟨hs, hf, hreach, hrt, hpoint, lanes_hold_open_handouts hs hf hreach hrt⟩

def raceSession : Broker.Session :=
  (Broker.Session.start Span.zero ⟨0, ⟨0⟩⟩).run [.enqueue pairConfig.queue [1]]

def raceRead : Delivery := ⟨"1-0", pairConfig.queue, [1], 1⟩

def raceTaken : Delivery := ⟨"1-0", pairConfig.queue, [1], 2⟩

/-- Fifteen steps with lanes in parallel: the loop reads the entry and hands it to a lane, its
next read fails, and it rests, runs again and takes back its unsettled entries while the lane
still holds the entry. -/
def raceRun : Tasks :=
  ((start pairConfig raceSession .multiThread).play
    [.run, .run, .run, .run, .run, .run, .run, .run, .run, .run, .faults 1 false, .run, .run, .run,
      .run]).getD (start pairConfig raceSession .multiThread)

/-- With lanes in parallel, an entry is settled twice. The broker's answer to the loop's
take-back holds the entry a lane still holds; the lane settles it and lets go of its id before
the loop clears the answer, so the loop hands the entry, whose hand-out is closed, to a new lane,
which settles it again. -/
theorem settles_twice_on_parallel_lanes :
    Reachable pairConfig raceSession raceRun ∧ raceRun.runtime = .multiThread ∧
    raceRun.point = .filtering .recovered [raceTaken] ∧ raceRun.lanes = [raceRead] ∧
    (raceRun.play [.settle raceRead .ack none, .run, .run]).map
      (fun k => (k.lanes, (k.session.broker.stream pairConfig.queue).unsettledIds)) =
      some ([raceTaken], []) ∧
    (raceRun.play [.settle raceRead .ack none, .run, .run, .settle raceTaken .ack none]).map
      (·.session.broker.settlements pairConfig.queue) = some [("1-0", .ack), ("1-0", .ack)] := by
  have hrun : ((start pairConfig raceSession .multiThread).play
      [.run, .run, .run, .run, .run, .run, .run, .run, .run, .run, .faults 1 false, .run, .run, .run,
        .run]).map (·.point) = some (.filtering .recovered [raceTaken]) := by
    decide +kernel
  obtain ⟨hreach, hpoint, hrt⟩ := Reachable.of_play hrun
  refine ⟨hreach, hrt, hpoint, ?_, ?_, ?_⟩
  · decide +kernel
  · decide +kernel
  · decide +kernel

/-! ## The loop as tasks -/

/-- The tasks a loop stands for at the point `p`, with the broker session `s`, on a one-task
runtime: its lanes are the deliveries of its handlings under way, and its free lanes the free
permits. -/
def ofLoop (l : Loop) (s : Broker.Session) (stopping : Bool) (p : Point) : Tasks :=
  ⟨l.config, s, l.free 0, l.lanes.map (·.handling.delivery), p, stopping, l.status.retries,
    .currentThread⟩

theorem holds_ofLoop (l : Loop) (s : Broker.Session) (stopping : Bool) (p : Point) (id : String) :
    (ofLoop l s stopping p).holds id = l.holds id := by
  simp [holds, ofLoop, Loop.holds, List.any_map, Function.comp_def]

/-- The entries a loop takes back from the broker `b`: its own unsettled ones that no lane
holds. -/
def takenBack (l : Loop) (b : Broker) : List Delivery :=
  (b.recover l.config.queue Loop.recoverBatch).filter fun d => !l.holds d.id

variable {σ : Type} [Backend σ]

/-- A loop that begins takes its entries back as its tasks do on a one-task runtime: once the
group is made and the take-back answered, two runs of the tasks stand at handing out exactly
the entries the loop goes on to hand to lanes, with the broker the loop goes on with. -/
theorem begin_as_tasks (br : Bridge) (stopping : Bool) (now : Nat) (j : Fin 50) (l : Loop)
    (st : Handler.State σ) (s : Broker.Session) {b₁ b₂ : Broker} (hs : s.broker = st.broker)
    (he : st.broker.answer .ensureQueue = (none, b₁))
    (hr : (b₁.ensureQueue l.config.queue).answer .recover = (none, b₂)) :
    (ofLoop l s stopping .opening).play [.run, .run] =
      some (ofLoop l { s with broker := b₂ } stopping (.handing .recovered (takenBack l b₂))) ∧
    l.begin br stopping now j st =
      Loop.unload br stopping now j ((takenBack l b₂).length + 1) 0 { l with backlog := takenBack l b₂ }
        { st with broker := b₂ } := by
  have he' : s.broker.answer .ensureQueue = (none, b₁) := hs ▸ he
  constructor
  · have hb₁ : (s.broker.answer .ensureQueue).2 = b₁ := by rw [he']
    have hn₁ : (s.broker.answer .ensureQueue).1 = none := by rw [he']
    have hn₂ : ((b₁.ensureQueue l.config.queue).answer .recover).1 = none := by rw [hr]
    have hb₂ : ((b₁.ensureQueue l.config.queue).answer .recover).2 = b₂ := by rw [hr]
    simp only [play, step, advance, ofLoop, call, hn₁, hb₁, ensure, hn₂, hb₂, look,
      Option.bind_some]
    congr
    simp only [unheld, takenBack]
    congr 1
    funext d
    rw [← holds_ofLoop l s stopping .opening d.id]
    rfl
  · simp only [Loop.begin, he, hr, takenBack]

/-- After a restart the loop hands to lanes only open hand-outs of its queue that no lane holds,
each once, on any broker that keeps its entries and files them under their queues. -/
theorem takenBack_open {b : Broker} {log : List (String × Nat)} (hc : Conserved b log)
    (hf : b.Filed) (l : Loop) :
    ((takenBack l b).map (·.id)).Nodup ∧
    ∀ d ∈ takenBack l b, d.queue = l.config.queue ∧
      d.id ∈ (b.stream l.config.queue).unsettledIds ∧ l.holds d.id = false := by
  obtain ⟨hn, ho⟩ := hc.recover_out hf l.config.queue Loop.recoverBatch
  refine ⟨hn.sublist (List.filter_sublist.map _), fun d hd => ?_⟩
  simp only [takenBack, List.mem_filter, Bool.not_eq_eq_eq_not, Bool.not_true] at hd
  exact ⟨(ho d hd.1).1, (ho d hd.1).2, hd.2⟩

end Tasks

end Relay.Subscription
