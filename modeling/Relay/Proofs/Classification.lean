import Relay.Failure.Classify
import Relay.Player.Fault
/-!
# The standard classification as a table

The standard classifier is a list of rules tried in order, and a message rule looks for its
words character by character. Read as a table (`Failure.table`), it takes the kind a failure is
tagged with whatever its message says, and sorts an untagged failure by the first group of words
that its lowercased message holds as a block of characters: validation words, then words for a
missing thing, then conflict words, then words of exhaustion. A failure of the players' domain
is tagged by the fault it comes from, so only an internal fault is left to its words.
-/
namespace Relay.Failure

theorem occursIn_iff_infix (needle hay : List Char) : occursIn needle hay = true ↔ needle <:+: hay := by
  induction hay with
  | nil =>
    simp only [occursIn, List.isEmpty_iff]
    exact ⟨fun h => h ▸ List.nil_infix, List.eq_nil_of_infix_nil⟩
  | cons c r ih =>
    simp only [occursIn, Bool.or_eq_true, List.isPrefixOf_iff_prefix, ih, List.infix_cons_iff]

theorem includes_iff (hay needle : String) :
    includes hay needle = true ↔ needle.toList <:+: hay.toList :=
  occursIn_iff_infix _ _

def Says (why : String) (words : List String) : Prop :=
  ∃ w ∈ words, w.toList <:+: (Text.lower why).toList

instance (why : String) (words : List String) : Decidable (Says why words) :=
  inferInstanceAs (Decidable (∃ w ∈ words, _))

theorem mentions_other (words : List String) (why : String) :
    mentions words (.other why) = true ↔ Says why words := by
  simp [mentions, includes_iff, Says]

def table : Failure → Kind × String
  | .validation _ => (.validation, "tagged-validation")
  | .conflict _ => (.dataConflict, "tagged-conflict")
  | .notFound _ => (.notFound, "tagged-not-found")
  | .exhausted _ => (.resourceExhausted, "tagged-exhausted")
  | .other why =>
    if Says why ["invalid", "validation", "malformed"] then (.validation, "message-validation")
    else if Says why ["not found", "no such"] then (.notFound, "message-not-found")
    else if Says why ["duplicate", "already exists", "version", "constraint"] then
      (.dataConflict, "message-conflict")
    else if Says why ["timeout", "timed out", "pool", "too many", "rate limit"] then
      (.resourceExhausted, "message-exhausted")
    else (.unclassified, "default")

namespace Classifier

theorem explain_nil (f : Failure) : explain [] f = (.unclassified, "default") := rfl

theorem explain_cons (r : Rule) (c : Classifier) (f : Failure) :
    explain (r :: c) f = if r.test f then (r.kind, r.name) else explain c f := by
  unfold explain
  rw [List.find?_cons]
  cases r.test f <;> rfl

theorem explain_standard (f : Failure) : standard.explain f = table f := by
  cases f with
  | validation why => rfl
  | conflict why => rfl
  | notFound what => rfl
  | exhausted why => rfl
  | other why =>
    -- the tagged rules all fail on an untagged failure; the message rules become `Says`
    simp only [standard, explain_cons, explain_nil, mentions_other, table]
    simp

-- words of two groups: the group tried first decides
example : standard.explain (.other "player not found at version 3") =
    (.notFound, "message-not-found") := by
  decide

theorem classify_player (p : Player.Fault) :
    standard.classify p.toFailure = match p with
      | .notFound _ => .notFound
      | .duplicateName _ | .versionConflict .. => .dataConflict
      | .invalid _ => .validation
      | .poolExhausted _ => .resourceExhausted
      | .internal why => (table (.other why)).1 := by
  cases p with
  | internal why => exact congrArg Prod.fst (explain_standard (.other why))
  | _ => rfl

theorem classification_follows_table :
    (∀ f, standard.explain f = table f) ∧ (∀ f, empty.explain f = (.unclassified, "default")) ∧
    ∀ p : Player.Fault, standard.classify p.toFailure = match p with
      | .notFound _ => .notFound
      | .duplicateName _ | .versionConflict .. => .dataConflict
      | .invalid _ => .validation
      | .poolExhausted _ => .resourceExhausted
      | .internal why => (table (.other why)).1 :=
  ⟨explain_standard, explain_nil, classify_player⟩

end Classifier

end Relay.Failure
