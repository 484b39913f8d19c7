import Relay.Failure
import Relay.Text.Lower
/-!
# Classifying failures

A classifier is an ordered list of named rules; the first rule that matches a failure gives
its kind, and a failure that no rule matches is `UNCLASSIFIED` by the rule `default`. The
standard classifier first takes the kind a failure is tagged with, then, for untagged
failures only, looks for words in the lowercased message: validation words, then words for a
missing thing (ahead of conflict words, since "not found at version 3" is a missing row),
then conflict words, then words of exhaustion.
-/
namespace Relay.Failure

def occursIn (needle : List Char) : List Char → Bool
  | [] => needle.isEmpty
  | c :: r => needle.isPrefixOf (c :: r) || occursIn needle r

def includes (hay needle : String) : Bool := occursIn needle.toList hay.toList

def mentions (needles : List String) : Failure → Bool
  | .other why =>
    let low := Text.lower why
    needles.any (includes low)
  | _ => false

structure Rule where
  name : String
  kind : Kind
  test : Failure → Bool

abbrev Classifier := List Rule

namespace Classifier

def empty : Classifier := []

def standard : Classifier := [
  ⟨"tagged-validation", .validation, fun | .validation _ => true | _ => false⟩,
  ⟨"tagged-conflict", .dataConflict, fun | .conflict _ => true | _ => false⟩,
  ⟨"tagged-not-found", .notFound, fun | .notFound _ => true | _ => false⟩,
  ⟨"tagged-exhausted", .resourceExhausted, fun | .exhausted _ => true | _ => false⟩,
  ⟨"message-validation", .validation, mentions ["invalid", "validation", "malformed"]⟩,
  ⟨"message-not-found", .notFound, mentions ["not found", "no such"]⟩,
  ⟨"message-conflict", .dataConflict,
    mentions ["duplicate", "already exists", "version", "constraint"]⟩,
  ⟨"message-exhausted", .resourceExhausted,
    mentions ["timeout", "timed out", "pool", "too many", "rate limit"]⟩]

def explain (c : Classifier) (f : Failure) : Kind × String :=
  match c.find? (·.test f) with
  | some r => (r.kind, r.name)
  | none => (.unclassified, "default")

def classify (c : Classifier) (f : Failure) : Kind := (c.explain f).1

end Classifier

end Relay.Failure
