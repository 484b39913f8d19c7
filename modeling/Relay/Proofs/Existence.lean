import Relay.Player.Service
import Relay.Proofs.SharedRoster
import Relay.Proofs.Exclusivity
/-!
# Existence and lookup agree

Whether a player exists and what the lookup of its name finds are two questions put to the
same roster. On every name that is not blank, and in every state of the roster, they agree: the
existence check answers `true` exactly when the lookup finds a player, `false` exactly when the
lookup fails with `notFound`, and otherwise both fail with the same fault, that of the pool.
The verbs `exists` and `get-by-name` agree the same way on every payload that names a player
(`existence_agrees_with_lookup`).

A blank name is another matter. The existence check refuses it before the roster is asked,
while the lookup looks it up like any other name, and a name of blanks can be stored: the
rules on names only count characters. So after `insert` of `" "`, the lookup finds the player
that the existence check refuses to look for (`blank_name_found_but_refused`).
-/
namespace Relay.Player

namespace Roster

variable {r : Roster} {n : String}

theorem checkout_exhausted (h : r.poolSize = 0) :
    r.checkout = .error (.poolExhausted r.acquireTimeout) := by
  simp [checkout, h]

theorem contains_eq (h : 0 < r.poolSize) : r.contains n = .ok (r.find? n).isSome := by
  simp [contains, checkout_ok h, bind, Except.bind, pure, Except.pure]

theorem contains_exhausted (h : r.poolSize = 0) :
    r.contains n = .error (.poolExhausted r.acquireTimeout) := by
  simp [contains, checkout_exhausted h, bind, Except.bind]

end Roster

section Lookup

variable {r : Roster} {n : String} {p : Player}

theorem lookup_found (h : 0 < r.poolSize) (hf : r.find? n = some p) : lookup r n = .ok p := by
  simp [lookup, Roster.get, Roster.checkout_ok h, hf, bind, Except.bind, pure, Except.pure]

theorem lookup_missing (h : 0 < r.poolSize) (hf : r.find? n = none) :
    lookup r n = .error (.notFound n) := by
  simp [lookup, Roster.get, Roster.checkout_ok h, hf, bind, Except.bind, pure, Except.pure,
    throw, throwThe, MonadExceptOf.throw]

theorem lookup_exhausted (h : r.poolSize = 0) :
    lookup r n = .error (.poolExhausted r.acquireTimeout) := by
  simp [lookup, Roster.get, Roster.checkout_exhausted h, bind, Except.bind]

theorem contains_and_lookup (r : Roster) (n : String) :
    (r.contains n = .error (.poolExhausted r.acquireTimeout) ∧
        lookup r n = .error (.poolExhausted r.acquireTimeout)) ∨
      (∃ p, r.contains n = .ok true ∧ lookup r n = .ok p) ∨
      (r.contains n = .ok false ∧ lookup r n = .error (.notFound n)) := by
  rcases Nat.eq_zero_or_pos r.poolSize with h | h
  · exact .inl ⟨Roster.contains_exhausted h, lookup_exhausted h⟩
  · cases hf : r.find? n with
    | some p => exact .inr (.inl ⟨p, by simp [Roster.contains_eq h, hf], lookup_found h hf⟩)
    | none => exact .inr (.inr ⟨by simp [Roster.contains_eq h, hf], lookup_missing h hf⟩)

end Lookup

section Named

variable {r : Roster} {n : String}

theorem exists?_of_named (h : Text.trim n ≠ "") : exists? r n = r.contains n := by
  have hb : Text.isBlankText n = false := by simpa [Text.trim_eq_empty_iff] using h
  simp [exists?, hb]

theorem exists?_blank (h : Text.trim n = "") :
    exists? r n = .error (.invalid "name must not be blank") := by
  have hb : Text.isBlankText n = true := (Text.trim_eq_empty_iff n).mp h
  simp [exists?, hb]

theorem exists?_agrees (h : Text.trim n ≠ "") :
    (exists? r n = .ok true ↔ ∃ p, lookup r n = .ok p) ∧
      (exists? r n = .ok false ↔ lookup r n = .error (.notFound n)) ∧
      (∀ f, (∀ m, f ≠ .notFound m) → (exists? r n = .error f ↔ lookup r n = .error f)) := by
  rw [exists?_of_named h]
  rcases contains_and_lookup r n with ⟨hc, hl⟩ | ⟨p, hc, hl⟩ | ⟨hc, hl⟩ <;> rw [hc, hl]
  · exact ⟨by simp, by simp, fun _ _ => by simp⟩
  · exact ⟨by simp, by simp, fun f _ => by simp⟩
  · refine ⟨by simp, by simp, fun f hf => ?_⟩
    simpa using (hf n).symm

end Named

section Verbs

variable {r : Roster} {now : Moment} {payload : Json} {n : String}

theorem serve_exists (h : nameOf? payload = some n) :
    serve r now .exists payload =
      ((exists? r n).mapError Fault.toFailure).map fun b => (.bool b, r) := by
  simp only [serve, h]
  rfl

theorem serve_getByName (h : nameOf? payload = some n) :
    serve r now .getByName payload =
      ((lookup r n).mapError Fault.toFailure).map fun p => (p.toJson, r) := by
  simp only [serve, h]
  rfl

theorem verbs_agree (h : nameOf? payload = some n) (hn : Text.trim n ≠ "") :
    (serve r now .exists payload = .ok (.bool true, r) ↔
        ∃ p : Player, serve r now .getByName payload = .ok (p.toJson, r)) ∧
      (serve r now .exists payload = .ok (.bool false, r) ↔
        ∃ m, serve r now .getByName payload = .error (.notFound m)) := by
  rw [serve_exists h, serve_getByName h, exists?_of_named hn]
  rcases contains_and_lookup r n with ⟨hc, hl⟩ | ⟨p, hc, hl⟩ | ⟨hc, hl⟩ <;>
    simp [hc, hl, Except.mapError, Except.map, Fault.toFailure]

theorem verbs_refuse_unnamed (h : nameOf? payload = none) :
    (∃ m, serve r now .exists payload = .error (.validation m)) ∧
      ∃ m, serve r now .getByName payload = .error (.validation m) := by
  simp only [serve, h]
  exact ⟨⟨_, rfl⟩, ⟨_, rfl⟩⟩

end Verbs

/-- The existence check and the lookup, for every roster, name and payload. On a name that is
not blank the check answers `true` exactly when the lookup finds a player, `false` exactly when
the lookup fails with `notFound`, and any other failure is the same failure on both sides; a
blank name is refused before the roster is asked. The verbs `exists` and `get-by-name` agree
the same way on every payload that names a player by a name that is not blank, and both refuse
a payload that names none. -/
theorem existence_agrees_with_lookup (r : Roster) (now : Moment) (n : String) (payload : Json) :
    (Text.trim n ≠ "" →
      (exists? r n = .ok true ↔ ∃ p, lookup r n = .ok p) ∧
        (exists? r n = .ok false ↔ lookup r n = .error (.notFound n)) ∧
        (∀ f, (∀ m, f ≠ .notFound m) → (exists? r n = .error f ↔ lookup r n = .error f))) ∧
      (Text.trim n = "" → exists? r n = .error (.invalid "name must not be blank")) ∧
      (nameOf? payload = some n → Text.trim n ≠ "" →
        (serve r now .exists payload = .ok (.bool true, r) ↔
            ∃ p : Player, serve r now .getByName payload = .ok (p.toJson, r)) ∧
          (serve r now .exists payload = .ok (.bool false, r) ↔
            ∃ m, serve r now .getByName payload = .error (.notFound m))) ∧
      (nameOf? payload = none →
        (∃ m, serve r now .exists payload = .error (.validation m)) ∧
          ∃ m, serve r now .getByName payload = .error (.validation m)) :=
  ⟨exists?_agrees, exists?_blank, verbs_agree, verbs_refuse_unnamed⟩

/-- A name of one space keeps the rule on names, which counts characters, so a player can be
stored under it; the lookup then finds that player, and the existence check refuses to look. -/
theorem blank_name_found_but_refused :
    ∃ p r, enrol {} ⟨" ", 1, 0⟩ ⟨0⟩ = .ok (p, r) ∧ lookup r " " = .ok p ∧
      exists? r " " = .error (.invalid "name must not be blank") :=
  ⟨_, _, rfl, rfl, rfl⟩

end Relay.Player
