import Relay.Proofs.Store
import Relay.Cache.Results
/-!
# Counters and the keys of the result cache

A counter is stored as the decimal text of a 64-bit integer: `incr` writes `toString n` and
the generation of a resource is read back with the signed 64-bit syntax. The first half shows
that the two agree, so a counter counts: after `incr` the generation reads one more than
before. The second half is about the keys: an entry's key embeds its generation in a way that
can be read back, and always starts with the resource's prefix.
-/
namespace Relay.Text.IntFormat

theorem digit_bounds (c : Char) (h : c.isDigit = true) :
    0 ≤ (c.toNat : Int) - 48 ∧ (c.toNat : Int) - 48 ≤ 9 := by
  have h0 : '0'.toNat = 48 := rfl
  have h9 : '9'.toNat = 57 := rfl
  have := Char.isDigit_iff_toNat.mp h
  omega

theorem le_ofDigitChars (l : List Char) (acc : Nat) : acc ≤ Nat.ofDigitChars 10 l acc := by
  rw [Nat.ofDigitChars_eq_ofDigitChars_zero]
  have : acc ≤ 10 ^ l.length * acc := Nat.le_mul_of_pos_left acc (Nat.one_le_pow _ _ (by decide))
  omega

theorem digitsFrom_pos (f : IntFormat) (l : List Char) (hl : ∀ c ∈ l, c.isDigit = true)
    (acc : Nat) (hle : (Nat.ofDigitChars 10 l acc : Int) ≤ f.greatest) :
    f.digitsFrom false acc l = .ok (Nat.ofDigitChars 10 l acc) := by
  induction l generalizing acc with
  | nil => simp [digitsFrom, Nat.ofDigitChars_nil]
  | cons c r ih =>
    have hc : c.isDigit = true := hl c (by simp)
    rw [Nat.ofDigitChars_cons] at hle ⊢
    -- every prefix reads at most the whole, so no step leaves the range
    have hnext := le_ofDigitChars r (10 * acc + (c.toNat - '0'.toNat))
    have hd := digit_bounds c hc
    have hstep : (acc : Int) * 10 + (c.toNat - 48) =
        ((10 * acc + (c.toNat - '0'.toNat) : Nat) : Int) := by
      have h0 : '0'.toNat = 48 := rfl
      omega
    simp only [digitsFrom, hc, if_true, Bool.false_eq_true, if_false, hstep]
    rw [if_neg (by omega)]
    exact ih (fun d hd => hl d (by simp [hd])) _ hle

theorem digitsFrom_neg (f : IntFormat) (l : List Char) (hl : ∀ c ∈ l, c.isDigit = true)
    (acc : Nat) (hle : f.least ≤ -(Nat.ofDigitChars 10 l acc : Int)) :
    f.digitsFrom true (-(acc : Int)) l = .ok (-(Nat.ofDigitChars 10 l acc : Int)) := by
  induction l generalizing acc with
  | nil => simp [digitsFrom, Nat.ofDigitChars_nil]
  | cons c r ih =>
    have hc : c.isDigit = true := hl c (by simp)
    rw [Nat.ofDigitChars_cons] at hle ⊢
    have hnext := le_ofDigitChars r (10 * acc + (c.toNat - '0'.toNat))
    have hd := digit_bounds c hc
    have hstep : -(acc : Int) * 10 - (c.toNat - 48) =
        -((10 * acc + (c.toNat - '0'.toNat) : Nat) : Int) := by
      have h0 : '0'.toNat = 48 := rfl
      omega
    simp only [digitsFrom, hc, if_true, hstep]
    rw [if_neg (by omega)]
    exact ih (fun d hd => hl d (by simp [hd])) _ hle

theorem digitsFrom_range (f : IntFormat) (neg : Bool) (l : List Char) (acc n : Int)
    (hacc : if neg then f.least ≤ acc ∧ acc ≤ 0 else 0 ≤ acc ∧ acc ≤ f.greatest)
    (h : f.digitsFrom neg acc l = .ok n) :
    if neg then f.least ≤ n ∧ n ≤ 0 else 0 ≤ n ∧ n ≤ f.greatest := by
  induction l generalizing acc with
  | nil =>
    simp only [digitsFrom, Except.ok.injEq] at h
    exact h ▸ hacc
  | cons c r ih =>
    simp only [digitsFrom] at h
    split at h
    · rename_i hc
      have hd := digit_bounds c hc
      cases neg with
      | true =>
        simp only [if_true] at h hacc ⊢
        split at h
        · cases h
        · exact ih _ (by simp only [if_true]; omega) h
      | false =>
        simp only [Bool.false_eq_true, if_false] at h hacc ⊢
        split at h
        · cases h
        · exact ih _ (by simp only [Bool.false_eq_true, if_false]; omega) h
    · cases h

theorem parse_eq_digitsFrom (f : IntFormat) (s : String) (n : Int) (h : f.parse s = .ok n) :
    ∃ neg l, f.digitsFrom neg 0 l = .ok n ∧ (neg = true → f.least < 0) := by
  dsimp only [parse] at h
  generalize s.toList = cs at h
  rcases cs with _ | ⟨c, r⟩
  · cases h
  · simp only [List.isEmpty_cons, Bool.false_eq_true, if_false] at h
    split at h
    · rename_i heq
      obtain ⟨-, rfl⟩ := List.cons.inj heq
      split at h
      · cases h
      · exact ⟨false, _, h, by simp⟩
    · rename_i heq
      obtain ⟨-, rfl⟩ := List.cons.inj heq
      by_cases hl : f.least < 0
      · simp only [hl, if_true] at h
        split at h
        · cases h
        · exact ⟨true, _, h, fun _ => hl⟩
      · simp only [hl, if_false, List.isEmpty_cons, Bool.false_eq_true] at h
        exact ⟨false, _, h, by simp⟩
    · simp only [List.isEmpty_cons, Bool.false_eq_true, if_false] at h
      exact ⟨false, _, h, by simp⟩

theorem parse_range (f : IntFormat) (s : String) (n : Int) (hf : f.least ≤ 0 ∧ 0 ≤ f.greatest)
    (h : f.parse s = .ok n) : f.least ≤ n ∧ n ≤ f.greatest := by
  obtain ⟨neg, l, hl, hneg⟩ := parse_eq_digitsFrom f s n h
  have := digitsFrom_range f neg l 0 n (by cases neg <;> simp <;> omega) hl
  cases neg <;> simp at this <;> omega

theorem parse_of_digit_head (f : IntFormat) (s : String) (c : Char) (cs : List Char)
    (h : s.toList = c :: cs) (hc : c.isDigit = true) :
    f.parse s = f.digitsFrom false 0 (c :: cs) := by
  have hplus : c ≠ '+' := by rintro rfl; simp at hc
  have hminus : c ≠ '-' := by rintro rfl; simp at hc
  unfold parse
  simp only [h, List.isEmpty_cons, Bool.false_eq_true, if_false]
  split
  · rename_i r heq; exact absurd (List.cons.inj heq).1 hplus
  · rename_i r heq; exact absurd (List.cons.inj heq).1 hminus
  · rfl

theorem parse_of_minus (f : IntFormat) (s : String) (cs : List Char) (hf : f.least < 0)
    (h : s.toList = '-' :: cs) (hcs : cs ≠ []) :
    f.parse s = f.digitsFrom true 0 cs := by
  unfold parse
  simp [h, hf, hcs]

theorem parse_toString (n : Int) (h : fitsInt64 n = true) :
    (signed 64).parse (toString n) = .ok n := by
  have hr : int64Min ≤ n ∧ n ≤ int64Max := by simpa [fitsInt64] using h
  have hlo : -(2 : Int) ^ 63 ≤ n := by simpa [int64Min] using hr.1
  have hhi : n ≤ (2 : Int) ^ 63 - 1 := by simpa [int64Max] using hr.2
  have hdig : ∀ m : Nat, ∀ d ∈ Nat.toDigits 10 m, d.isDigit = true :=
    fun m d hd => Nat.isDigit_of_mem_toDigits (by decide) (by decide) hd
  rw [Int.toString_eq_repr, Int.repr_eq_if]
  by_cases hn : 0 ≤ n
  · rw [if_pos hn]
    obtain ⟨c, cs, hcs⟩ := List.exists_cons_of_ne_nil (@Nat.toDigits_ne_nil n.toNat 10)
    have hval := digitsFrom_pos (signed 64) (Nat.toDigits 10 n.toNat) (hdig n.toNat) 0
      (by simp [signed]; omega)
    simp only [Nat.ofDigitChars_ten_toDigits, Int.toNat_of_nonneg hn] at hval
    rw [parse_of_digit_head _ _ c cs (by rw [Nat.toList_repr, hcs])
      (hdig n.toNat c (by simp [hcs])), ← hcs]
    simpa using hval
  · rw [if_neg hn]
    have hval := digitsFrom_neg (signed 64) (Nat.toDigits 10 (-n).toNat) (hdig _) 0
      (by simp [signed]; omega)
    simp only [Nat.ofDigitChars_ten_toDigits] at hval
    rw [parse_of_minus _ _ (Nat.toDigits 10 (-n).toNat) (by decide)
      (by simp [Nat.toList_repr]) Nat.toDigits_ne_nil]
    simpa [show ((-n).toNat : Int) = -n by omega] using hval

end Relay.Text.IntFormat

namespace Relay.Cache

theorem colon_not_mem_toString (g : Int) : ':' ∉ (toString g).toList := by
  have hdig : ∀ m : Nat, ':' ∉ (Nat.repr m).toList := by
    intro m hm
    rw [Nat.toList_repr] at hm
    have := Nat.isDigit_of_mem_toDigits (by decide) (by decide) hm
    simp at this
  rw [Int.toString_eq_repr, Int.repr_eq_if]
  split
  · exact hdig _
  · simp only [String.toList_append, List.mem_append, not_or]
    exact ⟨by decide, hdig _⟩

theorem eq_of_append_cons_eq {x : Char} {a a' b b' : List Char} (ha : x ∉ a) (ha' : x ∉ a')
    (h : a ++ x :: b = a' ++ x :: b') : a = a' ∧ b = b' := by
  induction a generalizing a' with
  | nil =>
    cases a' with
    | nil => simpa using h
    | cons y a' =>
      obtain ⟨rfl, -⟩ := List.cons.inj h
      simp at ha'
  | cons y a ih =>
    cases a' with
    | nil =>
      obtain ⟨rfl, -⟩ := List.cons.inj h
      simp at ha
    | cons z a' =>
      obtain ⟨rfl, ht⟩ := List.cons.inj h
      have := ih (fun hm => ha (List.mem_cons_of_mem _ hm))
        (fun hm => ha' (List.mem_cons_of_mem _ hm)) ht
      exact ⟨by rw [this.1], this.2⟩

theorem hasPrefix_append (p q : String) : hasPrefix p (p ++ q) = true := by
  simp [hasPrefix, String.toList_append]

namespace Results

theorem hasPrefix_entryKey (r shape : String) (g : Int) :
    hasPrefix (r ++ ":") (entryKey r g shape) = true := by
  have : entryKey r g shape = (r ++ ":") ++ ("g" ++ toString g ++ ":" ++ shape) := by
    simp only [entryKey, String.append_assoc]
    rfl
  rw [this]
  exact hasPrefix_append _ _

theorem entryKey_inj {r shape shape' : String} {g g' : Int}
    (hg : fitsInt64 g = true) (hg' : fitsInt64 g' = true)
    (h : entryKey r g shape = entryKey r g' shape') : g = g' ∧ shape = shape' := by
  unfold entryKey at h
  simp only [String.append_assoc, String.append_right_inj] at h
  have hl := congrArg String.toList h
  simp only [String.toList_append] at hl
  obtain ⟨hgl, hsl⟩ :=
    eq_of_append_cons_eq (colon_not_mem_toString g) (colon_not_mem_toString g') hl
  have hs : toString g = toString g' := String.toList_inj.mp hgl
  have hparse := Text.IntFormat.parse_toString g hg
  rw [hs, Text.IntFormat.parse_toString g' hg'] at hparse
  exact ⟨(Except.ok.inj hparse).symm, String.toList_inj.mp hsl⟩

variable (s : Store) (c : Clock) (r : String)

theorem generation_ok (h : s.available = true) :
    generation s c r = match s.live? c.mono (generationKey r) with
      | some raw => ((Text.IntFormat.signed 64).parse raw).toOption
      | none => some 0 := by
  simp only [generation, Store.get_ok s c h]
  cases s.live? c.mono (generationKey r) <;> rfl

theorem generation_congr {s' : Store} (ha : s'.available = s.available)
    (h : s'.find? (generationKey r) = s.find? (generationKey r)) :
    generation s' c r = generation s c r := by
  simp only [generation, Store.get_congr s c ha h]

theorem generation_lasting
    (h : ∀ e, s.find? (generationKey r) = some e → e.expiresAt = none) (c' : Clock) :
    generation s c r = generation s c' r := by
  have hlive : s.live? c.mono (generationKey r) = s.live? c'.mono (generationKey r) := by
    unfold Store.live?
    cases he : s.find? (generationKey r) with
    | none => rfl
    | some e => simp [Entry.isLive, h e he]
  simp only [generation, Store.get, hlive]

theorem generation_counter (h : s.available = true) (n : Int) (hn : fitsInt64 n = true) :
    generation (s.put (generationKey r) ⟨toString n, none⟩) c r = some n := by
  rw [generation_ok _ _ _ (by simpa using h), Store.live?_put]
  simp only [if_true, Entry.isLive, Text.IntFormat.parse_toString n hn]
  rfl

theorem incr_generationKey (h : s.available = true) :
    s.incr c (generationKey r) = match generation s c r with
      | some n =>
        if n = int64Max then .error (.panic .addOverflow)
        else .ok (n + 1, s.put (generationKey r) ⟨toString (n + 1), none⟩)
      | none => .error (.fault (.corrupt (generationKey r))) := by
  rw [generation_ok s c r h]
  simp only [Store.incr, Store.check_ok s h, bind, Except.bind, pure, Except.pure]
  cases s.live? c.mono (generationKey r) with
  | none => rfl
  | some raw =>
    cases hp : (Text.IntFormat.signed 64).parse raw with
    | error => simp [hp, Except.toOption, throw, throwThe, MonadExceptOf.throw]
    | ok n =>
      by_cases hn : n = int64Max <;>
        simp [hp, hn, Except.toOption, throw, throwThe, MonadExceptOf.throw]

theorem incr_generationKey_eq_ok {n : Int} {s' : Store}
    (h : s.incr c (generationKey r) = .ok (n, s')) :
    s.available = true ∧ ∃ m, generation s c r = some m ∧ m ≠ int64Max ∧ n = m + 1 ∧
      s' = s.put (generationKey r) ⟨toString n, none⟩ := by
  cases ha : s.available with
  | false => rw [Store.incr_unavailable s c ha] at h; cases h
  | true =>
    refine ⟨rfl, ?_⟩
    rw [incr_generationKey s c r ha] at h
    split at h
    · rename_i m hm
      split at h
      · cases h
      · rename_i hmax
        cases h
        exact ⟨m, hm, hmax, rfl, rfl⟩
    · cases h

theorem generation_fits {n : Int} (h : generation s c r = some n) : fitsInt64 n = true := by
  unfold generation at h
  split at h
  · rename_i raw _
    cases hp : (Text.IntFormat.signed 64).parse raw with
    | error e => simp [hp, Except.toOption] at h
    | ok m =>
      simp only [hp, Except.toOption, Option.some.injEq] at h
      subst h
      have := Text.IntFormat.parse_range _ raw m (by decide) hp
      rw [show (Text.IntFormat.signed 64).least = int64Min from rfl,
        show (Text.IntFormat.signed 64).greatest = int64Max from rfl] at this
      simp [fitsInt64, this]
  · cases h; decide
  · cases h

end Results

end Relay.Cache
