import Relay.Decimal.Shortest
import Mathlib.Algebra.Order.Field.Power
import Mathlib.Tactic.Linarith
import Mathlib.Tactic.Positivity
import Mathlib.Tactic.NormNum
import Mathlib.Tactic.Ring
import Mathlib.Data.Nat.Cast.Order.Field
/-!
# The rounding intervals of doubles

The search for a double's shortest digits compares natural numbers scaled by powers of two
and ten. Read in the rationals, `compareScaled` compares `a * 2 ^ p * 10 ^ q` with
`b * 2 ^ r * 10 ^ s` (`compareScaled_eq`), `floorAt` is a floor, and `admits` says that a
decimal lies in the interval of reals that round to the double (`Binary.Rounds`): between
the midpoints to its two neighbours, the ends included when the mantissa is even.

The second half orders the doubles by their magnitude, the bits without the sign. The interval
of one double ends where the next one's begins, and of two neighbours one has an odd mantissa,
so the common end belongs to one of them only: no decimal rounds to two doubles
(`Binary.rounds_unique`).
-/
namespace Relay.Decimal

def scaled (a : Nat) (p q : Int) : ℚ := a * 2 ^ p * 10 ^ q

theorem compare_strictMono {α β : Type} [LinearOrder α] [LinearOrder β] {f : α → β}
    (hf : StrictMono f) (a b : α) : compare (f a) (f b) = compare a b := by
  rw [compare_iff, hf.compares, ← compare_iff]

theorem zpow_split {x : ℚ} (hx : x ≠ 0) (n : Nat) (m k : Int) (h : (n : Int) + m = k) :
    x ^ k = x ^ n * x ^ m := by
  rw [← h, zpow_add₀ hx, zpow_natCast]

theorem compareScaled_eq (a : Nat) (p q : Int) (b : Nat) (r s : Int) :
    compareScaled a p q b r s = compare (scaled a p q) (scaled b r s) := by
  -- both sides are natural numbers times the least powers of the two
  set K : ℚ := 2 ^ min p r * 10 ^ min q s
  have hK : 0 < K := by positivity
  have ha : scaled a p q =
      ((a * Nat.pow 2 (p - r).toNat * Nat.pow 10 (q - s).toNat : Nat) : ℚ) * K := by
    simp only [scaled, K, Nat.pow_eq, Nat.cast_mul, Nat.cast_pow, Nat.cast_ofNat]
    rw [zpow_split two_ne_zero (p - r).toNat (min p r) p (by omega),
      zpow_split (x := 10) (by norm_num) (q - s).toNat (min q s) q (by omega)]
    ring
  have hb : scaled b r s =
      ((b * Nat.pow 2 (-(p - r)).toNat * Nat.pow 10 (-(q - s)).toNat : Nat) : ℚ) * K := by
    simp only [scaled, K, Nat.pow_eq, Nat.cast_mul, Nat.cast_pow, Nat.cast_ofNat]
    rw [zpow_split two_ne_zero (-(p - r)).toNat (min p r) r (by omega),
      zpow_split (x := 10) (by norm_num) (-(q - s)).toNat (min q s) s (by omega)]
    ring
  rw [ha, hb, compare_strictMono (strictMono_mul_right_of_pos hK),
    compare_strictMono Nat.strictMono_cast]
  rfl

theorem scaled_pos {a : Nat} (ha : 0 < a) (p q : Int) : 0 < scaled a p q := by
  unfold scaled
  have : (0 : ℚ) < a := by exact_mod_cast ha
  positivity

theorem scaled_mul_ten (a : Nat) (p q : Int) (k : Int) :
    scaled a p (q + k) = scaled a p q * 10 ^ k := by
  rw [scaled, scaled, zpow_add₀ (by norm_num)]
  ring

theorem scaled_lt_scaled {a a' : Nat} (h : a < a') (p q : Int) : scaled a p q < scaled a' p q := by
  unfold scaled
  have : (a : ℚ) < a' := by exact_mod_cast h
  gcongr

theorem scaled_two_mul (a : Nat) (p q : Int) : scaled (2 * a) p q = scaled a (p + 1) q := by
  rw [scaled, scaled, zpow_add₀ two_ne_zero]
  push_cast
  ring

theorem scaled_eq_div (a : Nat) (p q : Int) :
    scaled a p q = ((a * 2 ^ p.toNat * 10 ^ q.toNat : Nat) : ℚ) /
      ((2 ^ (-p).toNat * 10 ^ (-q).toNat : Nat) : ℚ) := by
  have h2 : (2 : ℚ) ^ p = 2 ^ p.toNat / 2 ^ (-p).toNat := by
    rw [← zpow_natCast, ← zpow_natCast, ← zpow_sub₀ two_ne_zero, Int.toNat_sub_toNat_neg]
  have h10 : (10 : ℚ) ^ q = 10 ^ q.toNat / 10 ^ (-q).toNat := by
    rw [← zpow_natCast, ← zpow_natCast, ← zpow_sub₀ (by norm_num), Int.toNat_sub_toNat_neg]
  rw [scaled, h2, h10]
  push_cast
  ring

namespace Binary

variable (b : Binary)

def value : ℚ := scaled b.mant b.exp 0

def low : ℚ := scaled (4 * b.mant - if b.narrowBelow then 1 else 2) (b.exp - 2) 0

def high : ℚ := scaled (4 * b.mant + 2) (b.exp - 2) 0

def Rounds (x : ℚ) : Prop :=
  (b.low < x ∨ b.low = x ∧ b.mant % 2 = 0) ∧ (x < b.high ∨ x = b.high ∧ b.mant % 2 = 0)

theorem Rounds.le_high {b : Binary} {x : ℚ} (h : b.Rounds x) : x ≤ b.high := by
  rcases h.2 with h | ⟨h, -⟩
  · exact h.le
  · exact h.le

theorem Rounds.low_le {b : Binary} {x : ℚ} (h : b.Rounds x) : b.low ≤ x := by
  rcases h.1 with h | ⟨h, -⟩
  · exact h.le
  · exact h.le

theorem lower_iff (x y : ℚ) (closed : Bool) :
    (match compare x y with
      | .gt => true
      | .eq => closed
      | .lt => false) = true ↔ y < x ∨ y = x ∧ closed = true := by
  rcases lt_trichotomy x y with h | rfl | h
  · simp [compare_lt_iff_lt.mpr h, not_lt.mpr h.le, h.ne']
  · simp
  · simp [compare_gt_iff_gt.mpr h, h]

theorem upper_iff (x y : ℚ) (closed : Bool) :
    (match compare x y with
      | .lt => true
      | .eq => closed
      | .gt => false) = true ↔ x < y ∨ x = y ∧ closed = true := by
  rcases lt_trichotomy x y with h | rfl | h
  · simp [compare_lt_iff_lt.mpr h, h]
  · simp
  · simp [compare_gt_iff_gt.mpr h, not_lt.mpr h.le, h.ne']

theorem admits_iff (c : Nat) (k : Int) : b.admits c k = true ↔ b.Rounds (scaled c 0 k) := by
  unfold admits Rounds low high
  rw [Bool.and_eq_true, compareScaled_eq, compareScaled_eq]
  -- the two matches are the ones of `lower_iff` and `upper_iff`, arm for arm
  refine and_congr ((lower_iff _ _ _).trans ?_) ((upper_iff _ _ _).trans ?_) <;>
    simp only [beq_iff_eq]

theorem floorAt_between (k : Int) :
    scaled (b.floorAt k) 0 k ≤ b.value ∧ b.value < scaled (b.floorAt k + 1) 0 k := by
  set N := b.mant * 2 ^ b.exp.toNat * 10 ^ (-k).toNat
  set D := 2 ^ (-b.exp).toNat * 10 ^ k.toNat
  have hD : 0 < D := by positivity
  have hfloor : b.floorAt k = N / D := by simp only [floorAt, Nat.pow_eq, N, D]
  have hq : scaled b.mant b.exp (-k) = (N : ℚ) / D := by
    rw [scaled_eq_div, neg_neg]
  have hv : b.value = scaled b.mant b.exp (-k) * 10 ^ k := by
    rw [value, ← scaled_mul_ten, neg_add_cancel]
  have hc : ∀ c : Nat, scaled c 0 k = c * 10 ^ k := fun c => by simp [scaled]
  have hD' : (0 : ℚ) < D := by exact_mod_cast hD
  have hlo : ((N / D : Nat) : ℚ) ≤ (N : ℚ) / D := Nat.cast_div_le
  have hhi : (N : ℚ) / D < ((N / D : Nat) : ℚ) + 1 := by
    rw [div_lt_iff₀ hD', add_mul, one_mul]
    exact_mod_cast Nat.lt_div_mul_add (a := N) hD
  have h10 : (0 : ℚ) < 10 ^ k := by positivity
  rw [hv, hc, hc, hq, hfloor]
  push_cast
  exact ⟨mul_le_mul_of_nonneg_right hlo h10.le, mul_lt_mul_of_pos_right hhi h10⟩

theorem nearer_cases (c : Nat) (k : Int) : b.nearer c k = c ∨ b.nearer c k = c + 1 := by
  unfold nearer
  split
  · exact .inl rfl
  · exact .inr rfl
  · split
    · exact .inl rfl
    · exact .inr rfl

theorem pick_eq_some {t : Int} {n c : Nat} {k : Int} (h : b.pick t n = some (c, k)) :
    k = t - n ∧ b.admits c k = true ∧ (c = b.floorAt k ∨ c = b.floorAt k + 1) := by
  unfold pick at h
  dsimp only at h
  split_ifs at h with hboth hlo hhi
  · obtain ⟨rfl, rfl⟩ := Prod.mk.inj (Option.some.inj h)
    rw [Bool.and_eq_true] at hboth
    rcases nearer_cases b _ _ with he | he <;> rw [he]
    · exact ⟨rfl, hboth.1, .inl rfl⟩
    · exact ⟨rfl, hboth.2, .inr rfl⟩
  · obtain ⟨rfl, rfl⟩ := Prod.mk.inj (Option.some.inj h)
    exact ⟨rfl, hlo, .inl rfl⟩
  · obtain ⟨rfl, rfl⟩ := Prod.mk.inj (Option.some.inj h)
    exact ⟨rfl, hhi, .inr rfl⟩

theorem pick_isSome {t : Int} {n : Nat}
    (h : b.admits (b.floorAt (t - n)) (t - n) = true ∨
      b.admits (b.floorAt (t - n) + 1) (t - n) = true) : (b.pick t n).isSome := by
  unfold pick
  dsimp only
  rcases h with h | h
  · split_ifs <;> simp_all
  · split_ifs <;> simp_all

/-! ## Doubles in the order of their magnitudes -/

/-- What decoding guarantees of a finite nonzero double: a positive mantissa of at most 53
bits, a narrow gap below only at a power of two, and an exponent in the range of doubles. -/
structure Valid : Prop where
  mant_pos : 0 < b.mant
  mant_lt : b.mant < 2 ^ 53
  narrow : b.narrowBelow = true → b.mant = 2 ^ 52
  exp_ge : -1074 ≤ b.exp
  top : b.exp + Nat.log2 b.mant ≤ 1023

theorem value_eq : b.value = scaled (4 * b.mant) (b.exp - 2) 0 := by
  rw [value, show 4 * b.mant = 2 * (2 * b.mant) by omega, scaled_two_mul, scaled_two_mul]
  congr 1
  omega

theorem Valid.low_lt_value {b : Binary} (hv : b.Valid) : b.low < b.value := by
  rw [value_eq]
  exact scaled_lt_scaled (by have := hv.mant_pos; split <;> omega) _ _

theorem value_lt_high : b.value < b.high := by
  rw [value_eq]
  exact scaled_lt_scaled (by omega) _ _

theorem Valid.low_lt_high {b : Binary} (hv : b.Valid) : b.low < b.high :=
  hv.low_lt_value.trans b.value_lt_high

def ofMagnitude (n : Nat) : Binary :=
  if n / 2 ^ 52 = 0 then ⟨n % 2 ^ 52, -1074, false⟩
  else ⟨n % 2 ^ 52 + 2 ^ 52, ((n / 2 ^ 52 : Nat) : Int) - 1075,
    decide (n % 2 ^ 52 = 0 ∧ n / 2 ^ 52 > 1)⟩

theorem frac_toNat (bits : UInt64) :
    (bits &&& 0xFFFFFFFFFFFFF).toNat = bits.toNat % 2 ^ 63 % 2 ^ 52 := by
  rw [UInt64.toNat_and, show (0xFFFFFFFFFFFFF : UInt64).toNat = 2 ^ 52 - 1 from rfl,
    Nat.and_two_pow_sub_one_eq_mod, Nat.mod_mod_of_dvd _ (Nat.pow_dvd_pow 2 (by omega))]

theorem biased_toNat (bits : UInt64) :
    ((bits >>> 52) &&& 0x7FF).toNat = bits.toNat % 2 ^ 63 / 2 ^ 52 := by
  rw [UInt64.toNat_and, UInt64.toNat_shiftRight, show (0x7FF : UInt64).toNat = 2 ^ 11 - 1 from rfl,
    Nat.and_two_pow_sub_one_eq_mod, show (52 : UInt64).toNat % 64 = 52 from rfl,
    Nat.shiftRight_eq_div_pow, show 2 ^ 63 = 2 ^ 52 * 2 ^ 11 by norm_num,
    Nat.mod_mul_right_div_self]

theorem ofBits_eq (bits : UInt64) : ofBits bits = ofMagnitude (bits.toNat % 2 ^ 63) := by
  simp only [ofBits, ofMagnitude, frac_toNat, biased_toNat, Nat.pow_eq]

theorem valid_ofMagnitude {n : Nat} (h0 : 0 < n) (hn : n < 2047 * 2 ^ 52) :
    (ofMagnitude n).Valid := by
  unfold ofMagnitude
  split
  · rename_i hB
    refine ⟨by dsimp only; omega, by dsimp only; omega, by simp, le_refl _, ?_⟩
    have : Nat.log2 (n % 2 ^ 52) < 53 := (Nat.log2_lt (by omega)).mpr (by omega)
    dsimp only
    omega
  · rename_i hB
    refine ⟨by dsimp only; omega, by dsimp only; omega, ?_, by dsimp only; omega, ?_⟩
    · simp only [decide_eq_true_eq, and_imp]
      intro hf _
      rw [hf, Nat.zero_add]
    · have : Nat.log2 (n % 2 ^ 52 + 2 ^ 52) < 53 := (Nat.log2_lt (by omega)).mpr (by omega)
      dsimp only
      omega

theorem adjacent {n : Nat} (h0 : 0 < n) (hn : n + 1 < 2047 * 2 ^ 52) :
    (ofMagnitude n).high = (ofMagnitude (n + 1)).low ∧
      ((ofMagnitude n).mant % 2 = 1 ∨ (ofMagnitude (n + 1)).mant % 2 = 1) := by
  unfold high low ofMagnitude
  rcases Nat.lt_or_ge (n % 2 ^ 52 + 1) (2 ^ 52) with hs | hs
  · -- within a binade the mantissa counts up by one
    have hdiv : (n + 1) / 2 ^ 52 = n / 2 ^ 52 := by omega
    have hmod : (n + 1) % 2 ^ 52 = n % 2 ^ 52 + 1 := by omega
    by_cases hB : n / 2 ^ 52 = 0
    · simp only [hdiv, hmod, hB, if_true, Bool.false_eq_true, if_false]
      exact ⟨congrArg (scaled · _ 0) (by omega), by omega⟩
    · simp only [hdiv, hmod, hB, if_false, Nat.add_eq_zero_iff, one_ne_zero, and_false,
        false_and, decide_false, Bool.false_eq_true]
      exact ⟨congrArg (scaled · _ 0) (by omega), by omega⟩
  · -- the next binade starts at the least mantissa with twice the step
    have hdiv : (n + 1) / 2 ^ 52 = n / 2 ^ 52 + 1 := by omega
    have hmod : (n + 1) % 2 ^ 52 = 0 := by omega
    by_cases hB : n / 2 ^ 52 = 0
    · simp only [hdiv, hmod, hB, if_true, Nat.add_eq_zero_iff, one_ne_zero, and_false, if_false,
        gt_iff_lt, lt_self_iff_false, and_false, decide_false, Bool.false_eq_true]
      exact ⟨congrArg₂ (scaled · · 0) (by omega) (by omega), by omega⟩
    · simp only [hdiv, hmod, hB, if_false, Nat.add_eq_zero_iff, one_ne_zero, and_false,
        gt_iff_lt, true_and, decide_eq_true_eq]
      refine ⟨?_, by omega⟩
      rw [if_pos (by omega), show ((n / 2 ^ 52 + 1 : Nat) : Int) - 1075 - 2 =
        ((n / 2 ^ 52 : Nat) : Int) - 1075 - 2 + 1 by push_cast; omega, ← scaled_two_mul]
      exact congrArg (scaled · _ 0) (by omega)

theorem high_lt_low {n n' : Nat} (h0 : 0 < n) (h : n + 1 < n') (hn' : n' < 2047 * 2 ^ 52) :
    (ofMagnitude n).high < (ofMagnitude n').low := by
  induction n', h using Nat.le_induction with
  | base =>
    rw [(adjacent h0 (by omega)).1, ← (adjacent (n := n + 1) (by omega) hn').1]
    exact (valid_ofMagnitude (by omega) (by omega)).low_lt_high
  | succ m hm ih =>
    calc (ofMagnitude n).high < (ofMagnitude m).low := ih (by omega)
      _ < (ofMagnitude m).high := (valid_ofMagnitude (by omega) (by omega)).low_lt_high
      _ = (ofMagnitude (m + 1)).low := (adjacent (by omega) hn').1

theorem rounds_unique {n n' : Nat} {x : ℚ} (h0 : 0 < n) (h0' : 0 < n')
    (hn : n < 2047 * 2 ^ 52) (hn' : n' < 2047 * 2 ^ 52)
    (h : (ofMagnitude n).Rounds x) (h' : (ofMagnitude n').Rounds x) : n = n' := by
  -- the lower of two magnitudes rounds nothing that the higher rounds
  have below : ∀ {m m'}, 0 < m → m < m' → m' < 2047 * 2 ^ 52 → (ofMagnitude m).Rounds x →
      (ofMagnitude m').Rounds x → False := by
    intro m m' hm hlt hm' hx hx'
    rcases Nat.lt_or_ge (m + 1) m' with hfar | hnext
    · exact absurd (hx'.low_le.trans hx.le_high) (not_le.mpr (high_lt_low hm hfar hm'))
    · obtain rfl : m' = m + 1 := by omega
      obtain ⟨hend, hodd⟩ := adjacent hm hm'
      have hx_eq : x = (ofMagnitude m).high := le_antisymm hx.le_high (hend ▸ hx'.low_le)
      rcases hx.2 with hlt' | ⟨-, heven⟩
      · exact absurd hx_eq hlt'.ne
      rcases hx'.1 with hlt'' | ⟨-, heven'⟩
      · exact absurd (hx_eq ▸ hend) hlt''.ne'
      omega
  rcases lt_trichotomy n n' with hlt | heq | hgt
  · exact (below h0 hlt hn' h h').elim
  · exact heq
  · exact (below h0' hgt hn h' h).elim

end Binary

end Relay.Decimal
