import Relay.Proofs.Rounding
/-!
# The shortest digits single a double out

`Shortest.ofBits` looks for the decimal order `t` of the value first, from an estimate of
`log10 2` that is off by at most four (`Binary.order_between`), and then for the fewest
digits on the grids `10 ^ (t - n)` that round to the double. Seventeen digits always do: the
grid step is then below the width of the rounding interval, so one of the value's two
neighbours on the grid lies in it (`Binary.pick_seventeen`). Trailing zeros moved into the
exponent, the digits end in a nonzero digit and still round to the double
(`Shortest.ofBits_rounds`). Since no decimal rounds to two doubles, two finite nonzero doubles
with the same shortest digits have the same magnitude (`Shortest.ofBits_inj`).
-/
namespace Relay.Decimal

/-! ## Powers of two against powers of ten -/

-- `2 ^ 83 ≤ 10 ^ 25` and `10 ^ 3 ≤ 2 ^ 10` bound `log10 2` from both sides closely enough
-- for every exponent of a double
theorem two_pow_le_ten_pow {y g : Nat} (h : 25 * y ≤ 83 * g) : 2 ^ y ≤ 10 ^ g := by
  have key : (2 ^ y) ^ 83 ≤ (10 ^ g) ^ 83 :=
    calc (2 ^ y) ^ 83 = (2 ^ 83) ^ y := by rw [← pow_mul, ← pow_mul, mul_comm]
      _ ≤ (10 ^ 25) ^ y := Nat.pow_le_pow_left (by norm_num) y
      _ = 10 ^ (25 * y) := by rw [← pow_mul]
      _ ≤ 10 ^ (83 * g) := Nat.pow_le_pow_right (by norm_num) h
      _ = (10 ^ g) ^ 83 := by rw [← pow_mul, mul_comm]
  exact (Nat.pow_le_pow_iff_left (by norm_num)).mp key

theorem ten_pow_le_two_pow {w z : Nat} (h : 10 * w ≤ 3 * z) : 10 ^ w ≤ 2 ^ z := by
  have key : (10 ^ w) ^ 10 ≤ (2 ^ z) ^ 10 :=
    calc (10 ^ w) ^ 10 = 10 ^ (10 * w) := by rw [← pow_mul, mul_comm]
      _ ≤ 10 ^ (3 * z) := Nat.pow_le_pow_right (by norm_num) h
      _ = (10 ^ 3) ^ z := by rw [← pow_mul]
      _ ≤ (2 ^ 10) ^ z := Nat.pow_le_pow_left (by norm_num) z
      _ = (2 ^ z) ^ 10 := by rw [← pow_mul, ← pow_mul, mul_comm]
  exact (Nat.pow_le_pow_iff_left (by norm_num)).mp key

theorem two_zpow_le_ten_zpow {y g : Int} (hy : 0 ≤ y) (h : 25 * y ≤ 83 * g) :
    (2 : ℚ) ^ y ≤ 10 ^ g := by
  obtain ⟨Y, rfl⟩ := Int.eq_ofNat_of_zero_le hy
  obtain ⟨G, rfl⟩ := Int.eq_ofNat_of_zero_le (show 0 ≤ g by omega)
  rw [zpow_natCast, zpow_natCast]
  exact_mod_cast two_pow_le_ten_pow (by omega)

theorem ten_zpow_le_two_zpow {w z : Int} (hw : 0 ≤ w) (h : 10 * w ≤ 3 * z) :
    (10 : ℚ) ^ w ≤ 2 ^ z := by
  obtain ⟨W, rfl⟩ := Int.eq_ofNat_of_zero_le hw
  obtain ⟨Z, rfl⟩ := Int.eq_ofNat_of_zero_le (show 0 ≤ z by omega)
  rw [zpow_natCast, zpow_natCast]
  exact_mod_cast ten_pow_le_two_pow (by omega)

theorem zpow_le_zpow_of_inv {x y : ℚ} (hx : 0 < x) (hy : 0 < y) {a b : Int}
    (h : y ^ (-b) ≤ x ^ (-a)) : x ^ a ≤ y ^ b := by
  rw [zpow_neg, zpow_neg] at h
  exact (inv_le_inv₀ (zpow_pos hy b) (zpow_pos hx a)).mp h

theorem two_zpow_le_guess {x : Int} (hx : -1074 ≤ x) (hx' : x ≤ 1023) :
    (2 : ℚ) ^ (x + 1) ≤ 10 ^ ((x + 1) * 30103 / 100000 + 3) := by
  rcases le_or_gt 0 (x + 1) with hy | hy
  · exact two_zpow_le_ten_zpow hy (by omega)
  · rcases le_or_gt 0 ((x + 1) * 30103 / 100000 + 3) with hg | hg
    · exact (zpow_le_one_of_nonpos₀ one_le_two hy.le).trans (one_le_zpow₀ (by norm_num) hg)
    · exact zpow_le_zpow_of_inv two_pos (by norm_num) (ten_zpow_le_two_zpow (by omega) (by omega))

theorem guess_le_two_zpow {x : Int} (hx : -1074 ≤ x) (hx' : x ≤ 1023) :
    (10 : ℚ) ^ ((x + 1) * 30103 / 100000 - 4) ≤ 2 ^ x := by
  rcases le_or_gt 0 x with hy | hy
  · rcases le_or_gt 0 ((x + 1) * 30103 / 100000 - 4) with hg | hg
    · exact ten_zpow_le_two_zpow hg (by omega)
    · exact (zpow_le_one_of_nonpos₀ (by norm_num) hg.le).trans (one_le_zpow₀ one_le_two hy)
  · exact zpow_le_zpow_of_inv (by norm_num) two_pos (two_zpow_le_ten_zpow (by omega) (by omega))

theorem scaled_sub {a a' : Nat} (h : a' ≤ a) (p q : Int) :
    scaled a p q - scaled a' p q = scaled (a - a') p q := by
  rw [scaled, scaled, scaled, Nat.cast_sub h]
  ring

theorem scaled_mul_pow_ten (a j : Nat) (p q : Int) :
    scaled (a * 10 ^ j) p q = scaled a p q * 10 ^ (j : Int) := by
  rw [scaled, scaled, zpow_natCast]
  push_cast
  ring

theorem scaled_succ (c : Nat) (k : Int) : scaled (c + 1) 0 k = scaled c 0 k + 10 ^ k := by
  rw [scaled, scaled]
  push_cast
  ring

theorem scaled_lt_scaled_iff {a a' : Nat} (p q : Int) : scaled a p q < scaled a' p q ↔ a < a' := by
  refine ⟨fun h => ?_, fun h => scaled_lt_scaled h p q⟩
  by_contra hge
  exact absurd h (not_lt.mpr ((scaled_lt_scaled_iff_le p q).mpr (not_lt.mp hge)))
where
  scaled_lt_scaled_iff_le (p q : Int) : scaled a' p q ≤ scaled a p q ↔ a' ≤ a := by
    unfold scaled
    have h2 : (0 : ℚ) < 2 ^ p * 10 ^ q := by positivity
    rw [mul_assoc, mul_assoc, mul_le_mul_iff_of_pos_right h2]
    exact Nat.cast_le

@[simp] theorem scaled_one_zero (t : Int) : scaled 1 0 t = 10 ^ t := by
  simp [scaled]

/-! ## The order of a double -/

theorem find?_consecutive (p : Int → Bool) :
    ∀ (n : Nat) (a : Int), p (a + n) = true → p (a - 1) = false →
      ∃ t, ((List.range (n + 1)).map fun i : Nat => a + i).find? p = some t ∧
        p t = true ∧ p (t - 1) = false := by
  intro n
  induction n with
  | zero =>
    intro a ha ha'
    exact ⟨a, by simpa using ha, by simpa using ha, ha'⟩
  | succ n ih =>
    intro a ha ha'
    rw [List.range_succ_eq_map, List.map_cons, List.map_map, List.find?_cons]
    cases hpa : p (a + ((0 : Nat) : Int))
    · -- the rest of the list counts up from `a + 1`, whose predecessor `a` failed
      have hshift : ((fun i : Nat => a + i) ∘ Nat.succ) = fun i : Nat => (a + 1) + i := by
        funext i
        simp only [Function.comp, Nat.succ_eq_add_one, Nat.cast_add, Nat.cast_one]
        ring
      rw [hshift]
      refine ih (a + 1) (by rw [← ha]; congr 1; push_cast; ring) ?_
      simpa using hpa
    · exact ⟨a, by simp, by simpa using hpa, ha'⟩

namespace Binary

variable {b : Binary}

theorem Valid.two_zpow_le (hv : b.Valid) : (2 : ℚ) ^ (b.exp + Nat.log2 b.mant) ≤ b.value := by
  have hm : 2 ^ Nat.log2 b.mant ≤ b.mant := Nat.log2_self_le hv.mant_pos.ne'
  rw [value, scaled, zpow_add₀ two_ne_zero, zpow_natCast, zpow_zero, mul_one, mul_comm]
  gcongr
  exact_mod_cast hm

theorem value_lt_two_zpow (b : Binary) : b.value < (2 : ℚ) ^ (b.exp + Nat.log2 b.mant + 1) := by
  have hm : b.mant < 2 ^ (Nat.log2 b.mant + 1) := Nat.lt_log2_self
  rw [value, scaled, add_assoc, zpow_add₀ two_ne_zero, zpow_zero, mul_one, mul_comm,
    show ((Nat.log2 b.mant : Nat) : Int) + 1 = ((Nat.log2 b.mant + 1 : Nat) : Int) by push_cast; ring,
    zpow_natCast]
  gcongr
  exact_mod_cast hm

theorem below_iff (t : Int) :
    (compareScaled b.mant b.exp 0 1 0 t == .lt) = true ↔ b.value < 10 ^ t := by
  rw [compareScaled_eq, beq_iff_eq, compare_lt_iff_lt, scaled_one_zero]
  rfl

theorem Valid.order_between (hv : b.Valid) : (10 : ℚ) ^ (b.order - 1) ≤ b.value ∧
    b.value < 10 ^ b.order := by
  have hx := hv.exp_ge
  have hx' := hv.top
  have hlog : (0 : Int) ≤ Nat.log2 b.mant := Int.natCast_nonneg _
  set g := (b.exp + (Nat.log2 b.mant : Int) + 1) * 30103 / 100000
  -- the window `g - 3 .. g + 3` holds the order: its last member is above the value and the
  -- one before its first is not
  have hlast : (compareScaled b.mant b.exp 0 1 0 (g - 3 + (6 : Nat)) == .lt) = true := by
    rw [below_iff, show g - 3 + ((6 : Nat) : Int) = g + 3 by push_cast; ring]
    exact (value_lt_two_zpow b).trans_le (two_zpow_le_guess (by omega) (by omega))
  have hbefore : (compareScaled b.mant b.exp 0 1 0 (g - 3 - 1) == .lt) = false := by
    rw [Bool.eq_false_iff, ne_eq, below_iff, not_lt, show g - 3 - 1 = g - 4 by ring]
    exact (guess_le_two_zpow (by omega) (by omega)).trans hv.two_zpow_le
  obtain ⟨t, hfind, hin, hout⟩ :=
    find?_consecutive (fun t => compareScaled b.mant b.exp 0 1 0 t == .lt) 6 (g - 3) hlast hbefore
  have ht : b.order = t := by
    unfold order
    dsimp only
    rw [hfind]
  rw [ht]
  rw [below_iff] at hin
  rw [Bool.eq_false_iff, ne_eq, below_iff, not_lt] at hout
  exact ⟨hout, hin⟩

/-! ## Seventeen digits always do -/

theorem Valid.pick_seventeen (hv : b.Valid) : (b.pick b.order 17).isSome := by
  set k := b.order - ((17 : Nat) : Int)
  set c := b.floorAt k
  have hδ : (if b.narrowBelow then 1 else 2) ≤ 4 * b.mant := by
    have := hv.mant_pos
    split <;> omega
  -- the interval is `2 + δ` quarters wide, at least `10 ^ k` since the value is below `10 ^ 17`
  -- quarters of its own grid
  have hwidth : b.high - b.low = scaled (2 + if b.narrowBelow then 1 else 2) (b.exp - 2) 0 := by
    rw [high, low, scaled_sub (by omega)]
    congr 1
    omega
  have hfits : 4 * b.mant < (2 + if b.narrowBelow then 1 else 2) * 10 ^ 16 := by
    have hm := hv.mant_lt
    by_cases hn : b.narrowBelow = true
    · rw [hv.narrow hn]
      simp [hn]
    · simp only [hn, Bool.false_eq_true, if_false]
      omega
  have hstep : (10 : ℚ) ^ k < b.high - b.low := by
    have h16 : (10 : ℚ) ^ k * 10 ^ ((16 : Nat) : Int) = 10 ^ (b.order - 1) := by
      rw [← zpow_add₀ (by norm_num)]
      congr 1
      push_cast
      ring
    have hlt : (10 : ℚ) ^ k * 10 ^ ((16 : Nat) : Int) < (b.high - b.low) * 10 ^ ((16 : Nat) : Int) := by
      rw [h16, hwidth, ← scaled_mul_pow_ten]
      calc (10 : ℚ) ^ (b.order - 1) ≤ b.value := hv.order_between.1
        _ = scaled (4 * b.mant) (b.exp - 2) 0 := value_eq b
        _ < _ := scaled_lt_scaled hfits _ _
    exact lt_of_mul_lt_mul_right hlt (by positivity)
  obtain ⟨hfloor, habove⟩ := b.floorAt_between k
  apply pick_isSome
  rcases lt_or_ge b.low (scaled c 0 k) with hc | hc
  · -- the neighbour below lies above the interval's start
    left
    rw [admits_iff]
    exact ⟨.inl hc, .inl (hfloor.trans_lt (value_lt_high b))⟩
  · -- otherwise the neighbour above lies within one step of the start
    right
    rw [admits_iff]
    refine ⟨.inl (hv.low_lt_value.trans habove), .inl ?_⟩
    rw [scaled_succ]
    linarith

theorem Valid.shortest_pick (hv : b.Valid) : ∃ c k,
    (List.range 17).findSome? (fun i => b.pick b.order (i + 1)) = some (c, k) ∧
      0 < c ∧ c ≤ 10 ^ 17 ∧ b.Rounds (scaled c 0 k) := by
  obtain ⟨⟨c, k⟩, hfind⟩ : ∃ r, (List.range 17).findSome? (fun i => b.pick b.order (i + 1)) =
      some r := by
    refine Option.ne_none_iff_exists'.mp fun hnone => ?_
    have h16 := List.findSome?_eq_none_iff.mp hnone 16 (by simp)
    exact absurd h16 (Option.isSome_iff_ne_none.mp hv.pick_seventeen)
  obtain ⟨i, hi, hpick⟩ := List.exists_of_findSome?_eq_some hfind
  obtain ⟨rfl, hadm, hc⟩ := pick_eq_some b hpick
  have hr := (admits_iff b c _).mp hadm
  refine ⟨c, _, hfind, ?_, ?_, hr⟩
  · -- a decimal that rounds lies above the interval's start, which is positive
    rcases Nat.eq_zero_or_pos c with rfl | hpos
    · have hlow : 0 < b.low := scaled_pos (by have := hv.mant_pos; split <;> omega) _ _
      exact absurd hr.low_le (not_le.mpr (by simpa [scaled] using hlow))
    · exact hpos
  · -- the floor on the grid `10 ^ (order - n)` is below `10 ^ n`
    have hn : i + 1 ≤ 17 := by simp at hi; omega
    have hfl : b.floorAt (b.order - ((i + 1 : Nat) : Int)) < 10 ^ (i + 1) := by
      have htop : scaled (10 ^ (i + 1)) 0 (b.order - ((i + 1 : Nat) : Int)) = 10 ^ b.order := by
        rw [scaled, zpow_zero, mul_one]
        push_cast
        rw [← zpow_natCast, ← zpow_add₀ (by norm_num)]
        congr 1
        push_cast
        ring
      rw [← scaled_lt_scaled_iff 0 (b.order - ((i + 1 : Nat) : Int)), htop]
      exact (b.floorAt_between _).1.trans_lt hv.order_between.2
    have hpow : 10 ^ (i + 1) ≤ 10 ^ 17 := Nat.pow_le_pow_right (by norm_num) hn
    rcases hc with rfl | rfl <;> omega

end Binary

/-! ## Trailing zeros -/

theorem scaled_dropZeros : ∀ (fuel c : Nat) (k : Int),
    scaled (dropZeros fuel c k).digits 0 (dropZeros fuel c k).exp = scaled c 0 k
  | 0, c, k => rfl
  | fuel + 1, c, k => by
    unfold dropZeros
    split
    · rename_i h
      have hc : (c : ℚ) = ((c / 10 : Nat) : ℚ) * 10 := by
        exact_mod_cast (Nat.div_mul_cancel (Nat.dvd_of_mod_eq_zero h.2)).symm
      rw [scaled_dropZeros fuel, scaled, scaled, hc, zpow_add₀ (by norm_num)]
      ring
    · rfl

theorem dropZeros_normal : ∀ (fuel c : Nat) (k : Int), 0 < c → c < 10 ^ (fuel + 1) →
    0 < (dropZeros fuel c k).digits ∧ (dropZeros fuel c k).digits % 10 ≠ 0
  | 0, c, k, h0, h => by
    simp only [dropZeros]
    omega
  | fuel + 1, c, k, h0, h => by
    unfold dropZeros
    split
    · rename_i hz
      exact dropZeros_normal fuel (c / 10) (k + 1) (by omega) (by rw [pow_succ] at h; omega)
    · rename_i hz
      exact ⟨h0, fun h10 => hz ⟨by omega, h10⟩⟩

/-! ## The shortest digits of a double -/

theorem Shortest.ofBits_rounds {bits : UInt64} (hv : (Binary.ofBits bits).Valid) :
    0 < (Shortest.ofBits bits).digits ∧ (Shortest.ofBits bits).digits % 10 ≠ 0 ∧
      (Binary.ofBits bits).Rounds (scaled (Shortest.ofBits bits).digits 0 (Shortest.ofBits bits).exp) := by
  obtain ⟨c, k, hfind, hc0, hc17, hr⟩ := hv.shortest_pick
  unfold Shortest.ofBits
  dsimp only
  rw [hfind]
  dsimp only
  obtain ⟨hd0, hd10⟩ := dropZeros_normal 20 c k hc0 (lt_of_le_of_lt hc17 (by norm_num))
  exact ⟨hd0, hd10, by rw [scaled_dropZeros]; exact hr⟩

theorem Shortest.ofBits_inj {bits bits' : UInt64}
    (h0 : 0 < bits.toNat % 2 ^ 63) (hf : bits.toNat % 2 ^ 63 < 2047 * 2 ^ 52)
    (h0' : 0 < bits'.toNat % 2 ^ 63) (hf' : bits'.toNat % 2 ^ 63 < 2047 * 2 ^ 52)
    (h : Shortest.ofBits bits = Shortest.ofBits bits') :
    bits.toNat % 2 ^ 63 = bits'.toNat % 2 ^ 63 := by
  have hv := Binary.valid_ofMagnitude h0 hf
  have hv' := Binary.valid_ofMagnitude h0' hf'
  rw [← Binary.ofBits_eq] at hv hv'
  have hr := (Shortest.ofBits_rounds hv).2.2
  have hr' := (Shortest.ofBits_rounds hv').2.2
  rw [h, Binary.ofBits_eq] at hr
  rw [Binary.ofBits_eq] at hr'
  exact Binary.rounds_unique h0 h0' hf hf' hr hr'

end Relay.Decimal
