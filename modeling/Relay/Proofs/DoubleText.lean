import Relay.Proofs.ShortestDigits
import Relay.Decimal.Text
import Mathlib.Tactic.IntervalCases
/-!
# Written doubles are told apart

A double is written as its sign, then `0.0` for a zero, or its shortest digits laid out
positionally (`0.00ddd`, `ddd00.0`, `dd.ddd`) or as `d.ddde±x`. Digits without zeros at
either end (`Trimmed`) can be read back from either layout: the positional text splits at its
point into two runs of digits that give the digits and the order back (`unposition`), the
other at its `e` into the mantissa and the exponent (`mantissaOf`, `orderOf`), and only the
second holds an `e`. So a layout tells shortest digits apart (`Layout.body_inj`), and with
`Shortest.ofBits_inj`, the JSON writer writes two finite doubles alike only when they are the
same double (`Layout.render_inj`).
-/
namespace Relay.Decimal

/-! ## Digits -/

structure Trimmed (ds : List Char) : Prop where
  ne_nil : ds ≠ []
  digits : ∀ c ∈ ds, c.isDigit = true
  head : ds.head? ≠ some '0'
  last : ds.getLast? ≠ some '0'

theorem digitChar_eq_zero {d : Nat} (hd : d < 10) (h : Nat.digitChar d = '0') : d = 0 := by
  interval_cases d <;> simp_all [Nat.digitChar]

theorem toDigits_head : ∀ n : Nat, 0 < n → (Nat.toDigits 10 n).head? ≠ some '0'
  | n, hn => by
    rcases Nat.lt_or_ge n 10 with hlt | hge
    · rw [Nat.toDigits_of_lt_base hlt, List.head?_cons, ne_eq, Option.some.injEq]
      exact fun h => absurd (digitChar_eq_zero hlt h) hn.ne'
    · -- the leading digits are those of `n / 10`
      rw [Nat.toDigits_of_base_le (by decide) hge, List.head?_append_of_ne_nil _ Nat.toDigits_ne_nil]
      exact toDigits_head (n / 10) (by omega)

theorem toDigits_last {n : Nat} (hn : n % 10 ≠ 0) : (Nat.toDigits 10 n).getLast? ≠ some '0' := by
  rcases Nat.lt_or_ge n 10 with hlt | hge
  · rw [Nat.toDigits_of_lt_base hlt, List.getLast?_singleton, ne_eq, Option.some.injEq]
    exact fun h => hn (by rw [digitChar_eq_zero hlt h])
  · rw [Nat.toDigits_of_base_le (by decide) hge, List.getLast?_concat, ne_eq, Option.some.injEq]
    exact fun h => hn (digitChar_eq_zero (Nat.mod_lt _ (by decide)) h)

theorem toDigits_inj {n m : Nat} (h : Nat.toDigits 10 n = Nat.toDigits 10 m) : n = m := by
  rw [← Nat.ofDigitChars_ten_toDigits (n := n), h, Nat.ofDigitChars_ten_toDigits]

theorem Shortest.text_toList (d : Shortest) : d.text.toList = Nat.toDigits 10 d.digits := by
  simp [Shortest.text, Nat.toString_eq_repr, Nat.toList_repr]

theorem Shortest.trimmed {d : Shortest} (h0 : 0 < d.digits) (h10 : d.digits % 10 ≠ 0) :
    Trimmed d.text.toList := by
  rw [Shortest.text_toList]
  exact ⟨Nat.toDigits_ne_nil, fun c hc => Nat.isDigit_of_mem_toDigits (by decide) (by decide) hc,
    toDigits_head _ h0, toDigits_last h10⟩

theorem Shortest.eq_of_text {d d' : Shortest} (ht : d.text = d'.text) (ho : d.order = d'.order) :
    d = d' := by
  have hdig : d.digits = d'.digits := by
    apply toDigits_inj
    rw [← Shortest.text_toList, ← Shortest.text_toList, ht]
  have hexp : d.exp = d'.exp := by
    simp only [Shortest.order, ht] at ho
    omega
  cases d
  cases d'
  simp_all

/-! ## Zeros at the ends -/

theorem dropWhile_zeros (a : Nat) {ds : List Char} (h : ds.head? ≠ some '0') :
    (List.replicate a '0' ++ ds).dropWhile (· == '0') = ds ∧
      ((List.replicate a '0' ++ ds).takeWhile (· == '0')).length = a := by
  -- the digits after the zeros start with no zero
  have hstop : ds.dropWhile (· == '0') = ds ∧ ds.takeWhile (· == '0') = [] := by
    cases ds with
    | nil => simp
    | cons c t =>
      have hc : (c == '0') = false := by simpa using h
      simp [hc]
  induction a with
  | zero => simpa using hstop
  | succ a ih => simp [List.replicate_succ, ih, hstop.2]

/-! ## The positional layout -/

def unposition (P S : List Char) : List Char × Int :=
  if P = ['0'] then (S.dropWhile (· == '0'), -((S.takeWhile (· == '0')).length : Int))
  else if S = ['0'] then ((P.reverse.dropWhile (· == '0')).reverse, P.length)
  else (P ++ S, P.length)

theorem ne_zero_of_head {P : List Char} (h : P.head? ≠ some '0') : P ≠ ['0'] := by
  rintro rfl
  exact h rfl

theorem positional_split {ds : String} (h : Trimmed ds.toList) (kk : Int) :
    ∃ P S, (positional ds kk).toList = P ++ '.' :: S ∧ P ≠ [] ∧ (∀ c ∈ P, c.isDigit = true) ∧
      (∀ c ∈ S, c.isDigit = true) ∧ unposition P S = (ds.toList, kk) := by
  have hzero : ∀ n, ∀ c ∈ List.replicate n '0', c.isDigit = true := by
    intro n c hc
    rw [List.eq_of_mem_replicate hc]
    rfl
  obtain ⟨d, t, hdt⟩ := List.exists_cons_of_ne_nil h.ne_nil
  have hd0 : d ≠ '0' := fun e => h.head (by rw [hdt, e]; rfl)
  unfold positional
  split_ifs with h1 h2
  · -- `0.` and zeros before the digits
    refine ⟨['0'], List.replicate (-kk).toNat '0' ++ ds.toList, by simp [zeros], by simp, by simp,
      List.forall_mem_append.mpr ⟨hzero _, h.digits⟩, ?_⟩
    obtain ⟨hdrop, htake⟩ := dropWhile_zeros (-kk).toNat h.head
    simp only [unposition, if_true, hdrop, htake]
    congr 1
    omega
  · -- the digits, zeros up to the order, and `.0`
    refine ⟨ds.toList ++ List.replicate (kk.toNat - ds.length) '0', ['0'],
      by simp [zeros], by simp [h.ne_nil], List.forall_mem_append.mpr ⟨h.digits, hzero _⟩,
      by simp, ?_⟩
    have hhead : (ds.toList ++ List.replicate (kk.toNat - ds.length) '0').head? ≠ some '0' := by
      rw [hdt, List.cons_append, List.head?_cons]
      exact fun e => hd0 (Option.some.inj e)
    have hrev : (ds.toList.reverse).head? ≠ some '0' := by
      rw [List.head?_reverse]
      exact h.last
    obtain ⟨hdrop, -⟩ := dropWhile_zeros (kk.toNat - ds.length) hrev
    simp only [unposition, ne_zero_of_head hhead, if_false, if_true, List.reverse_append,
      List.reverse_replicate, hdrop, List.reverse_reverse, List.length_append,
      List.length_replicate, String.length_toList]
    congr 1
    omega
  · -- the digits with a point after the order's first ones
    have hk : 0 < kk.toNat ∧ kk.toNat < ds.toList.length := by
      rw [String.length_toList] at *
      omega
    refine ⟨ds.toList.take kk.toNat, ds.toList.drop kk.toNat, by simp,
      by simp [h.ne_nil, hk.1.ne'], fun c hc => h.digits c (List.mem_of_mem_take hc),
      fun c hc => h.digits c (List.mem_of_mem_drop hc), ?_⟩
    have hP : (ds.toList.take kk.toNat).head? ≠ some '0' := by
      rw [List.head?_take, if_neg hk.1.ne']
      exact h.head
    have hS : ds.toList.drop kk.toNat ≠ ['0'] := by
      intro hs
      have hl := congrArg List.getLast? hs
      rw [List.getLast?_drop, if_neg (by omega)] at hl
      exact h.last hl
    simp only [unposition, ne_zero_of_head hP, hS, if_false, List.take_append_drop,
      List.length_take]
    congr 1
    omega

/-! ## The layout with an exponent -/

def mantissaOf : List Char → List Char
  | d :: '.' :: r => d :: r
  | m => m

def orderOf : List Char → Int
  | '-' :: t => 1 - (Nat.ofDigitChars 10 t 0 : Int)
  | _ :: t => (Nat.ofDigitChars 10 t 0 : Int) + 1
  | [] => 0

theorem orderOf_minus (t : List Char) : orderOf ('-' :: t) = 1 - (Nat.ofDigitChars 10 t 0 : Int) :=
  rfl

theorem orderOf_plus (t : List Char) : orderOf ('+' :: t) = (Nat.ofDigitChars 10 t 0 : Int) + 1 :=
  rfl

def NumberChar (c : Char) : Prop := c.isDigit = true ∨ c = '-' ∨ c = '+' ∨ c = '.'

theorem e_not_mem {l : List Char} (h : ∀ c ∈ l, NumberChar c) : 'e' ∉ l := by
  intro he
  rcases h 'e' he with h | h | h | h <;> exact absurd h (by decide)

theorem scientific_toList {ds : String} {d : Char} {t : List Char} (hdt : ds.toList = d :: t)
    (kk : Int) : (scientific ds kk).toList = (d :: if t = [] then [] else '.' :: t) ++
      'e' :: (if kk - 1 < 0 then '-' else '+') :: Nat.toDigits 10 (kk - 1).natAbs := by
  unfold scientific
  dsimp only
  rw [hdt]
  split_ifs <;> cases t <;> simp_all [Nat.toString_eq_repr, Nat.toList_repr]

theorem scientific_split {ds : String} (h : Trimmed ds.toList) (kk : Int) :
    ∃ M R, (scientific ds kk).toList = M ++ 'e' :: R ∧ (∀ c ∈ M, NumberChar c) ∧
      (∀ c ∈ R, NumberChar c) ∧ M.head? = ds.toList.head? ∧ mantissaOf M = ds.toList ∧
      orderOf R = kk := by
  obtain ⟨d, t, hdt⟩ := List.exists_cons_of_ne_nil h.ne_nil
  have hd : ∀ c ∈ d :: t, NumberChar c := fun c hc => .inl (h.digits c (hdt ▸ hc))
  refine ⟨_, _, scientific_toList hdt kk, ?_, ?_, by rw [hdt]; rfl, ?_, ?_⟩
  · -- the mantissa is the digits with a point after the first, when there are more
    cases t with
    | nil => simpa using hd
    | cons c r =>
      rw [List.forall_mem_cons] at hd
      rw [if_neg (List.cons_ne_nil c r), List.forall_mem_cons, List.forall_mem_cons]
      exact ⟨hd.1, .inr (.inr (.inr rfl)), hd.2⟩
  · rw [List.forall_mem_cons]
    refine ⟨?_, fun c hc => .inl (Nat.isDigit_of_mem_toDigits (by decide) (by decide) hc)⟩
    split_ifs
    · exact .inr (.inl rfl)
    · exact .inr (.inr (.inl rfl))
  · rw [hdt]
    cases t <;> rfl
  · split_ifs
    · rw [orderOf_minus, Nat.ofDigitChars_ten_toDigits]
      omega
    · rw [orderOf_plus, Nat.ofDigitChars_ten_toDigits]
      omega

/-! ## Layouts tell shortest digits apart -/

def Layout.body (l : Layout) (d : Shortest) : String :=
  if l.lowest < d.order ∧ d.order ≤ l.highest then positional d.text d.order
  else scientific d.text d.order

theorem not_mem_of_digits {l : List Char} (h : ∀ c ∈ l, c.isDigit = true) {x : Char}
    (hx : x.isDigit = false) : x ∉ l :=
  fun hm => absurd (h x hm) (by rw [hx]; decide)

theorem e_not_mem_positional {P S : List Char} (hP : ∀ c ∈ P, c.isDigit = true)
    (hS : ∀ c ∈ S, c.isDigit = true) : 'e' ∉ P ++ '.' :: S := by
  simp only [List.mem_append, List.mem_cons, not_or]
  exact ⟨not_mem_of_digits hP rfl, by decide, not_mem_of_digits hS rfl⟩

theorem Layout.body_inj (l : Layout) {d d' : Shortest} (h0 : 0 < d.digits)
    (h10 : d.digits % 10 ≠ 0) (h0' : 0 < d'.digits) (h10' : d'.digits % 10 ≠ 0)
    (h : l.body d = l.body d') : d = d' := by
  have ht := Shortest.trimmed h0 h10
  have ht' := Shortest.trimmed h0' h10'
  have hl := congrArg String.toList h
  -- both texts read back the same digits and order
  suffices hread : (d.text.toList, d.order) = (d'.text.toList, d'.order) by
    obtain ⟨htext, horder⟩ := Prod.mk.inj hread
    exact Shortest.eq_of_text (String.toList_inj.mp htext) horder
  unfold Layout.body at hl
  split_ifs at hl with hp hp'
  · obtain ⟨P, S, hPS, -, hP, hS, hu⟩ := positional_split ht d.order
    obtain ⟨P', S', hPS', -, -, -, hu'⟩ := positional_split ht' d'.order
    rw [hPS, hPS'] at hl
    obtain ⟨rfl, -, rfl⟩ := (List.append_cons_inj_of_notMem (not_mem_of_digits hP rfl)
      (not_mem_of_digits hS rfl)).mp hl
    rw [← hu, ← hu']
  · obtain ⟨P, S, hPS, -, hP, hS, -⟩ := positional_split ht d.order
    obtain ⟨M, R, hMR, -, -, -, -, -⟩ := scientific_split ht' d'.order
    rw [hPS, hMR] at hl
    exact absurd (hl ▸ List.mem_append_right M List.mem_cons_self) (e_not_mem_positional hP hS)
  · obtain ⟨M, R, hMR, -, -, -, -, -⟩ := scientific_split ht d.order
    obtain ⟨P, S, hPS, -, hP, hS, -⟩ := positional_split ht' d'.order
    rw [hMR, hPS] at hl
    exact absurd (hl ▸ List.mem_append_right M List.mem_cons_self) (e_not_mem_positional hP hS)
  · obtain ⟨M, R, hMR, hM, hR, -, hm, he⟩ := scientific_split ht d.order
    obtain ⟨M', R', hMR', -, -, -, hm', he'⟩ := scientific_split ht' d'.order
    rw [hMR, hMR'] at hl
    obtain ⟨rfl, -, rfl⟩ := (List.append_cons_inj_of_notMem (e_not_mem hM) (e_not_mem hR)).mp hl
    rw [← hm, ← hm', ← he, ← he']

theorem Layout.body_shape (l : Layout) {d : Shortest} (h0 : 0 < d.digits)
    (h10 : d.digits % 10 ≠ 0) : ∃ c t, (l.body d).toList = c :: t ∧ c.isDigit = true ∧
      ('.' ∈ t ∨ 'e' ∈ t) := by
  have ht := Shortest.trimmed h0 h10
  unfold Layout.body
  split_ifs
  · obtain ⟨P, S, hPS, hne, hP, -, -⟩ := positional_split ht d.order
    obtain ⟨c, P, rfl⟩ := List.exists_cons_of_ne_nil hne
    rw [hPS]
    exact ⟨c, P ++ '.' :: S, rfl, hP c List.mem_cons_self, .inl (by simp)⟩
  · obtain ⟨M, R, hMR, -, -, hMh, -, -⟩ := scientific_split ht d.order
    obtain ⟨c, r, hcr⟩ := List.exists_cons_of_ne_nil ht.ne_nil
    rw [hcr] at hMh
    obtain ⟨M, rfl⟩ : ∃ M', M = c :: M' := by
      cases M with
      | nil => cases hMh
      | cons c' M' => exact ⟨M', by cases hMh; rfl⟩
    refine ⟨c, M ++ 'e' :: R, by rw [hMR]; rfl, ht.digits c (hcr ▸ List.mem_cons_self), .inr ?_⟩
    simp

theorem Layout.body_ne_zero (l : Layout) {d : Shortest} (h0 : 0 < d.digits)
    (h10 : d.digits % 10 ≠ 0) : l.body d ≠ "0.0" := by
  have ht := Shortest.trimmed h0 h10
  intro h
  have hl := congrArg String.toList h
  unfold Layout.body at hl
  split_ifs at hl
  · obtain ⟨P, S, hPS, -, hP, hS, hu⟩ := positional_split ht d.order
    rw [hPS, show "0.0".toList = ['0'] ++ '.' :: ['0'] from rfl] at hl
    obtain ⟨rfl, -, rfl⟩ := (List.append_cons_inj_of_notMem (not_mem_of_digits hP rfl)
      (not_mem_of_digits hS rfl)).mp hl
    -- `0.0` reads back no digits at all
    simp only [unposition, if_true] at hu
    exact ht.ne_nil (by simpa using (Prod.mk.inj hu).1.symm)
  · obtain ⟨M, R, hMR, -, -, -, -, -⟩ := scientific_split ht d.order
    rw [hMR] at hl
    exact absurd (hl ▸ List.mem_append_right M List.mem_cons_self) (by decide)

/-! ## Written doubles -/

theorem magnitude_toNat (bits : UInt64) :
    (bits &&& 0x7FFFFFFFFFFFFFFF).toNat = bits.toNat % 2 ^ 63 := by
  rw [UInt64.toNat_and, show (0x7FFFFFFFFFFFFFFF : UInt64).toNat = 2 ^ 63 - 1 from rfl,
    Nat.and_two_pow_sub_one_eq_mod]

theorem sign_iff (bits : UInt64) : (bits >>> 63 == 1) = true ↔ bits.toNat / 2 ^ 63 = 1 := by
  rw [beq_iff_eq, ← UInt64.toNat_inj, UInt64.toNat_shiftRight,
    show (63 : UInt64).toNat % 64 = 63 from rfl, Nat.shiftRight_eq_div_pow]
  rfl

theorem finite_iff (bits : UInt64) :
    ¬ ((bits >>> 52) &&& 0x7FF == 0x7FF) = true ↔ bits.toNat % 2 ^ 63 < 2047 * 2 ^ 52 := by
  have hmag : bits.toNat % 2 ^ 63 < 2 ^ 63 := Nat.mod_lt _ (by positivity)
  rw [beq_iff_eq, ← UInt64.toNat_inj, Binary.biased_toNat, show (0x7FF : UInt64).toNat = 2047 from rfl]
  omega

theorem Shortest.ofBits_trimmed {bits : UInt64} (hf : ¬ ((bits >>> 52) &&& 0x7FF == 0x7FF) = true)
    (h0 : bits.toNat % 2 ^ 63 ≠ 0) :
    0 < (Shortest.ofBits bits).digits ∧ (Shortest.ofBits bits).digits % 10 ≠ 0 := by
  have hv := Binary.valid_ofMagnitude (Nat.pos_of_ne_zero h0) ((finite_iff bits).mp hf)
  rw [← Binary.ofBits_eq] at hv
  exact ⟨(Shortest.ofBits_rounds hv).1, (Shortest.ofBits_rounds hv).2.1⟩

def Layout.unsigned (l : Layout) (bits : UInt64) : String :=
  if bits.toNat % 2 ^ 63 = 0 then "0.0" else l.body (Shortest.ofBits bits)

theorem Layout.render_eq (l : Layout) (bits : UInt64) :
    l.render bits = (if bits >>> 63 == 1 then "-" else "") ++ l.unsigned bits := by
  have hz : (bits &&& 0x7FFFFFFFFFFFFFFF == 0) = decide (bits.toNat % 2 ^ 63 = 0) := by
    rw [Bool.eq_iff_iff, beq_iff_eq, decide_eq_true_iff, ← UInt64.toNat_inj, magnitude_toNat]
    rfl
  unfold Layout.render Layout.unsigned Layout.body
  dsimp only
  rw [hz]
  by_cases h : bits.toNat % 2 ^ 63 = 0
  · rw [if_pos (decide_eq_true h), if_pos h]
  · rw [if_neg (by simpa using h), if_neg h]
    split_ifs <;> rfl

theorem Layout.unsigned_shape (l : Layout) {bits : UInt64}
    (hf : ¬ ((bits >>> 52) &&& 0x7FF == 0x7FF) = true) :
    ∃ c t, (l.unsigned bits).toList = c :: t ∧ c.isDigit = true ∧ ('.' ∈ t ∨ 'e' ∈ t) := by
  unfold Layout.unsigned
  split_ifs with h0
  · exact ⟨'0', ['.', '0'], rfl, rfl, .inl (by simp)⟩
  · obtain ⟨hd0, hd10⟩ := Shortest.ofBits_trimmed hf h0
    exact l.body_shape hd0 hd10

theorem Layout.unsigned_head (l : Layout) {bits : UInt64}
    (hf : ¬ ((bits >>> 52) &&& 0x7FF == 0x7FF) = true) :
    ∃ c t, (l.unsigned bits).toList = c :: t ∧ c.isDigit = true := by
  obtain ⟨c, t, hct, hc, -⟩ := l.unsigned_shape hf
  exact ⟨c, t, hct, hc⟩

theorem Layout.unsigned_inj (l : Layout) {bits bits' : UInt64}
    (hf : ¬ ((bits >>> 52) &&& 0x7FF == 0x7FF) = true)
    (hf' : ¬ ((bits' >>> 52) &&& 0x7FF == 0x7FF) = true)
    (h : l.unsigned bits = l.unsigned bits') : bits.toNat % 2 ^ 63 = bits'.toNat % 2 ^ 63 := by
  unfold Layout.unsigned at h
  by_cases h0 : bits.toNat % 2 ^ 63 = 0 <;> by_cases h0' : bits'.toNat % 2 ^ 63 = 0
  · rw [h0, h0']
  · rw [if_pos h0, if_neg h0'] at h
    obtain ⟨hd0, hd10⟩ := Shortest.ofBits_trimmed hf' h0'
    exact absurd h.symm (l.body_ne_zero hd0 hd10)
  · rw [if_neg h0, if_pos h0'] at h
    obtain ⟨hd0, hd10⟩ := Shortest.ofBits_trimmed hf h0
    exact absurd h (l.body_ne_zero hd0 hd10)
  · rw [if_neg h0, if_neg h0'] at h
    obtain ⟨hd0, hd10⟩ := Shortest.ofBits_trimmed hf h0
    obtain ⟨hd0', hd10'⟩ := Shortest.ofBits_trimmed hf' h0'
    have hd := l.body_inj hd0 hd10 hd0' hd10' h
    exact Shortest.ofBits_inj (Nat.pos_of_ne_zero h0) ((finite_iff bits).mp hf)
      (Nat.pos_of_ne_zero h0') ((finite_iff bits').mp hf') hd

theorem Layout.unsigned_chars (l : Layout) {bits : UInt64}
    (hf : ¬ ((bits >>> 52) &&& 0x7FF == 0x7FF) = true) :
    ∀ c ∈ (l.unsigned bits).toList, NumberChar c ∨ c = 'e' := by
  unfold Layout.unsigned
  split_ifs with h0
  · intro c hc
    simp only [show "0.0".toList = ['0', '.', '0'] from rfl, List.mem_cons, List.not_mem_nil,
      or_false] at hc
    rcases hc with rfl | rfl | rfl
    · exact .inl (.inl rfl)
    · exact .inl (.inr (.inr (.inr rfl)))
    · exact .inl (.inl rfl)
  · obtain ⟨hd0, hd10⟩ := Shortest.ofBits_trimmed hf h0
    have ht := Shortest.trimmed hd0 hd10
    unfold Layout.body
    split_ifs
    · obtain ⟨P, S, hPS, -, hP, hS, -⟩ := positional_split ht (Shortest.ofBits bits).order
      rw [hPS]
      intro c hc
      simp only [List.mem_append, List.mem_cons] at hc
      rcases hc with hc | rfl | hc
      · exact .inl (.inl (hP c hc))
      · exact .inl (.inr (.inr (.inr rfl)))
      · exact .inl (.inl (hS c hc))
    · obtain ⟨M, R, hMR, hM, hR, -⟩ := scientific_split ht (Shortest.ofBits bits).order
      rw [hMR]
      intro c hc
      simp only [List.mem_append, List.mem_cons] at hc
      rcases hc with hc | rfl | hc
      · exact .inl (hM c hc)
      · exact .inr rfl
      · exact .inl (hR c hc)

theorem Layout.render_chars (l : Layout) {bits : UInt64}
    (hf : ¬ ((bits >>> 52) &&& 0x7FF == 0x7FF) = true) :
    ∀ c ∈ (l.render bits).toList, NumberChar c ∨ c = 'e' := by
  rw [Layout.render_eq]
  intro c hc
  rw [String.toList_append, List.mem_append] at hc
  rcases hc with hc | hc
  · split_ifs at hc
    · obtain rfl : c = '-' := by simpa using hc
      exact .inl (.inr (.inl rfl))
    · simp at hc
  · exact l.unsigned_chars hf c hc

theorem sign_append_inj {s s' : Bool} {x y : String}
    (hx : ∃ c t, x.toList = c :: t ∧ c.isDigit = true) (hy : ∃ c t, y.toList = c :: t ∧ c.isDigit = true)
    (h : (if s then "-" else "") ++ x = (if s' then "-" else "") ++ y) : s = s' ∧ x = y := by
  obtain ⟨c, t, hct, hc⟩ := hx
  obtain ⟨c', t', hct', hc'⟩ := hy
  have hl := congrArg String.toList h
  cases s <;> cases s'
  · exact ⟨rfl, by simpa using h⟩
  · simp only [Bool.false_eq_true, if_false, if_true, String.toList_append, hct, hct'] at hl
    obtain ⟨rfl, -⟩ := List.cons.inj hl
    exact absurd hc (by decide)
  · simp only [Bool.false_eq_true, if_false, if_true, String.toList_append, hct, hct'] at hl
    obtain ⟨rfl, -⟩ := List.cons.inj hl
    exact absurd hc' (by decide)
  · exact ⟨rfl, by simpa using h⟩

theorem Layout.render_inj (l : Layout) {bits bits' : UInt64}
    (hf : ¬ ((bits >>> 52) &&& 0x7FF == 0x7FF) = true)
    (hf' : ¬ ((bits' >>> 52) &&& 0x7FF == 0x7FF) = true)
    (h : l.render bits = l.render bits') : bits = bits' := by
  rw [Layout.render_eq, Layout.render_eq] at h
  obtain ⟨hs, hrest⟩ := sign_append_inj (l.unsigned_head hf) (l.unsigned_head hf') h
  have hmag := l.unsigned_inj hf hf' hrest
  have hsign : bits.toNat / 2 ^ 63 = 1 ↔ bits'.toNat / 2 ^ 63 = 1 := by
    rw [← sign_iff, ← sign_iff, hs]
  have hlt := UInt64.toNat_lt bits
  have hlt' := UInt64.toNat_lt bits'
  apply UInt64.toNat_inj.mp
  have := Nat.div_add_mod bits.toNat (2 ^ 63)
  have := Nat.div_add_mod bits'.toNat (2 ^ 63)
  omega

end Relay.Decimal
