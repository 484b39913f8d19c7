import Mathlib
import Relay.Text.Utf8
/-!
# Encoded text reads back

The bytes of a text are the UTF-8 encodings of its characters as `String.utf8EncodeChar` writes
them, and `Utf8.scan` reads each encoding back as the character it encodes
(`scan_utf8EncodeChar`). So the bytes of a text are whole characters through and through, and the
lossy decoding gives the characters back.

The encoder is taken length by length: its bytes are written as numbers
(`utf8EncodeChar_eq_two` and the others), and the facts about single bytes (the range a lead byte
falls in, the payload of a continuation byte) are checked on every value a byte can take.
-/
namespace Relay.Utf8

theorem toList_loop (bs : ByteArray) (i : Nat) (r : List UInt8) :
    ByteArray.toList.loop bs i r = r.reverse ++ bs.data.toList.drop i := by
  fun_induction ByteArray.toList.loop bs i r with
  | case1 i r h ih =>
    have hi : i < bs.data.toList.length := by simpa using h
    rw [ih, List.drop_eq_getElem_cons hi]
    simp [ByteArray.get!, h]
  | case2 i r h =>
    rw [List.drop_eq_nil_of_le (by simpa using Nat.le_of_not_lt h)]
    simp

theorem byteArray_toList (bs : ByteArray) : bs.toList = bs.data.toList := by
  simp [ByteArray.toList, toList_loop]

theorem toUTF8_toList (s : String) :
    s.toUTF8.toList = s.toList.flatMap String.utf8EncodeChar := by
  obtain ⟨l, rfl⟩ : ∃ l, s = String.ofList l := ⟨s.toList, String.ofList_toList.symm⟩
  simp [byteArray_toList, List.utf8Encode]

/-! ## The encoder's bytes as numbers -/

theorem marks (x : UInt8) : (x &&& 0x3f ||| 0x80).toNat = 0x80 + x.toNat % 64 ∧
    (x &&& 0x1f ||| 0xc0).toNat = 0xC0 + x.toNat % 32 ∧
    (x &&& 0x0f ||| 0xe0).toNat = 0xE0 + x.toNat % 16 ∧
    (x &&& 0x07 ||| 0xf0).toNat = 0xF0 + x.toNat % 8 := by
  -- the mask keeps the low bits, and the marker sits above them
  have key : ∀ n k : Nat, x.toNat &&& 2 ^ n - 1 ||| 2 ^ n * k = 2 ^ n * k + x.toNat % 2 ^ n := by
    intro n k
    rw [Nat.and_two_pow_sub_one_eq_mod, Nat.or_comm,
      ← Nat.two_pow_add_eq_or_of_lt (Nat.mod_lt _ (Nat.two_pow_pos n))]
  simp only [UInt8.toNat_or, UInt8.toNat_and, UInt8.reduceToNat]
  exact ⟨key 6 2, key 5 6, key 4 14, key 3 30⟩

theorem toNat_shift (c : Char) (k : UInt32) (hk : k.toNat < 32) :
    (c.val >>> k).toUInt8.toNat = c.toNat / 2 ^ k.toNat % 256 := by
  simp only [UInt32.toNat_toUInt8, UInt32.toNat_shiftRight, Char.toNat_val, Nat.mod_eq_of_lt hk,
    Nat.shiftRight_eq_div_pow, Nat.reducePow]

theorem toNat_shifts (c : Char) :
    (c.val >>> 6).toUInt8.toNat = c.toNat / 64 % 256 ∧
      (c.val >>> 12).toUInt8.toNat = c.toNat / 4096 % 256 ∧
      (c.val >>> 18).toUInt8.toNat = c.toNat / 262144 % 256 :=
  ⟨by simpa using toNat_shift c 6 (by decide), by simpa using toNat_shift c 12 (by decide),
    by simpa using toNat_shift c 18 (by decide)⟩

theorem toNat_low (c : Char) : c.val.toUInt8.toNat = c.toNat % 256 := by
  simp
  rfl

theorem toNat_valid (c : Char) : c.toNat < 0xD800 ∨ (0xDFFF < c.toNat ∧ c.toNat < 0x110000) :=
  c.valid

theorem utf8EncodeChar_eq_one {c : Char} (h : c.utf8Size = 1) :
    String.utf8EncodeChar c = [UInt8.ofNat c.toNat] := by
  have hb : c.toNat ≤ 0x7f := by simpa [UInt32.le_iff_toNat_le] using Char.utf8Size_eq_one_iff.mp h
  rw [String.utf8EncodeChar_eq_singleton h]
  simp only [List.cons.injEq, and_true, ← UInt8.toNat_inj, toNat_low, UInt8.toNat_ofNat']

theorem utf8EncodeChar_eq_two {c : Char} (h : c.utf8Size = 2) :
    String.utf8EncodeChar c =
      [UInt8.ofNat (0xC0 + c.toNat / 64), UInt8.ofNat (0x80 + c.toNat % 64)] := by
  have hb : c.toNat ≤ 0x7ff := by
    simpa [UInt32.le_iff_toNat_le] using (Char.utf8Size_eq_two_iff.mp h).2
  rw [String.utf8EncodeChar_eq_cons_cons h]
  simp only [List.cons.injEq, and_true, ← UInt8.toNat_inj, (marks _).1, (marks _).2.1,
    UInt8.toNat_ofNat', toNat_low]
  obtain ⟨h6, -, -⟩ := toNat_shifts c
  rw [h6]
  omega

theorem utf8EncodeChar_eq_three {c : Char} (h : c.utf8Size = 3) :
    String.utf8EncodeChar c =
      [UInt8.ofNat (0xE0 + c.toNat / 4096), UInt8.ofNat (0x80 + c.toNat / 64 % 64),
        UInt8.ofNat (0x80 + c.toNat % 64)] := by
  have hb : c.toNat ≤ 0xffff := by
    simpa [UInt32.le_iff_toNat_le] using (Char.utf8Size_eq_three_iff.mp h).2
  rw [String.utf8EncodeChar_eq_cons_cons_cons h]
  simp only [List.cons.injEq, and_true, ← UInt8.toNat_inj, (marks _).1, (marks _).2.2.1,
    UInt8.toNat_ofNat', toNat_low]
  obtain ⟨h6, h12, -⟩ := toNat_shifts c
  rw [h6, h12]
  omega

theorem utf8EncodeChar_eq_four {c : Char} (h : c.utf8Size = 4) :
    String.utf8EncodeChar c =
      [UInt8.ofNat (0xF0 + c.toNat / 262144), UInt8.ofNat (0x80 + c.toNat / 4096 % 64),
        UInt8.ofNat (0x80 + c.toNat / 64 % 64), UInt8.ofNat (0x80 + c.toNat % 64)] := by
  have hb : c.toNat < 0x110000 := by
    rcases toNat_valid c with hc | hc <;> omega
  rw [String.utf8EncodeChar_eq_cons_cons_cons_cons h]
  simp only [List.cons.injEq, and_true, ← UInt8.toNat_inj, (marks _).1, (marks _).2.2.2,
    UInt8.toNat_ofNat', toNat_low]
  obtain ⟨h6, h12, h18⟩ := toNat_shifts c
  rw [h6, h12, h18]
  omega

theorem utf8EncodeChar_ascii_or_high (c : Char) :
    (c.toNat < 0x80 ∧ String.utf8EncodeChar c = [UInt8.ofNat c.toNat]) ∨
      ∀ b ∈ String.utf8EncodeChar c, 0x80 ≤ b.toNat := by
  have hv := toNat_valid c
  rcases Char.utf8Size_eq c with h | h | h | h
  · have hb : c.toNat ≤ 0x7f := by
      simpa [UInt32.le_iff_toNat_le] using Char.utf8Size_eq_one_iff.mp h
    exact .inl ⟨by omega, utf8EncodeChar_eq_one h⟩
  · have hb : c.toNat ≤ 0x7ff := by
      simpa [UInt32.le_iff_toNat_le] using (Char.utf8Size_eq_two_iff.mp h).2
    rw [utf8EncodeChar_eq_two h]
    right
    simp only [List.mem_cons, List.not_mem_nil, or_false]
    rintro b (rfl | rfl) <;> rw [UInt8.toNat_ofNat'] <;> omega
  · have hb : c.toNat ≤ 0xffff := by
      simpa [UInt32.le_iff_toNat_le] using (Char.utf8Size_eq_three_iff.mp h).2
    rw [utf8EncodeChar_eq_three h]
    right
    simp only [List.mem_cons, List.not_mem_nil, or_false]
    rintro b (rfl | rfl | rfl) <;> rw [UInt8.toNat_ofNat'] <;> omega
  · rw [utf8EncodeChar_eq_four h]
    right
    simp only [List.mem_cons, List.not_mem_nil, or_false]
    rintro b (rfl | rfl | rfl | rfl) <;> rw [UInt8.toNat_ofNat'] <;> omega

/-! ## Reading one encoding back -/

theorem scan_one {b : UInt8} (r : List UInt8) (hl : lead b = some (1, 0, 0)) :
    scan (b :: r) = some (.char (Char.ofNat b.toNat) r) := by
  simp [scan, hl]

theorem scan_two {b0 b1 : UInt8} (r : List UInt8) (hl : lead b0 = some (2, 0x80, 0xBF))
    (h1 : within 0x80 0xBF b1 = true) :
    scan (b0 :: b1 :: r) = some (.char (Char.ofNat ((b0.toNat &&& 0x1F) * 64 + tail b1)) r) := by
  simp [scan, hl, h1]

theorem scan_three {b0 b1 b2 lo hi : UInt8} (r : List UInt8) (hl : lead b0 = some (3, lo, hi))
    (h1 : within lo hi b1 = true) (h2 : within 0x80 0xBF b2 = true) :
    scan (b0 :: b1 :: b2 :: r) =
      some (.char (Char.ofNat ((b0.toNat &&& 0x0F) * 4096 + tail b1 * 64 + tail b2)) r) := by
  simp [scan, hl, h1, h2]

theorem scan_four {b0 b1 b2 b3 lo hi : UInt8} (r : List UInt8) (hl : lead b0 = some (4, lo, hi))
    (h1 : within lo hi b1 = true) (h2 : within 0x80 0xBF b2 = true)
    (h3 : within 0x80 0xBF b3 = true) :
    scan (b0 :: b1 :: b2 :: b3 :: r) =
      some (.char (Char.ofNat ((b0.toNat &&& 0x07) * 262144 + tail b1 * 4096 + tail b2 * 64 +
        tail b3)) r) := by
  simp [scan, hl, h1, h2, h3]

theorem toNat_ofNat_lt {n : Nat} (h : n < 256) : (UInt8.ofNat n).toNat = n := by
  rw [UInt8.toNat_ofNat', Nat.mod_eq_of_lt h]

theorem within_iff {lo hi b : UInt8} :
    within lo hi b = true ↔ lo.toNat ≤ b.toNat ∧ b.toNat ≤ hi.toNat := by
  simp [within, UInt8.le_iff_toNat_le]

theorem tail_eq (b : UInt8) : tail b = b.toNat % 64 := by
  have h := Nat.and_two_pow_sub_one_eq_mod b.toNat 6
  simp only [tail, UInt8.toNat_and]
  exact h

theorem continuation : ∀ m < 64,
    within 0x80 0xBF (UInt8.ofNat (0x80 + m)) = true ∧ tail (UInt8.ofNat (0x80 + m)) = m := by
  intro m hm
  have hb := toNat_ofNat_lt (show 0x80 + m < 256 by omega)
  rw [within_iff, tail_eq, hb]
  simp only [UInt8.reduceToNat]
  omega

theorem lead_one : ∀ n < 128, lead (UInt8.ofNat n) = some (1, 0, 0) := by
  intro n hn
  have hb := toNat_ofNat_lt (show n < 256 by omega)
  simp only [lead, UInt8.le_iff_toNat_le, hb, UInt8.reduceToNat]
  rw [if_pos (by omega)]

theorem lead_two : ∀ k < 32, 2 ≤ k → lead (UInt8.ofNat (0xC0 + k)) = some (2, 0x80, 0xBF) := by
  intro k hk h2
  have hb := toNat_ofNat_lt (show 0xC0 + k < 256 by omega)
  simp only [lead, UInt8.le_iff_toNat_le, hb, UInt8.reduceToNat]
  rw [if_neg (by omega), if_pos (by omega)]

theorem lead_payload : (∀ k < 32, ((UInt8.ofNat (0xC0 + k)).toNat &&& 0x1F) = k) ∧
    (∀ k < 16, ((UInt8.ofNat (0xE0 + k)).toNat &&& 0x0F) = k) ∧
    (∀ k < 8, ((UInt8.ofNat (0xF0 + k)).toNat &&& 0x07) = k) := by
  refine ⟨fun k hk => ?_, fun k hk => ?_, fun k hk => ?_⟩
  · rw [toNat_ofNat_lt (by omega), show 0x1F = 2 ^ 5 - 1 from rfl, Nat.and_two_pow_sub_one_eq_mod]
    omega
  · rw [toNat_ofNat_lt (by omega), show 0x0F = 2 ^ 4 - 1 from rfl, Nat.and_two_pow_sub_one_eq_mod]
    omega
  · rw [toNat_ofNat_lt (by omega), show 0x07 = 2 ^ 3 - 1 from rfl, Nat.and_two_pow_sub_one_eq_mod]
    omega

theorem lead_three : ∀ k < 16, ∀ m < 64, (k = 0 → 32 ≤ m) → (k = 13 → m < 32) →
    (lead (UInt8.ofNat (0xE0 + k))).any
      (fun x => x.1 = 3 && within x.2.1 x.2.2 (UInt8.ofNat (0x80 + m))) = true := by
  intro k hk m hm h0 h13
  have hb := toNat_ofNat_lt (show 0xE0 + k < 256 by omega)
  have hc := toNat_ofNat_lt (show 0x80 + m < 256 by omega)
  generalize UInt8.ofNat (0xE0 + k) = b at hb ⊢
  generalize UInt8.ofNat (0x80 + m) = c at hc ⊢
  simp only [lead, UInt8.le_iff_toNat_le, ← UInt8.toNat_inj, UInt8.reduceToNat]
  repeat' split
  all_goals simp only [Option.any_some, Option.any_none, Bool.and_eq_true, decide_eq_true_eq,
    within_iff, UInt8.reduceToNat, true_and]
  all_goals omega

theorem lead_four : ∀ k < 5, ∀ m < 64, (k = 0 → 16 ≤ m) → (k = 4 → m < 16) →
    (lead (UInt8.ofNat (0xF0 + k))).any
      (fun x => x.1 = 4 && within x.2.1 x.2.2 (UInt8.ofNat (0x80 + m))) = true := by
  intro k hk m hm h0 h4
  have hb := toNat_ofNat_lt (show 0xF0 + k < 256 by omega)
  have hc := toNat_ofNat_lt (show 0x80 + m < 256 by omega)
  generalize UInt8.ofNat (0xF0 + k) = b at hb ⊢
  generalize UInt8.ofNat (0x80 + m) = c at hc ⊢
  simp only [lead, UInt8.le_iff_toNat_le, ← UInt8.toNat_inj, UInt8.reduceToNat]
  repeat' split
  all_goals simp only [Option.any_some, Option.any_none, Bool.and_eq_true, decide_eq_true_eq,
    within_iff, UInt8.reduceToNat, true_and]
  all_goals omega

theorem scan_utf8EncodeChar (c : Char) (r : List UInt8) :
    scan (String.utf8EncodeChar c ++ r) = some (.char c r) := by
  have hv := toNat_valid c
  rcases Char.utf8Size_eq c with h | h | h | h
  · have hb : c.toNat ≤ 0x7f := by
      simpa [UInt32.le_iff_toNat_le] using Char.utf8Size_eq_one_iff.mp h
    rw [utf8EncodeChar_eq_one h, List.singleton_append, scan_one r (lead_one _ (by omega))]
    simp [Nat.mod_eq_of_lt (show c.toNat < 256 by omega), Char.ofNat_toNat]
  · have hb := Char.utf8Size_eq_two_iff.mp h
    simp only [UInt32.le_iff_toNat_le, UInt32.lt_iff_toNat_lt] at hb
    have hl := lead_two (c.toNat / 64) (by simp at hb; omega) (by simp at hb; omega)
    have hk := lead_payload.1 (c.toNat / 64) (by simp at hb; omega)
    obtain ⟨h1, t1⟩ := continuation (c.toNat % 64) (by omega)
    rw [utf8EncodeChar_eq_two h, List.cons_append, List.cons_append, List.nil_append,
      scan_two r hl h1, hk, t1]
    have he : c.toNat / 64 * 64 + c.toNat % 64 = c.toNat := by omega
    rw [he, Char.ofNat_toNat]
  · have hb := Char.utf8Size_eq_three_iff.mp h
    simp only [UInt32.le_iff_toNat_le, UInt32.lt_iff_toNat_lt] at hb
    have hl := lead_three (c.toNat / 4096) (by simp at hb; omega) (c.toNat / 64 % 64)
      (by omega) (by simp at hb; omega) (by omega)
    have hk := lead_payload.2.1 (c.toNat / 4096) (by simp at hb; omega)
    obtain ⟨⟨n, lo, hi⟩, hl, hw⟩ := (Option.any_eq_true _ _).mp hl
    simp only [Bool.and_eq_true, decide_eq_true_eq] at hw
    obtain ⟨rfl, h1⟩ := hw
    obtain ⟨-, t1⟩ := continuation (c.toNat / 64 % 64) (by omega)
    obtain ⟨h2, t2⟩ := continuation (c.toNat % 64) (by omega)
    rw [utf8EncodeChar_eq_three h, List.cons_append, List.cons_append, List.cons_append,
      List.nil_append, scan_three r hl h1 h2, hk, t1, t2]
    have he : c.toNat / 4096 * 4096 + c.toNat / 64 % 64 * 64 + c.toNat % 64 = c.toNat := by omega
    rw [he, Char.ofNat_toNat]
  · have hb := Char.utf8Size_eq_four_iff.mp h
    simp only [UInt32.lt_iff_toNat_lt] at hb
    have hl := lead_four (c.toNat / 262144) (by omega) (c.toNat / 4096 % 64)
      (by omega) (by simp at hb; omega) (by omega)
    have hk := lead_payload.2.2 (c.toNat / 262144) (by omega)
    obtain ⟨⟨n, lo, hi⟩, hl, hw⟩ := (Option.any_eq_true _ _).mp hl
    simp only [Bool.and_eq_true, decide_eq_true_eq] at hw
    obtain ⟨rfl, h1⟩ := hw
    obtain ⟨-, t1⟩ := continuation (c.toNat / 4096 % 64) (by omega)
    obtain ⟨h2, t2⟩ := continuation (c.toNat / 64 % 64) (by omega)
    obtain ⟨h3, t3⟩ := continuation (c.toNat % 64) (by omega)
    rw [utf8EncodeChar_eq_four h, List.cons_append, List.cons_append, List.cons_append,
      List.cons_append, List.nil_append, scan_four r hl h1 h2 h3, hk, t1, t2, t3]
    have he : c.toNat / 262144 * 262144 + c.toNat / 4096 % 64 * 4096 + c.toNat / 64 % 64 * 64 +
        c.toNat % 64 = c.toNat := by omega
    rw [he, Char.ofNat_toNat]

/-! ## Texts -/

theorem validPrefix_of_scan {bs r : List UInt8} {c : Char} (h : scan bs = some (.char c r)) :
    validPrefix bs = bs.length - r.length + validPrefix r := by
  rw [validPrefix]
  split <;> simp_all

theorem decodeLossyList_of_scan {bs r : List UInt8} {c : Char} (h : scan bs = some (.char c r)) :
    decodeLossyList bs = c :: decodeLossyList r := by
  rw [decodeLossyList]
  split <;> simp_all

theorem validPrefix_encode : ∀ cs : List Char,
    validPrefix (cs.flatMap String.utf8EncodeChar) = (cs.flatMap String.utf8EncodeChar).length
  | [] => by
    rw [validPrefix]
    rfl
  | c :: cs => by
    rw [List.flatMap_cons, validPrefix_of_scan (scan_utf8EncodeChar c _), validPrefix_encode cs,
      List.length_append]
    omega

theorem decodeLossyList_encode : ∀ cs : List Char,
    decodeLossyList (cs.flatMap String.utf8EncodeChar) = cs
  | [] => by
    rw [decodeLossyList]
    rfl
  | c :: cs => by
    rw [List.flatMap_cons, decodeLossyList_of_scan (scan_utf8EncodeChar c _),
      decodeLossyList_encode cs]

theorem decodeLossy_encode (cs : List Char) :
    decodeLossy (cs.flatMap String.utf8EncodeChar) = String.ofList cs := by
  rw [decodeLossy, decodeLossyList_encode]

end Relay.Utf8
