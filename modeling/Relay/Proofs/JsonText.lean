import Relay.Json.Write
import Relay.Json.Read
import Relay.Proofs.Utf8
/-!
# Written strings and numbers read back

The reader takes the text the writer makes of a string or a number back as that string or
number, whatever follows it where a value can stand in written JSON (`Closes`).

A string reads back whatever it holds (`readStr_escaped`): the characters it holds as
themselves are passed over in runs and decoded as UTF-8, and every other character is
written as an escape that reads back as that character. An integer reads back digit by digit
(`readInteger_toString`). A double reads back when the reader's decimal conversion gives the
double that its writer printed; that agreement is taken as given (`Number.Exact`), and what is
proved is that the reader then stops where the number ends, so the double reads back in every
place a value stands (`readValue_num`).
-/
namespace Relay.Json

/-! ## Bytes of written text -/

theorem encode_eq (s : String) : Utf8.encode s = s.toList.flatMap String.utf8EncodeChar :=
  Utf8.toUTF8_toList s

@[simp] theorem encode_append (a b : String) :
    Utf8.encode (a ++ b) = Utf8.encode a ++ Utf8.encode b := by
  simp only [encode_eq, String.toList_append, List.flatMap_append]

theorem encode_join (l : List String) : Utf8.encode (String.join l) = l.flatMap Utf8.encode := by
  simp only [encode_eq, String.toList_join, List.flatMap_assoc]
  congr 1
  funext s
  exact (encode_eq s).symm

@[simp] theorem encode_singleton (c : Char) :
    Utf8.encode (String.singleton c) = String.utf8EncodeChar c := by
  simp [encode_eq]

/-! The bytes of the punctuation and the words the writer uses. -/

@[simp] theorem encode_quoteMark : Utf8.encode "\"" = [0x22] := by rw [encode_eq]; rfl

@[simp] theorem encode_comma : Utf8.encode "," = [0x2C] := by rw [encode_eq]; rfl

@[simp] theorem encode_colon : Utf8.encode ":" = [0x3A] := by rw [encode_eq]; rfl

@[simp] theorem encode_minus : Utf8.encode "-" = [0x2D] := by rw [encode_eq]; rfl

@[simp] theorem encode_openBracket : Utf8.encode "[" = [0x5B] := by rw [encode_eq]; rfl

@[simp] theorem encode_closeBracket : Utf8.encode "]" = [0x5D] := by rw [encode_eq]; rfl

@[simp] theorem encode_openBrace : Utf8.encode "\x7b" = [0x7B] := by rw [encode_eq]; rfl

@[simp] theorem encode_closeBrace : Utf8.encode "\x7d" = [0x7D] := by rw [encode_eq]; rfl

@[simp] theorem encode_null : Utf8.encode "null" = [0x6E, 0x75, 0x6C, 0x6C] := by
  rw [encode_eq]; rfl

@[simp] theorem encode_true : Utf8.encode "true" = [0x74, 0x72, 0x75, 0x65] := by
  rw [encode_eq]; rfl

@[simp] theorem encode_false : Utf8.encode "false" = [0x66, 0x61, 0x6C, 0x73, 0x65] := by
  rw [encode_eq]; rfl

def Closes (rest : List UInt8) : Prop := ∀ b ∈ rest.head?, b = 0x2C ∨ b = 0x5D ∨ b = 0x7D

theorem Closes.nil : Closes [] := by
  simp [Closes]

theorem Closes.cons {b : UInt8} (r : List UInt8) (h : b = 0x2C ∨ b = 0x5D ∨ b = 0x7D) :
    Closes (b :: r) := by
  simpa [Closes] using h

theorem Closes.head {b : UInt8} {r : List UInt8} (h : Closes (b :: r)) :
    isDigit b = false ∧ (b == 0x2E) = false ∧ (b == 0x65 || b == 0x45) = false ∧
      Text.isJsonBlank b = false := by
  rcases h b rfl with rfl | rfl | rfl <;> decide

theorem dropWhile_isDigit_append (s : List UInt8) {rest : List UInt8} (hr : Closes rest) :
    (s ++ rest).dropWhile isDigit = s.dropWhile isDigit ++ rest := by
  rw [List.dropWhile_append]
  split
  · next he =>
    rw [List.isEmpty_iff.mp he, List.nil_append]
    cases rest with
    | nil => rfl
    | cons b r => simp [(Closes.head hr).1]
  · rfl

/-! ## Strings -/

def plainChar (c : Char) : Bool := c.toNat != 0x22 && c.toNat != 0x5C && 0x20 ≤ c.toNat

theorem escapeChar_of_plainChar {c : Char} (h : plainChar c = true) :
    escapeChar c = String.singleton c := by
  simp only [plainChar, Bool.and_eq_true, bne_iff_ne, ne_eq, decide_eq_true_eq] at h
  obtain ⟨⟨h1, h2⟩, h3⟩ := h
  have hq : c ≠ '"' := fun e => h1 (by rw [e]; rfl)
  have hb : c ≠ '\\' := fun e => h2 (by rw [e]; rfl)
  unfold escapeChar
  rw [if_neg hq, if_neg hb, if_neg (by omega), if_neg (by omega), if_neg (by omega),
    if_neg (by omega), if_neg (by omega), if_neg (by omega)]

theorem isPlain_iff (b : UInt8) :
    isPlain b = (b.toNat != 0x22 && b.toNat != 0x5C && 0x20 ≤ b.toNat) := by
  -- the reader compares bytes, the writer characters: both are read as numbers
  have hbne : ∀ c : UInt8, (b != c) = (b.toNat != c.toNat) := by
    intro c
    by_cases h : b = c
    · subst h
      simp
    · have hn : b.toNat ≠ c.toNat := fun e => h (UInt8.toNat_inj.mp e)
      rw [bne, bne, beq_eq_false_iff_ne.mpr h, beq_eq_false_iff_ne.mpr hn]
  have hle : decide (0x20 ≤ b) = decide (0x20 ≤ b.toNat) := by
    simp [UInt8.le_iff_toNat_le]
  unfold isPlain
  rw [hbne, hbne, hle]
  rfl

theorem isPlain_of_plainChar {c : Char} (h : plainChar c = true) :
    ∀ b ∈ String.utf8EncodeChar c, isPlain b = true := by
  simp only [plainChar, Bool.and_eq_true, bne_iff_ne, ne_eq, decide_eq_true_eq] at h
  rcases Utf8.utf8EncodeChar_ascii_or_high c with ⟨hc, he⟩ | hi
  · rw [he]
    intro b hb
    rw [List.mem_singleton.mp hb, isPlain_iff, UInt8.toNat_ofNat', Nat.mod_eq_of_lt (by omega)]
    simpa using h
  · intro b hb
    have := hi b hb
    rw [isPlain_iff]
    simp only [bne_iff_ne, ne_eq, Bool.and_eq_true, decide_eq_true_eq]
    omega

theorem hexDigit_bytes : ∀ k < 16,
    (Utf8.encode (String.singleton (Nat.digitChar k))).map hexValue = [some k] := by
  simp only [encode_singleton]
  decide

theorem hexDigit_byte {k : Nat} (hk : k < 16) :
    ∃ b, Utf8.encode (String.singleton (Nat.digitChar k)) = [b] ∧ hexValue b = some k := by
  obtain ⟨b, he, hv⟩ := List.map_eq_singleton_iff.mp (hexDigit_bytes k hk)
  exact ⟨b, he, hv⟩

theorem escapeChar_reads_back {c : Char} (h : plainChar c = false) :
    ∃ t, Utf8.encode (escapeChar c) = 0x5C :: t ∧ ∀ r, readEscape (t ++ r) = .ok (c, r) := by
  have hc : ∀ n, c.toNat = n → c = Char.ofNat n := fun n e => by rw [← e, Char.ofNat_toNat]
  unfold escapeChar
  dsimp only
  split
  · next h1 =>
    subst h1
    exact ⟨[0x22], by rw [encode_eq]; rfl, fun r => rfl⟩
  split
  · next h2 =>
    subst h2
    exact ⟨[0x5C], by rw [encode_eq]; rfl, fun r => rfl⟩
  split
  · next h8 =>
    rw [hc 8 h8]
    exact ⟨[0x62], by rw [encode_eq]; rfl, fun r => rfl⟩
  split
  · next h9 =>
    rw [hc 9 h9]
    exact ⟨[0x74], by rw [encode_eq]; rfl, fun r => rfl⟩
  split
  · next h10 =>
    rw [hc 10 h10]
    exact ⟨[0x6E], by rw [encode_eq]; rfl, fun r => rfl⟩
  split
  · next h12 =>
    rw [hc 12 h12]
    exact ⟨[0x66], by rw [encode_eq]; rfl, fun r => rfl⟩
  split
  · next h13 =>
    rw [hc 13 h13]
    exact ⟨[0x72], by rw [encode_eq]; rfl, fun r => rfl⟩
  split
  · -- a control character: `\u00` and two hexadecimal digits
    next hlow =>
    obtain ⟨hi, hie, hiv⟩ := hexDigit_byte (k := c.toNat / 16) (by omega)
    obtain ⟨lo, loe, lov⟩ := hexDigit_byte (k := c.toNat % 16) (by omega)
    have hu : Utf8.encode "\\u00" = [0x5C, 0x75, 0x30, 0x30] := by rw [encode_eq]; rfl
    refine ⟨[0x75, 0x30, 0x30, hi, lo], ?_, fun r => ?_⟩
    · simp only [encode_append, hu, hie, loe, List.cons_append, List.nil_append]
    have h0 : hexValue 0x30 = some 0 := rfl
    have hn : ((0 * 16 + 0) * 16 + c.toNat / 16) * 16 + c.toNat % 16 = c.toNat := by omega
    simp only [readEscape, readUnicode, readHex4, List.cons_append, h0, hiv, lov, hn,
      show ¬ (0xDC00 ≤ c.toNat ∧ c.toNat ≤ 0xDFFF) by omega,
      show c.toNat < 0xD800 ∨ 0xDBFF < c.toNat by omega, if_false, if_true, Char.ofNat_toNat,
      List.nil_append]
  · next h1 h2 _ _ _ _ _ hlow =>
    exfalso
    have hq : c.toNat ≠ 0x22 := fun e => h1 (hc 0x22 e)
    have hb : c.toNat ≠ 0x5C := fun e => h2 (hc 0x5C e)
    simp [plainChar, hq, hb] at h
    omega

def escaped (cs : List Char) : List UInt8 := cs.flatMap fun c => Utf8.encode (escapeChar c)

theorem encode_quote (s : String) :
    Utf8.encode (quote s) = 0x22 :: escaped s.toList ++ [0x22] := by
  simp [quote, encode_join, escaped, List.flatMap_map]

theorem escaped_append (cs ds : List Char) : escaped (cs ++ ds) = escaped cs ++ escaped ds :=
  List.flatMap_append

theorem escaped_of_plain : ∀ {cs : List Char}, (∀ c ∈ cs, plainChar c = true) →
    escaped cs = cs.flatMap String.utf8EncodeChar
  | [], _ => rfl
  | c :: cs, h => by
    have hc := escapeChar_of_plainChar (h c List.mem_cons_self)
    have ih := escaped_of_plain fun d hd => h d (List.mem_cons_of_mem c hd)
    simp only [escaped, List.flatMap_cons] at ih ⊢
    rw [hc, encode_singleton, ih]

theorem split_plain (cs : List Char) : ∃ pre post, cs = pre ++ post ∧
    (∀ c ∈ pre, plainChar c = true) ∧ ∀ c ∈ post.head?, plainChar c = false := by
  refine ⟨cs.takeWhile plainChar, cs.dropWhile plainChar, List.takeWhile_append_dropWhile.symm,
    fun c hc => List.all_eq_true.mp List.all_takeWhile c hc, fun c hc => ?_⟩
  cases hd : cs.dropWhile plainChar with
  | nil => simp [hd] at hc
  | cons d t =>
    have hn := List.head_dropWhile_not plainChar (l := cs) (by simp [hd])
    simp only [hd, List.head?_cons, Option.mem_def, Option.some.injEq] at hc
    simpa [hd, hc] using hn

theorem span_loop (p : UInt8 → Bool) : ∀ (l acc : List UInt8),
    List.span.loop p l acc = (acc.reverse ++ l.takeWhile p, l.dropWhile p)
  | [], acc => by simp [List.span.loop]
  | a :: l, acc => by
    cases h : p a
    · simp [List.span.loop, h]
    · simp [List.span.loop, h, span_loop p l]

theorem span_escaped {pre post : List Char} (hp : ∀ c ∈ pre, plainChar c = true)
    (rest : List UInt8) (hpost : ∀ c ∈ post.head?, plainChar c = false) :
    (escaped pre ++ (escaped post ++ 0x22 :: rest)).span isPlain =
      (pre.flatMap String.utf8EncodeChar, escaped post ++ 0x22 :: rest) := by
  have hrun : ∀ b ∈ escaped pre, isPlain b = true := by
    rw [escaped_of_plain hp]
    simp only [List.mem_flatMap]
    rintro b ⟨c, hc, hb⟩
    exact isPlain_of_plainChar (hp c hc) b hb
  have hstop : ((escaped post ++ 0x22 :: rest).takeWhile isPlain = []) ∧
      ((escaped post ++ 0x22 :: rest).dropWhile isPlain = escaped post ++ 0x22 :: rest) := by
    cases post with
    | nil => exact ⟨by simp [escaped, isPlain], by simp [escaped, isPlain]⟩
    | cons c post =>
      obtain ⟨t, ht, -⟩ := escapeChar_reads_back (hpost c rfl)
      have hs : escaped (c :: post) = 0x5C :: (t ++ escaped post) := by
        simp [escaped, ht]
      rw [hs]
      exact ⟨by simp [isPlain], by simp [isPlain]⟩
  rw [List.span, span_loop, List.takeWhile_append_of_pos hrun, List.dropWhile_append_of_pos hrun,
    hstop.1, hstop.2, escaped_of_plain hp]
  simp

theorem readStrLoop_escaped : ∀ (fuel : Nat) (cs : List Char) (acc : String) (rest : List UInt8),
    cs.length < fuel →
      readStrLoop fuel acc none (escaped cs ++ 0x22 :: rest) = .ok (acc ++ String.ofList cs, rest)
  | 0, _, _, _, h => absurd h (Nat.not_lt_zero _)
  | fuel + 1, cs, acc, rest, h => by
    obtain ⟨pre, post, rfl, hpre, hpost⟩ := split_plain cs
    rw [readStrLoop, escaped_append, List.append_assoc, span_escaped hpre rest hpost]
    simp only [Utf8.validPrefix_encode, Nat.lt_irrefl, if_false, Utf8.decodeLossy_encode]
    cases post with
    | nil =>
      simp [escaped]
    | cons c post =>
      obtain ⟨t, ht, hr⟩ := escapeChar_reads_back (hpost c rfl)
      have hs : escaped (c :: post) = 0x5C :: (t ++ escaped post) := by
        simp [escaped, ht]
      rw [hs]
      simp only [List.cons_append, List.append_assoc, hr]
      have hb : (none <|> none : Option Nat) = none := rfl
      rw [hb, readStrLoop_escaped fuel post _ rest (by simp at h; omega)]
      simp [← String.toList_inj]

theorem escaped_length : ∀ cs : List Char, cs.length ≤ (escaped cs).length
  | [] => Nat.le_refl 0
  | c :: cs => by
    have hc : 1 ≤ (Utf8.encode (escapeChar c)).length := by
      cases hp : plainChar c with
      | true =>
        rw [escapeChar_of_plainChar hp, encode_singleton, String.length_utf8EncodeChar]
        exact Char.utf8Size_pos c
      | false =>
        obtain ⟨t, ht, -⟩ := escapeChar_reads_back hp
        simp [ht]
    have ih := escaped_length cs
    simp only [escaped, List.flatMap_cons, List.length_append, List.length_cons] at ih ⊢
    omega

theorem readStr_escaped (s : String) (rest : List UInt8) :
    readStr (escaped s.toList ++ 0x22 :: rest) = .ok (s, rest) := by
  have hl := escaped_length s.toList
  rw [readStr, readStrLoop_escaped _ _ _ _ (by simp; omega)]
  simp

/-! ## Integers -/

theorem u64Max_eq : u64Max = 18446744073709551615 := rfl

theorem decimalDigit_byte : ∀ d < 10,
    Utf8.encode (String.singleton (Nat.digitChar d)) = [UInt8.ofNat (0x30 + d)] ∧
    isDigit (UInt8.ofNat (0x30 + d)) = true ∧ digitValue (UInt8.ofNat (0x30 + d)) = d ∧
    (UInt8.ofNat (0x30 + d) == 0x30) = (d == 0) := by
  simp only [encode_singleton]
  decide

theorem isDigit_iff (b : UInt8) : isDigit b = true ↔ 48 ≤ b.toNat ∧ b.toNat ≤ 57 := by
  simp [isDigit, UInt8.le_iff_toNat_le]

theorem isDigit_facts {b : UInt8} (h : isDigit b = true) :
    Text.isJsonBlank b = false ∧ (b == 0x6E) = false ∧ (b == 0x74) = false ∧
      (b == 0x66) = false ∧ (b == 0x2D) = false ∧ b ≠ 0x5D ∧ b ≠ 0x7D := by
  have hb := (isDigit_iff b).mp h
  have hne : ∀ c : UInt8, (c.toNat < 48 ∨ 57 < c.toNat) → b ≠ c := by
    rintro c hc rfl
    omega
  have hbeq : ∀ c : UInt8, (c.toNat < 48 ∨ 57 < c.toNat) → (b == c) = false :=
    fun c hc => beq_eq_false_iff_ne.mpr (hne c hc)
  refine ⟨?_, hbeq 0x6E (by decide), hbeq 0x74 (by decide), hbeq 0x66 (by decide),
    hbeq 0x2D (by decide), hne 0x5D (by decide), hne 0x7D (by decide)⟩
  simp only [Text.isJsonBlank, hbeq 0x20 (by decide), hbeq 0x0A (by decide),
    hbeq 0x09 (by decide), hbeq 0x0D (by decide), Bool.or_self]

theorem encode_toString_of_lt {n : Nat} (h : n < 10) :
    Utf8.encode (toString n) = [UInt8.ofNat (0x30 + n)] := by
  rw [Nat.toString_eq_repr, Nat.repr_of_lt h, (decimalDigit_byte n h).1]

theorem encode_toString_of_ge {n : Nat} (h : 10 ≤ n) :
    Utf8.encode (toString n) =
      Utf8.encode (toString (n / 10)) ++ [UInt8.ofNat (0x30 + n % 10)] := by
  rw [Nat.toString_eq_repr, Nat.repr_of_ge h, encode_append,
    (decimalDigit_byte _ (Nat.mod_lt _ (by omega))).1]
  rfl

theorem encode_toString_head (n : Nat) :
    ∃ d t, d < 10 ∧ Utf8.encode (toString n) = UInt8.ofNat (0x30 + d) :: t := by
  induction n using Nat.strongRecOn with
  | ind n ih =>
    by_cases h10 : n < 10
    · exact ⟨n, [], h10, encode_toString_of_lt h10⟩
    · obtain ⟨d, t, hd, he⟩ := ih (n / 10) (by omega)
      exact ⟨d, t ++ [UInt8.ofNat (0x30 + n % 10)], hd, by
        rw [encode_toString_of_ge (by omega), he, List.cons_append]⟩

theorem intDigits_digit (positive : Bool) {sig d : Nat} (hd : d < 10)
    (hb : sig * 10 + d ≤ u64Max) (rest : List UInt8) :
    intDigits positive sig (UInt8.ofNat (0x30 + d) :: rest) =
      intDigits positive (sig * 10 + d) rest := by
  obtain ⟨-, h1, h2, -⟩ := decimalDigit_byte d hd
  rw [intDigits, if_pos h1, h2, if_neg (by omega)]

theorem readInteger_digits (positive : Bool) (n : Nat) (hn : 0 < n) (hb : n ≤ u64Max)
    (rest : List UInt8) :
    readInteger positive (Utf8.encode (toString n) ++ rest) = intDigits positive n rest := by
  induction n using Nat.strongRecOn generalizing rest with
  | ind n ih =>
    by_cases h10 : n < 10
    · obtain ⟨-, h1, h2, h0⟩ := decimalDigit_byte n h10
      have hz : (UInt8.ofNat (0x30 + n) == 0x30) = false := by
        rw [h0]
        simpa using Nat.pos_iff_ne_zero.mp hn
      rw [encode_toString_of_lt h10, List.singleton_append]
      simp only [readInteger, hz, h1, h2, Bool.false_eq_true, if_false, if_true]
    · have he : n / 10 * 10 + n % 10 = n := by omega
      rw [encode_toString_of_ge (by omega), List.append_assoc, List.singleton_append,
        ih (n / 10) (by omega) (by omega) (by omega),
        intDigits_digit positive (Nat.mod_lt _ (by omega)) (by omega), he]

theorem readTail_closes (positive : Bool) (sig : Nat) {rest : List UInt8} (hr : Closes rest) :
    readTail positive sig rest = whole positive sig rest := by
  cases rest with
  | nil => rfl
  | cons b r =>
    obtain ⟨-, h2, h3, -⟩ := Closes.head hr
    simp [readTail, h2, h3]

theorem intDigits_closes (positive : Bool) (sig : Nat) {rest : List UInt8} (hr : Closes rest) :
    intDigits positive sig rest = whole positive sig rest := by
  cases rest with
  | nil => rfl
  | cons b r => simp [intDigits, (Closes.head hr).1, readTail_closes positive sig hr]

theorem readInteger_toString (positive : Bool) {n : Nat} (hb : n ≤ u64Max) {rest : List UInt8}
    (hr : Closes rest) :
    readInteger positive (Utf8.encode (toString n) ++ rest) = whole positive n rest := by
  rcases Nat.eq_zero_or_pos n with rfl | hn
  · rw [encode_toString_of_lt (by decide)]
    cases rest with
    | nil => rfl
    | cons b r => simp [readInteger, (Closes.head hr).1, readTail_closes _ _ hr]
  · rw [readInteger_digits positive n hn hb, intDigits_closes positive n hr]

/-! ## Where a number ends

Every reader of a number's parts ends on the first byte that cannot go on with the number.
So a reading that takes a whole text takes the same text the same way when a comma, a closing
bracket or brace follows it. Each lemma below says so of one reader, from those it calls. -/

section Ends

variable {positive : Bool} {sig : Nat} {n : Number} {rest : List UInt8}

theorem fromParts_append {exp : Int} {s : List UInt8}
    (h : fromParts positive sig exp s = .ok (n, [])) :
    fromParts positive sig exp (s ++ rest) = .ok (n, rest) := by
  unfold fromParts at h ⊢
  split at h
  · next f hf =>
    simp only [Except.ok.injEq, Prod.mk.injEq] at h
    obtain ⟨rfl, rfl⟩ := h
    rfl
  · cases h

theorem expOverflow_append {up : Bool} {s : List UInt8}
    (h : expOverflow positive sig up s = .ok (n, [])) (hr : Closes rest) :
    expOverflow positive sig up (s ++ rest) = .ok (n, rest) := by
  unfold expOverflow at h ⊢
  split at h
  · cases h
  · next hc =>
    simp only [Except.ok.injEq, Prod.mk.injEq] at h
    obtain ⟨rfl, hd⟩ := h
    rw [if_neg hc, dropWhile_isDigit_append s hr, hd, List.nil_append]

theorem expDigits_append {start : Int} {up : Bool} (s : List UInt8) :
    ∀ {acc : Nat}, expDigits positive sig start up acc s = .ok (n, []) → Closes rest →
      expDigits positive sig start up acc (s ++ rest) = .ok (n, rest) := by
  induction s with
  | nil =>
    intro acc h hr
    cases rest with
    | nil => exact h
    | cons b r =>
      simp only [expDigits] at h
      simp only [List.nil_append, expDigits, (Closes.head hr).1, Bool.false_eq_true, if_false]
      exact fromParts_append h
  | cons b s ih =>
    intro acc h hr
    simp only [expDigits, List.cons_append] at h ⊢
    split at h
    · next hb =>
      rw [if_pos hb]
      split at h
      · next ho => rw [if_pos ho]; exact expOverflow_append h hr
      · next ho => rw [if_neg ho]; exact ih h hr
    · next hb =>
      rw [if_neg hb]
      exact fromParts_append (s := b :: s) h

theorem exponentSign_append {s : List UInt8} (hs : s ≠ []) :
    exponentSign (s ++ rest) = ((exponentSign s).1, (exponentSign s).2 ++ rest) := by
  obtain ⟨b, s, rfl⟩ := List.exists_cons_of_ne_nil hs
  unfold exponentSign
  split <;> split <;> simp_all

theorem readExponent_append {start : Int} {s : List UInt8}
    (h : readExponent positive sig start s = .ok (n, [])) (hr : Closes rest) :
    readExponent positive sig start (s ++ rest) = .ok (n, rest) := by
  cases s with
  | nil => cases h
  | cons b s =>
    unfold readExponent at h ⊢
    rw [exponentSign_append (List.cons_ne_nil b s)]
    generalize exponentSign (b :: s) = sign at h ⊢
    obtain ⟨up, t⟩ := sign
    cases t with
    | nil => cases h
    | cons c t =>
      simp only [List.cons_append] at h ⊢
      split at h
      · next hc => rw [if_pos hc]; exact expDigits_append t h hr
      · cases h

theorem afterMantissa_append {exp : Int} {s : List UInt8}
    (h : afterMantissa positive sig exp s = .ok (n, [])) (hr : Closes rest) :
    afterMantissa positive sig exp (s ++ rest) = .ok (n, rest) := by
  cases s with
  | nil =>
    cases rest with
    | nil => exact h
    | cons b r =>
      simp only [afterMantissa] at h
      simp only [List.nil_append, afterMantissa, (Closes.head hr).2.2.1, Bool.false_eq_true,
        if_false]
      exact fromParts_append h
  | cons b s =>
    simp only [afterMantissa, List.cons_append] at h ⊢
    split at h
    · next he => rw [if_pos he]; exact readExponent_append h hr
    · next he => rw [if_neg he]; exact fromParts_append (s := b :: s) h

theorem decimalOverflow_append {exp : Int} {s : List UInt8}
    (h : decimalOverflow positive sig exp s = .ok (n, [])) (hr : Closes rest) :
    decimalOverflow positive sig exp (s ++ rest) = .ok (n, rest) := by
  unfold decimalOverflow at h ⊢
  rw [dropWhile_isDigit_append s hr]
  exact afterMantissa_append h hr

theorem fracDigits_append (s : List UInt8) :
    ∀ {sig : Nat} {exp : Int} {count : Nat}, fracDigits positive sig exp count s = .ok (n, []) →
      Closes rest → fracDigits positive sig exp count (s ++ rest) = .ok (n, rest) := by
  induction s with
  | nil =>
    intro sig exp count h hr
    cases rest with
    | nil => exact h
    | cons b r =>
      simp only [fracDigits] at h
      split at h
      · cases h
      · next hc =>
        simp only [List.nil_append, fracDigits, (Closes.head hr).1, Bool.false_eq_true, if_false,
          if_neg hc]
        exact afterMantissa_append h hr
  | cons b s ih =>
    intro sig exp count h hr
    simp only [fracDigits, List.cons_append] at h ⊢
    split at h
    · next hb =>
      rw [if_pos hb]
      split at h
      · next ho => rw [if_pos ho]; exact decimalOverflow_append (s := b :: s) h hr
      · next ho => rw [if_neg ho]; exact ih h hr
    · next hb =>
      rw [if_neg hb]
      split at h
      · cases h
      · next hc => rw [if_neg hc]; exact afterMantissa_append (s := b :: s) h hr

theorem whole_append {s : List UInt8} (h : whole positive sig s = .ok (n, [])) :
    whole positive sig (s ++ rest) = .ok (n, rest) := by
  unfold whole at h ⊢
  split at h
  · next hp =>
    simp only [Except.ok.injEq, Prod.mk.injEq] at h
    obtain ⟨rfl, rfl⟩ := h
    rw [if_pos hp]
    rfl
  · next hp =>
    rw [if_neg hp]
    split at h
    · next hz =>
      simp only [Except.ok.injEq, Prod.mk.injEq] at h
      obtain ⟨rfl, rfl⟩ := h
      rw [if_pos hz]
      rfl
    · next hz =>
      rw [if_neg hz]
      split at h
      · next hm =>
        simp only [Except.ok.injEq, Prod.mk.injEq] at h
        obtain ⟨rfl, rfl⟩ := h
        rw [if_pos hm]
        rfl
      · next hm =>
        simp only [Except.ok.injEq, Prod.mk.injEq] at h
        obtain ⟨rfl, rfl⟩ := h
        rw [if_neg hm]
        rfl

theorem readTail_append {s : List UInt8} (h : readTail positive sig s = .ok (n, []))
    (hr : Closes rest) : readTail positive sig (s ++ rest) = .ok (n, rest) := by
  cases s with
  | nil =>
    rw [List.nil_append, readTail_closes positive sig hr]
    exact whole_append (s := []) h
  | cons b s =>
    simp only [readTail, List.cons_append] at h ⊢
    split at h
    · next hd => rw [if_pos hd]; exact fracDigits_append s h hr
    · next hd =>
      rw [if_neg hd]
      split at h
      · next he => rw [if_pos he]; exact readExponent_append h hr
      · next he => rw [if_neg he]; exact whole_append (s := b :: s) h

theorem longInteger_append (s : List UInt8) :
    ∀ {count : Nat}, longInteger positive sig count s = .ok (n, []) → Closes rest →
      longInteger positive sig count (s ++ rest) = .ok (n, rest) := by
  induction s with
  | nil =>
    intro count h hr
    cases rest with
    | nil => exact h
    | cons b r =>
      obtain ⟨hd, hp, he, -⟩ := Closes.head hr
      simp only [longInteger] at h
      simp only [List.nil_append, longInteger, hd, hp, he, Bool.false_eq_true, if_false]
      exact fromParts_append h
  | cons b s ih =>
    intro count h hr
    simp only [longInteger, List.cons_append] at h ⊢
    split at h
    · next hd => rw [if_pos hd]; exact ih h hr
    · next hd =>
      rw [if_neg hd]
      split at h
      · next hp => rw [if_pos hp]; exact fracDigits_append s h hr
      · next hp =>
        rw [if_neg hp]
        split at h
        · next he => rw [if_pos he]; exact readExponent_append h hr
        · next he => rw [if_neg he]; exact fromParts_append (s := b :: s) h

theorem intDigits_append (s : List UInt8) :
    ∀ {sig : Nat}, intDigits positive sig s = .ok (n, []) → Closes rest →
      intDigits positive sig (s ++ rest) = .ok (n, rest) := by
  induction s with
  | nil =>
    intro sig h hr
    rw [List.nil_append, intDigits_closes positive sig hr]
    exact whole_append (s := []) h
  | cons b s ih =>
    intro sig h hr
    simp only [intDigits, List.cons_append] at h ⊢
    split at h
    · next hd =>
      rw [if_pos hd]
      split at h
      · next ho => rw [if_pos ho]; exact longInteger_append (b :: s) h hr
      · next ho => rw [if_neg ho]; exact ih h hr
    · next hd => rw [if_neg hd]; exact readTail_append (s := b :: s) h hr

theorem readInteger_append {s : List UInt8} (h : readInteger positive s = .ok (n, []))
    (hr : Closes rest) : readInteger positive (s ++ rest) = .ok (n, rest) := by
  cases s with
  | nil => cases h
  | cons b s =>
    simp only [readInteger, List.cons_append] at h ⊢
    split at h
    · next hz =>
      rw [if_pos hz]
      cases s with
      | nil =>
        cases rest with
        | nil => exact h
        | cons c r =>
          simp only [List.nil_append, (Closes.head hr).1, Bool.false_eq_true, if_false]
          exact readTail_append (s := []) h hr
      | cons c s =>
        simp only [List.cons_append] at h ⊢
        split at h
        · cases h
        · next hc => rw [if_neg hc]; exact readTail_append (s := c :: s) h hr
    · next hz =>
      rw [if_neg hz]
      split at h
      · next hd => rw [if_pos hd]; exact intDigits_append s h hr
      · cases h

end Ends

/-! ## Numbers -/

theorem render_head (bits : UInt64) :
    ∃ c t, (Decimal.Layout.json.render bits).toList = c :: t ∧ (c = '-' ∨ c.isDigit = true) := by
  -- the shortest digits of a double are a number's decimal digits
  obtain ⟨c, t, he, hc⟩ : ∃ c t, (Decimal.Shortest.ofBits bits).text.toList = c :: t ∧
      c.isDigit = true := by
    obtain ⟨c, t, he⟩ := List.exists_cons_of_ne_nil
      (Nat.toDigits_ne_nil (n := (Decimal.Shortest.ofBits bits).digits) (b := 10))
    have hm : c ∈ Nat.toDigits 10 (Decimal.Shortest.ofBits bits).digits := by
      rw [he]
      exact List.mem_cons_self
    exact ⟨c, t, by simp [Decimal.Shortest.text, he], Nat.isDigit_of_mem_toDigits (by decide)
      (by decide) hm⟩
  have signed : ∀ (neg : Bool) (x : String), (∃ c t, x.toList = c :: t ∧
      (c = '-' ∨ c.isDigit = true)) → ∃ c t, ((if neg then "-" else "") ++ x).toList = c :: t ∧
      (c = '-' ∨ c.isDigit = true) := by
    rintro (_ | _) x ⟨c, t, hx, hc⟩
    · exact ⟨c, t, by simp [hx], hc⟩
    · exact ⟨'-', x.toList, by simp, .inl rfl⟩
  unfold Decimal.Layout.render
  dsimp only
  split
  · exact signed _ _ ⟨'0', ['.', '0'], by decide, .inr rfl⟩
  · split
    · apply signed
      unfold Decimal.positional
      split
      · exact ⟨'0', _, by simp; rfl, .inr rfl⟩
      · split
        · exact ⟨c, _, by simp [he]; rfl, .inr hc⟩
        · obtain ⟨k, hk⟩ : ∃ k, (Decimal.Shortest.ofBits bits).order.toNat = k + 1 :=
            ⟨(Decimal.Shortest.ofBits bits).order.toNat - 1, by omega⟩
          exact ⟨c, _, by simp [he, hk]; rfl, .inr hc⟩
    · apply signed
      unfold Decimal.scientific
      dsimp only
      rw [he]
      cases t with
      | nil => exact ⟨c, _, by simp; rfl, .inr hc⟩
      | cons d t => exact ⟨c, _, by simp; rfl, .inr hc⟩

/-- A number that reads back from its text: a natural number below 2^64, a negative integer
down to -2^63, or a double whose text the reader's decimal conversion turns back into the same
double. The last is the writer's and the reader's agreement on doubles, taken as given here. -/
def Number.Exact : Number → Prop
  | .nat n => n < 2 ^ 64
  | .neg n => 0 < n ∧ n ≤ 2 ^ 63
  | .float bits => readAt maxDepth (bytes (.num (.float bits))) = .ok (.num (.float bits), [])

theorem encode_cons {x : String} {c : Char} {t : List Char} (h : x.toList = c :: t)
    (hc : c.toNat < 0x80) : Utf8.encode x = UInt8.ofNat c.toNat :: Utf8.encode (String.ofList t) := by
  have h1 : c.utf8Size = 1 := Char.utf8Size_eq_one_iff.mpr
    (by simpa [UInt32.le_iff_toNat_le] using (show c.toNat ≤ 0x7f by omega))
  rw [encode_eq, h, List.flatMap_cons, Utf8.utf8EncodeChar_eq_one h1, encode_eq,
    String.toList_ofList]
  rfl

theorem readValue_minus (fuel depth : Nat) (s : List UInt8) :
    readValue (fuel + 1) depth (0x2D :: s) =
      (readInteger false s).map fun (n, r) => (.num n, r) := by
  simp [readValue, skipBlank, Text.isJsonBlank]

theorem readValue_digit {b : UInt8} (hb : isDigit b = true) (fuel depth : Nat) (s : List UInt8) :
    readValue (fuel + 1) depth (b :: s) =
      (readInteger true (b :: s)).map fun (n, r) => (.num n, r) := by
  obtain ⟨h1, h2, h3, h4, h5, -, -⟩ := isDigit_facts hb
  simp only [readValue, skipBlank, h1, h2, h3, h4, h5, hb, Bool.false_eq_true, if_false, if_true]

theorem readNumber_append {positive : Bool} {u rest : List UInt8} {m : Number}
    (h : (readInteger positive u).map (fun (n, r) => (Json.num n, r)) = .ok (.num m, []))
    (hr : Closes rest) :
    (readInteger positive (u ++ rest)).map (fun (n, r) => (Json.num n, r)) =
      .ok (.num m, rest) := by
  cases hx : readInteger positive u with
  | error e => rw [hx] at h; cases h
  | ok q =>
    rw [hx] at h
    obtain ⟨n', r'⟩ := q
    simp only [Except.map, Except.ok.injEq, Prod.mk.injEq, Json.num.injEq] at h
    obtain ⟨rfl, rfl⟩ := h
    rw [readInteger_append hx hr]
    rfl

theorem toNat_minus : UInt8.ofNat '-'.toNat = 0x2D := rfl

theorem isDigit_byte {c : Char} (hd : c.isDigit = true) :
    c.toNat < 0x80 ∧ isDigit (UInt8.ofNat c.toNat) = true := by
  have h48 : 48 ≤ c.toNat ∧ c.toNat ≤ 57 := by
    simp only [Char.isDigit, Bool.and_eq_true, decide_eq_true_eq] at hd
    simpa [UInt32.le_iff_toNat_le] using hd
  refine ⟨by omega, (isDigit_iff _).mpr ?_⟩
  rw [UInt8.toNat_ofNat', Nat.mod_eq_of_lt (by omega)]
  exact h48

theorem bytes_neg (k : Nat) : bytes (.num (.neg k)) = 0x2D :: Utf8.encode (toString k) := by
  simp only [bytes, write, Number.text]
  rw [← Utf8.encode, encode_append, encode_minus, List.singleton_append]

theorem Number.Exact.finite {bits : UInt64} (hn : (Number.float bits).Exact) :
    ¬ ((bits >>> 52) &&& 0x7FF == 0x7FF) = true := by
  intro hc
  have hb : bytes (.num (.float bits)) = [0x6E, 0x75, 0x6C, 0x6C] := by
    simp only [bytes, write, Number.text, hc, if_true]
    exact encode_null
  have hnull : readAt maxDepth [0x6E, 0x75, 0x6C, 0x6C] = .ok (.null, []) := rfl
  simp only [Number.Exact] at hn
  rw [hb, hnull] at hn
  cases hn

theorem bytes_float {bits : UInt64} (hf : ¬ ((bits >>> 52) &&& 0x7FF == 0x7FF) = true) :
    bytes (.num (.float bits)) = Utf8.encode (Decimal.Layout.json.render bits) := by
  simp only [bytes, write, Number.text, hf, Bool.false_eq_true, if_false]
  rfl

theorem readValue_num {n : Number} (hn : n.Exact) {fuel : Nat} (hf : 0 < fuel) (depth : Nat)
    {rest : List UInt8} (hr : Closes rest) :
    readValue fuel depth (bytes (.num n) ++ rest) = .ok (.num n, rest) := by
  obtain ⟨f, rfl⟩ : ∃ f, fuel = f + 1 := ⟨fuel - 1, by omega⟩
  cases n with
  | nat k =>
    obtain ⟨d, t, hd, he⟩ := encode_toString_head k
    have hb : bytes (.num (.nat k)) = Utf8.encode (toString k) := rfl
    rw [hb, he, List.cons_append, readValue_digit (decimalDigit_byte d hd).2.1,
      ← List.cons_append, ← he, readInteger_toString true
        (by simp only [Number.Exact] at hn; rw [u64Max_eq]; omega) hr]
    rfl
  | neg k =>
    obtain ⟨hk, hk'⟩ := hn
    have hw : whole false k rest = .ok (.neg k, rest) := by
      simp only [whole, Bool.false_eq_true, if_false, Nat.pos_iff_ne_zero.mp hk,
        show k ≤ Nat.pow 2 63 from hk', if_true]
    rw [bytes_neg, List.cons_append, readValue_minus,
      readInteger_toString false (by rw [u64Max_eq]; omega) hr, hw]
    rfl
  | float bits =>
    obtain ⟨c, t, hct, hc⟩ := render_head bits
    have hb : bytes (.num (.float bits)) = Utf8.encode (String.ofList (c :: t)) := by
      rw [bytes_float hn.finite, ← hct, String.ofList_toList]
    simp only [Number.Exact] at hn
    rw [hb, readAt, fuelFor] at hn
    rw [hb]
    rcases hc with rfl | hd
    · rw [encode_cons (c := '-') (t := t) String.toList_ofList (by decide), toNat_minus] at hn ⊢
      rw [List.cons_append, readValue_minus]
      rw [readValue_minus] at hn
      exact readNumber_append hn hr
    · obtain ⟨hlt, hdig⟩ := isDigit_byte hd
      rw [encode_cons (c := c) (t := t) String.toList_ofList hlt] at hn ⊢
      rw [List.cons_append, readValue_digit hdig, ← List.cons_append]
      rw [readValue_digit hdig] at hn
      exact readNumber_append hn hr

theorem Number.Exact.head {n : Number} (hn : n.Exact) :
    ∃ b t, bytes (.num n) = b :: t ∧ (b = 0x2D ∨ isDigit b = true) := by
  cases n with
  | nat k =>
    obtain ⟨d, t, hd, he⟩ := encode_toString_head k
    exact ⟨_, t, he, .inr (decimalDigit_byte d hd).2.1⟩
  | neg k => exact ⟨0x2D, _, bytes_neg k, .inl rfl⟩
  | float bits =>
    obtain ⟨c, t, hct, hc⟩ := render_head bits
    rw [bytes_float hn.finite, ← String.ofList_toList (s := Decimal.Layout.json.render bits), hct]
    rcases hc with rfl | hd
    · rw [encode_cons (c := '-') (t := t) String.toList_ofList (by decide), toNat_minus]
      exact ⟨_, _, rfl, .inl rfl⟩
    · obtain ⟨hlt, hdig⟩ := isDigit_byte hd
      rw [encode_cons (c := c) (t := t) String.toList_ofList hlt]
      exact ⟨_, _, rfl, .inr hdig⟩

end Relay.Json
