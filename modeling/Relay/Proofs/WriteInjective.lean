import Relay.Proofs.DoubleText
import Relay.Proofs.JsonText
/-!
# Compact texts tell values apart

Two values whose doubles are all finite (`Json.Finite`) have the same compact text only when
they are the same value (`Json.write_inj`). A double that is not finite is written `null`,
the text of the null value, so the condition is needed.

The text of a value can be read in one way only, whatever follows it where a value may stand
in written JSON (`Json.Ends`): its first character tells what kind of value it is
(`Json.write_head`), a number's text runs up to the first comma or closing bracket or brace and
its digits single it out (`Json.Number.text_inj`), a string's text ends at its closing quote
(`Json.quote_append_inj`), and the items of an array and the entries of an object are read one
after the other (`Json.write_append_inj`, by recursion on the value).
-/
namespace Relay.Json

def Number.Finite : Number → Prop
  | .float bits => ¬ ((bits >>> 52) &&& 0x7FF == 0x7FF) = true
  | _ => True

mutual
def Finite : Json → Prop
  | .num n => n.Finite
  | .arr xs => ItemsFinite xs
  | .obj fs => FieldsFinite fs
  | _ => True

def ItemsFinite : List Json → Prop
  | [] => True
  | x :: xs => x.Finite ∧ ItemsFinite xs

def FieldsFinite : List (String × Json) → Prop
  | [] => True
  | (_, v) :: fs => v.Finite ∧ FieldsFinite fs
end

def Ends (r : List Char) : Prop := ∀ c ∈ r.head?, c = ',' ∨ c = ']' ∨ c = '}'

def Closing (c : Char) : Prop := c = ',' ∨ c = ']' ∨ c = '}'

theorem ends_cons {c : Char} (r : List Char) (h : Closing c) : Ends (c :: r) := by
  simpa [Ends, Closing] using h

theorem append_inj_of_ends {a a' r r' : List Char} (ha : ∀ c ∈ a, ¬ Closing c)
    (ha' : ∀ c ∈ a', ¬ Closing c) (hr : Ends r) (hr' : Ends r') (h : a ++ r = a' ++ r') :
    a = a' ∧ r = r' := by
  induction a generalizing a' with
  | nil =>
    cases a' with
    | nil => exact ⟨rfl, h⟩
    | cons c a' =>
      -- what follows the shorter text starts with a character of the longer one
      subst h
      exact absurd (hr c rfl) (ha' c List.mem_cons_self)
  | cons c a ih =>
    cases a' with
    | nil =>
      subst h
      exact absurd (hr' c rfl) (ha c List.mem_cons_self)
    | cons c' a' =>
      simp only [List.cons_append, List.cons.injEq] at h
      obtain ⟨rfl, h⟩ := h
      obtain ⟨rfl, rfl⟩ := ih (fun x hx => ha x (List.mem_cons_of_mem c hx))
        (fun x hx => ha' x (List.mem_cons_of_mem c hx)) h
      exact ⟨rfl, rfl⟩

/-! ## Numbers -/

theorem not_closing {c : Char} (h : Decimal.NumberChar c ∨ c = 'e') : ¬ Closing c := by
  have hr : 43 ≤ c.toNat ∧ c.toNat ≤ 101 ∧ c.toNat ≠ 44 ∧ c.toNat ≠ 93 := by
    rcases h with (h | rfl | rfl | rfl) | rfl
    · have := Char.isDigit_iff_toNat.mp h
      simp only [show '0'.toNat = 48 from rfl, show '9'.toNat = 57 from rfl] at this
      omega
    all_goals decide
  rintro (rfl | rfl | rfl) <;> simp at hr

theorem toString_digits (n : Nat) : ∀ c ∈ (toString n).toList, c.isDigit = true := by
  rw [Nat.toString_eq_repr, Nat.toList_repr]
  exact fun c hc => Nat.isDigit_of_mem_toDigits (by decide) (by decide) hc

theorem Number.text_float {bits : UInt64} (hf : (Number.float bits).Finite) :
    (Number.float bits).text = Decimal.Layout.json.render bits := by
  simp only [Number.text]
  rw [if_neg hf]

theorem Number.text_chars {n : Number} (hn : n.Finite) :
    ∀ c ∈ n.text.toList, Decimal.NumberChar c ∨ c = 'e' := by
  cases n with
  | nat k => exact fun c hc => .inl (.inl (toString_digits k c hc))
  | neg k =>
    intro c hc
    simp only [Number.text, String.toList_append, List.mem_append] at hc
    rcases hc with hc | hc
    · obtain rfl : c = '-' := by simpa using hc
      exact .inl (.inr (.inl rfl))
    · exact .inl (.inl (toString_digits k c hc))
  | float bits =>
    rw [Number.text_float hn]
    exact Decimal.Layout.render_chars _ hn

theorem toString_ne_unsigned (k : Nat) {bits : UInt64}
    (hf : ¬ ((bits >>> 52) &&& 0x7FF == 0x7FF) = true) :
    toString k ≠ Decimal.Layout.json.unsigned bits := by
  intro h
  obtain ⟨c, t, hct, -, hpe⟩ := Decimal.Layout.json.unsigned_shape hf
  have hd := toString_digits k
  rw [h, hct] at hd
  rcases hpe with hp | he
  · exact absurd (hd '.' (List.mem_cons_of_mem c hp)) (by decide)
  · exact absurd (hd 'e' (List.mem_cons_of_mem c he)) (by decide)

theorem toString_shape (k : Nat) : ∃ c t, (toString k).toList = c :: t ∧ c.isDigit = true := by
  obtain ⟨c, t, hct⟩ := List.exists_cons_of_ne_nil
    (show (toString k).toList ≠ [] by
      rw [Nat.toString_eq_repr, Nat.toList_repr]
      exact Nat.toDigits_ne_nil)
  exact ⟨c, t, hct, toString_digits k c (hct ▸ List.mem_cons_self)⟩

theorem Number.text_inj {n n' : Number} (hn : n.Finite) (hn' : n'.Finite) (h : n.text = n'.text) :
    n = n' := by
  -- a natural number's text after an optional minus sign, against a double's
  have versus_float : ∀ (neg : Bool) (k : Nat) {bits : UInt64}, (Number.float bits).Finite →
      (if neg then "-" else "") ++ toString k ≠ Decimal.Layout.json.render bits := by
    intro neg k bits hf he
    rw [Decimal.Layout.render_eq] at he
    obtain ⟨-, hu⟩ := Decimal.sign_append_inj (toString_shape k) (Decimal.Layout.json.unsigned_head hf) he
    exact toString_ne_unsigned k hf hu
  have hnat : ∀ k, (Number.nat k).text = (if false then "-" else "") ++ toString k :=
    fun k => by simp [Number.text]
  have hneg : ∀ k, (Number.neg k).text = (if true then "-" else "") ++ toString k := fun k => rfl
  cases n with
  | nat k =>
    cases n' with
    | nat k' =>
      have hl := congrArg String.toList h
      simp only [Number.text, Nat.toString_eq_repr, Nat.toList_repr] at hl
      rw [Decimal.toDigits_inj hl]
    | neg k' =>
      rw [hnat, hneg] at h
      exact absurd (Decimal.sign_append_inj (toString_shape k) (toString_shape k') h).1 (by decide)
    | float bits =>
      rw [hnat, Number.text_float hn'] at h
      exact absurd h (versus_float false k hn')
  | neg k =>
    cases n' with
    | nat k' =>
      rw [hneg, hnat] at h
      exact absurd (Decimal.sign_append_inj (toString_shape k) (toString_shape k') h).1 (by decide)
    | neg k' =>
      rw [hneg, hneg] at h
      have hl := congrArg String.toList (Decimal.sign_append_inj (toString_shape k)
        (toString_shape k') h).2
      simp only [Nat.toString_eq_repr, Nat.toList_repr] at hl
      rw [Decimal.toDigits_inj hl]
    | float bits =>
      rw [hneg, Number.text_float hn'] at h
      exact absurd h (versus_float true k hn')
  | float bits =>
    cases n' with
    | nat k' =>
      rw [hnat, Number.text_float hn] at h
      exact absurd h.symm (versus_float false k' hn)
    | neg k' =>
      rw [hneg, Number.text_float hn] at h
      exact absurd h.symm (versus_float true k' hn)
    | float bits' =>
      rw [Number.text_float hn, Number.text_float hn'] at h
      rw [Decimal.Layout.json.render_inj hn hn' h]

/-! ## Strings -/

theorem quote_append_inj {s s' : String} {x y : List Char}
    (h : (quote s).toList ++ x = (quote s').toList ++ y) : s = s' ∧ x = y := by
  -- read as bytes, the body runs up to the closing quote and reads back as the string
  have hb := congrArg (List.flatMap String.utf8EncodeChar) h
  rw [List.flatMap_append, List.flatMap_append, ← encode_eq, ← encode_eq, encode_quote,
    encode_quote] at hb
  simp only [List.cons_append, List.nil_append, List.append_assoc, List.cons.injEq,
    true_and] at hb
  have hread := readStr_escaped s (x.flatMap String.utf8EncodeChar)
  rw [hb, readStr_escaped] at hread
  obtain ⟨rfl, -⟩ := Prod.mk.inj (Except.ok.inj hread)
  exact ⟨rfl, List.append_cancel_left h⟩

/-! ## Values -/

def kind : Json → Nat
  | .null => 0
  | .bool _ => 1
  | .num _ => 3
  | .str _ => 4
  | .arr _ => 5
  | .obj _ => 6

def kindOf (c : Char) : Nat :=
  if c = 'n' then 0 else if c = 't' then 1 else if c = 'f' then 1 else if c = '"' then 4
  else if c = '[' then 5 else if c = '\x7b' then 6 else 3

theorem kindOf_number {c : Char} (h : c = '-' ∨ c.isDigit = true) : kindOf c = 3 ∧ ¬ Closing c := by
  have hr : 45 ≤ c.toNat ∧ c.toNat ≤ 57 := by
    rcases h with rfl | h
    · decide
    · have := Char.isDigit_iff_toNat.mp h
      simp only [show '0'.toNat = 48 from rfl, show '9'.toNat = 57 from rfl] at this
      omega
  have hne : ∀ d : Char, (d.toNat < 45 ∨ 57 < d.toNat) → c ≠ d := by
    rintro d hd rfl
    omega
  refine ⟨?_, ?_⟩
  · rw [kindOf, if_neg (hne _ (by decide)), if_neg (hne _ (by decide)), if_neg (hne _ (by decide)),
      if_neg (hne _ (by decide)), if_neg (hne _ (by decide)), if_neg (hne _ (by decide))]
  · rintro (rfl | rfl | rfl) <;> simp at hr

theorem write_head {a : Json} (ha : a.Finite) :
    ∃ c t, (write a).toList = c :: t ∧ kindOf c = kind a ∧ ¬ Closing c := by
  cases a with
  | null =>
    obtain ⟨t, ht⟩ : ∃ t, (write .null).toList = 'n' :: t := by simp [write]
    exact ⟨'n', t, ht, rfl, by simp [Closing]⟩
  | bool b =>
    cases b
    · obtain ⟨t, ht⟩ : ∃ t, (write (.bool false)).toList = 'f' :: t := by simp [write]
      exact ⟨'f', t, ht, rfl, by simp [Closing]⟩
    · obtain ⟨t, ht⟩ : ∃ t, (write (.bool true)).toList = 't' :: t := by simp [write]
      exact ⟨'t', t, ht, rfl, by simp [Closing]⟩
  | num n =>
    -- a number starts with a minus sign or a digit
    have hhead : ∃ c t, n.text.toList = c :: t ∧ (c = '-' ∨ c.isDigit = true) := by
      cases n with
      | nat k =>
        obtain ⟨c, t, hct, hc⟩ := toString_shape k
        exact ⟨c, t, hct, .inr hc⟩
      | neg k => exact ⟨'-', (toString k).toList, by simp [Number.text], .inl rfl⟩
      | float bits =>
        rw [Number.text_float ha]
        exact render_head bits
    obtain ⟨c, t, hct, hc⟩ := hhead
    exact ⟨c, t, hct, (kindOf_number hc).1, (kindOf_number hc).2⟩
  | str s =>
    obtain ⟨t, ht⟩ : ∃ t, (write (.str s)).toList = '"' :: t := by simp [write, quote]
    exact ⟨'"', t, ht, rfl, by simp [Closing]⟩
  | arr xs =>
    obtain ⟨t, ht⟩ : ∃ t, (write (.arr xs)).toList = '[' :: t := by simp [write]
    exact ⟨'[', t, ht, rfl, by simp [Closing]⟩
  | obj fs =>
    obtain ⟨t, ht⟩ : ∃ t, (write (.obj fs)).toList = '\x7b' :: t := by simp [write]
    exact ⟨'\x7b', t, ht, rfl, by simp [Closing]⟩

theorem kind_eq {a b : Json} (ha : a.Finite) (hb : b.Finite) {r r' : List Char}
    (h : (write a).toList ++ r = (write b).toList ++ r') : kind a = kind b := by
  obtain ⟨c, t, hct, hk, -⟩ := write_head ha
  obtain ⟨c', t', hct', hk', -⟩ := write_head hb
  rw [hct, hct'] at h
  rw [← hk, ← hk', (List.cons.inj h).1]

theorem writeItems_cons (x : Json) (xs : List Json) (r : List Char) :
    (writeItems (x :: xs)).toList ++ ']' :: r = (write x).toList ++
      (if xs = [] then ']' :: r else ',' :: ((writeItems xs).toList ++ ']' :: r)) := by
  cases xs <;> simp [writeItems]

theorem writeFields_cons (k : String) (v : Json) (fs : List (String × Json)) (r : List Char) :
    (writeFields ((k, v) :: fs)).toList ++ '\x7d' :: r = (quote k).toList ++ ':' ::
      ((write v).toList ++
        (if fs = [] then '\x7d' :: r else ',' :: ((writeFields fs).toList ++ '\x7d' :: r))) := by
  cases fs <;> simp [writeFields]

theorem ends_rest {α : Type} (xs : List α) (c : Char) (hc : Closing c) (r rest : List Char) :
    Ends (if xs = [] then c :: r else ',' :: rest) := by
  split_ifs
  · exact ends_cons r hc
  · exact ends_cons rest (.inl rfl)

theorem rest_inj {α : Type} {xs ys : List α} {c : Char} (hc : c ≠ ',') {r r' rest rest' : List Char}
    (h : (if xs = [] then c :: r else ',' :: rest) = (if ys = [] then c :: r' else ',' :: rest')) :
    (xs = [] ∧ ys = [] ∧ r = r') ∨ (xs ≠ [] ∧ ys ≠ [] ∧ rest = rest') := by
  by_cases hx : xs = [] <;> by_cases hy : ys = [] <;> simp only [hx, hy, if_true, if_false] at h
  · exact .inl ⟨hx, hy, (List.cons.inj h).2⟩
  · exact absurd (List.cons.inj h).1 hc
  · exact absurd (List.cons.inj h).1.symm hc
  · exact .inr ⟨hx, hy, (List.cons.inj h).2⟩

mutual
theorem write_append_inj : ∀ (a b : Json), a.Finite → b.Finite → ∀ {r r' : List Char}, Ends r →
    Ends r' → (write a).toList ++ r = (write b).toList ++ r' → a = b ∧ r = r'
  | .null, b, ha, hb, r, r', _, _, h => by
    have hk := kind_eq ha hb h
    cases b <;> simp [kind] at hk
    exact ⟨rfl, List.append_cancel_left h⟩
  | .bool x, b, ha, hb, r, r', _, _, h => by
    have hk := kind_eq ha hb h
    cases b <;> simp [kind] at hk
    rename_i y
    cases x <;> cases y <;> simp [write] at h ⊢ <;> exact h
  | .num n, b, ha, hb, r, r', hr, hr', h => by
    have hk := kind_eq ha hb h
    cases b <;> simp [kind] at hk
    rename_i n'
    obtain ⟨ht, rfl⟩ := append_inj_of_ends (fun c hc => not_closing (Number.text_chars ha c hc))
      (fun c hc => not_closing (Number.text_chars hb c hc)) hr hr' h
    exact ⟨congrArg Json.num (Number.text_inj ha hb (String.toList_inj.mp ht)), rfl⟩
  | .str s, b, ha, hb, r, r', _, _, h => by
    have hk := kind_eq ha hb h
    cases b <;> simp [kind] at hk
    obtain ⟨rfl, rfl⟩ := quote_append_inj h
    exact ⟨rfl, rfl⟩
  | .arr xs, b, ha, hb, r, r', _, _, h => by
    have hk := kind_eq ha hb h
    cases b <;> simp [kind] at hk
    rename_i ys
    simp only [write, String.toList_append, List.append_assoc] at h
    simp only [show "[".toList = ['['] from rfl, show "]".toList = [']'] from rfl,
      List.cons_append, List.cons.injEq, true_and] at h
    obtain ⟨rfl, rfl⟩ := writeItems_append_inj xs ys ha hb h
    exact ⟨rfl, rfl⟩
  | .obj fs, b, ha, hb, r, r', _, _, h => by
    have hk := kind_eq ha hb h
    cases b <;> simp [kind] at hk
    rename_i gs
    simp only [write, String.toList_append, List.append_assoc] at h
    simp only [show "\x7b".toList = ['\x7b'] from rfl, show "\x7d".toList = ['\x7d'] from rfl,
      List.cons_append, List.cons.injEq, true_and] at h
    obtain ⟨rfl, rfl⟩ := writeFields_append_inj fs gs ha hb h
    exact ⟨rfl, rfl⟩

theorem writeItems_append_inj : ∀ (xs ys : List Json), ItemsFinite xs → ItemsFinite ys →
    ∀ {r r' : List Char}, (writeItems xs).toList ++ ']' :: r = (writeItems ys).toList ++ ']' :: r' →
      xs = ys ∧ r = r'
  | [], [], _, _, r, r', h => ⟨rfl, (List.cons.inj h).2⟩
  | [], y :: ys, _, hys, r, r', h => by
    obtain ⟨c, t, hct, -, hc⟩ := write_head hys.1
    rw [writeItems_cons, hct] at h
    exact (hc (.inr (.inl (List.cons.inj h).1.symm))).elim
  | x :: xs, [], hxs, _, r, r', h => by
    obtain ⟨c, t, hct, -, hc⟩ := write_head hxs.1
    rw [writeItems_cons, hct] at h
    exact (hc (.inr (.inl (List.cons.inj h).1))).elim
  | x :: xs, y :: ys, hxs, hys, r, r', h => by
    rw [writeItems_cons, writeItems_cons] at h
    obtain ⟨rfl, hrest⟩ := write_append_inj x y hxs.1 hys.1
      (ends_rest xs ']' (.inr (.inl rfl)) r _) (ends_rest ys ']' (.inr (.inl rfl)) r' _) h
    rcases rest_inj (by decide) hrest with ⟨rfl, rfl, rfl⟩ | ⟨-, -, h'⟩
    · exact ⟨rfl, rfl⟩
    · obtain ⟨rfl, rfl⟩ := writeItems_append_inj xs ys hxs.2 hys.2 h'
      exact ⟨rfl, rfl⟩

theorem writeFields_append_inj : ∀ (fs gs : List (String × Json)), FieldsFinite fs →
    FieldsFinite gs → ∀ {r r' : List Char},
      (writeFields fs).toList ++ '\x7d' :: r = (writeFields gs).toList ++ '\x7d' :: r' →
      fs = gs ∧ r = r'
  | [], [], _, _, r, r', h => ⟨rfl, (List.cons.inj h).2⟩
  | [], (k, v) :: gs, _, _, r, r', h => by
    rw [writeFields_cons] at h
    simp [writeFields, quote] at h
  | (k, v) :: fs, [], _, _, r, r', h => by
    rw [writeFields_cons] at h
    simp [writeFields, quote] at h
  | (k, v) :: fs, (k', v') :: gs, hfs, hgs, r, r', h => by
    rw [writeFields_cons, writeFields_cons] at h
    obtain ⟨rfl, hkey⟩ := quote_append_inj h
    obtain ⟨rfl, hrest⟩ := write_append_inj v v' hfs.1 hgs.1
      (ends_rest fs '\x7d' (.inr (.inr rfl)) r _) (ends_rest gs '\x7d' (.inr (.inr rfl)) r' _)
      (List.cons.inj hkey).2
    rcases rest_inj (by decide) hrest with ⟨rfl, rfl, rfl⟩ | ⟨-, -, h'⟩
    · exact ⟨rfl, rfl⟩
    · obtain ⟨rfl, rfl⟩ := writeFields_append_inj fs gs hfs.2 hgs.2 h'
      exact ⟨rfl, rfl⟩
end

theorem write_inj {a b : Json} (ha : a.Finite) (hb : b.Finite) (h : write a = write b) : a = b := by
  have hnil : Ends [] := by simp [Ends]
  exact (write_append_inj a b ha hb hnil hnil (by rw [h])).1

end Relay.Json
