import Relay.Proofs.JsonText
/-!
# Written values read back

Reading takes back what writing produces: a value whose numbers read back from their text and
whose objects keep their keys in increasing order (`Json.WellFormed`) reads back from its
compact text, whatever may follow it in written JSON, when it nests less deep than the reader
allows (`readValue_bytes`, and `parse_bytes` for a whole input).

The proof follows the reader. Its three readers (a value, the items of an array, the entries of
an object) call one another with one unit of fuel less, so one induction on the fuel carries
all three (`reads_back`); the text of a value is at least as long as the fuel its reading
takes, which is how much fuel every reader is given.
-/
namespace Relay.Json

mutual
def depth : Json → Nat
  | .arr xs => itemsDepth xs + 1
  | .obj fs => fieldsDepth fs + 1
  | _ => 0

def itemsDepth : List Json → Nat
  | [] => 0
  | x :: xs => max x.depth (itemsDepth xs)

def fieldsDepth : List (String × Json) → Nat
  | [] => 0
  | (_, v) :: fs => max v.depth (fieldsDepth fs)
end

mutual
/-- A value the reader gives back from its text: every number reads back from its own
(`Number.Exact`), and every object has its keys in increasing order, as reading makes them. -/
def WellFormed : Json → Prop
  | .num n => n.Exact
  | .arr xs => ItemsWellFormed xs
  | .obj fs => (fs.map Prod.fst).Pairwise (· < ·) ∧ FieldsWellFormed fs
  | _ => True

def ItemsWellFormed : List Json → Prop
  | [] => True
  | x :: xs => x.WellFormed ∧ ItemsWellFormed xs

def FieldsWellFormed : List (String × Json) → Prop
  | [] => True
  | (_, v) :: fs => v.WellFormed ∧ FieldsWellFormed fs
end

/-! ## The text of a value -/

def itemsBytes (first : Bool) : List Json → List UInt8
  | [] => []
  | x :: xs => (if first then [] else [0x2C]) ++ bytes x ++ itemsBytes false xs

def entryBytes (k : String) (v : Json) : List UInt8 := Utf8.encode (quote k) ++ 0x3A :: bytes v

def entriesBytes (first : Bool) : List (String × Json) → List UInt8
  | [] => []
  | (k, v) :: fs => (if first then [] else [0x2C]) ++ entryBytes k v ++ entriesBytes false fs

theorem bytes_eq (v : Json) : bytes v = Utf8.encode (write v) := rfl

theorem encode_writeItems : ∀ xs : List Json, Utf8.encode (writeItems xs) = itemsBytes true xs
  | [] => by rw [encode_eq]; rfl
  | [x] => by simp [writeItems, itemsBytes, bytes_eq]
  | x :: y :: ys => by
    rw [writeItems, encode_append, encode_append, encode_writeItems (y :: ys), encode_comma]
    · simp [itemsBytes, bytes_eq]
    · exact List.cons_ne_nil y ys

theorem encode_writeFields :
    ∀ fs : List (String × Json), Utf8.encode (writeFields fs) = entriesBytes true fs
  | [] => by rw [encode_eq]; rfl
  | [(k, v)] => by simp [writeFields, entriesBytes, entryBytes, bytes_eq]
  | (k, v) :: f :: fs => by
    rw [writeFields, encode_append, encode_append, encode_append, encode_append,
      encode_writeFields (f :: fs), encode_comma, encode_colon]
    · obtain ⟨k', v'⟩ := f
      simp [entriesBytes, entryBytes, bytes_eq]
    · exact List.cons_ne_nil f fs

theorem bytes_arr (xs : List Json) : bytes (.arr xs) = 0x5B :: itemsBytes true xs ++ [0x5D] := by
  simp [bytes_eq, write, encode_writeItems]

theorem bytes_obj (fs : List (String × Json)) :
    bytes (.obj fs) = 0x7B :: entriesBytes true fs ++ [0x7D] := by
  simp [bytes_eq, write, encode_writeFields]

theorem bytes_null : bytes .null = [0x6E, 0x75, 0x6C, 0x6C] := encode_null

theorem bytes_false : bytes (.bool false) = [0x66, 0x61, 0x6C, 0x73, 0x65] := encode_false

theorem bytes_true : bytes (.bool true) = [0x74, 0x72, 0x75, 0x65] := encode_true

theorem bytes_str (s : String) : bytes (.str s) = 0x22 :: escaped s.toList ++ [0x22] :=
  encode_quote s

theorem bytes_head {v : Json} (hv : v.WellFormed) : ∃ b t, bytes v = b :: t ∧
    Text.isJsonBlank b = false ∧ b ≠ 0x5D ∧ b ≠ 0x7D ∧ (b = 0x6E → v = .null) := by
  cases v with
  | null =>
    exact ⟨0x6E, [0x75, 0x6C, 0x6C], bytes_null, by decide, by decide, by decide,
      fun _ => rfl⟩
  | bool b =>
    cases b
    · exact ⟨0x66, [0x61, 0x6C, 0x73, 0x65], bytes_false, by decide, by decide, by decide,
        fun h => absurd h (by decide)⟩
    · exact ⟨0x74, [0x72, 0x75, 0x65], bytes_true, by decide, by decide, by decide,
        fun h => absurd h (by decide)⟩
  | num n =>
    obtain ⟨b, t, he, hb⟩ := Number.Exact.head hv
    rcases hb with rfl | hd
    · exact ⟨0x2D, t, he, by decide, by decide, by decide, fun h => absurd h (by decide)⟩
    · obtain ⟨h1, h2, -, -, -, h6, h7⟩ := isDigit_facts hd
      exact ⟨b, t, he, h1, h6, h7, fun h => absurd h (by simpa using h2)⟩
  | str s =>
    exact ⟨0x22, _, bytes_str s, by decide, by decide, by decide, fun h => absurd h (by decide)⟩
  | arr xs =>
    exact ⟨0x5B, _, bytes_arr xs, by decide, by decide, by decide, fun h => absurd h (by decide)⟩
  | obj fs =>
    exact ⟨0x7B, _, bytes_obj fs, by decide, by decide, by decide, fun h => absurd h (by decide)⟩

theorem bytes_length_pos {v : Json} (hv : v.WellFormed) : 0 < (bytes v).length := by
  obtain ⟨b, t, he, -⟩ := bytes_head hv
  simp [he]

theorem closes_itemsBytes (xs : List Json) (rest : List UInt8) :
    Closes (itemsBytes false xs ++ 0x5D :: rest) := by
  cases xs with
  | nil => exact Closes.cons rest (.inr (.inl rfl))
  | cons x xs => exact Closes.cons _ (.inl rfl)

theorem closes_entriesBytes (fs : List (String × Json)) (rest : List UInt8) :
    Closes (entriesBytes false fs ++ 0x7D :: rest) := by
  cases fs with
  | nil => exact Closes.cons rest (.inr (.inr rfl))
  | cons f fs => exact Closes.cons _ (.inl rfl)

theorem insertField_of_lt {k : String} {v : Json} :
    ∀ {acc : List (String × Json)}, (∀ p ∈ acc, p.1 < k) → insertField k v acc = acc ++ [(k, v)]
  | [], _ => rfl
  | (k', v') :: acc, h => by
    have hk : k' < k := h _ List.mem_cons_self
    have hne : k ≠ k' := by
      intro e
      subst e
      exact String.lt_irrefl _ hk
    rw [insertField, if_neg (String.lt_asymm hk), if_neg hne,
      insertField_of_lt fun p hp => h p (List.mem_cons_of_mem _ hp)]
    rfl

/-! ## The reader, one step at a time -/

section Steps

variable (fuel depth : Nat)

theorem readValue_null (rest : List UInt8) :
    readValue (fuel + 1) depth (bytes .null ++ rest) = .ok (.null, rest) := by
  rw [bytes_null]
  simp [readValue, skipBlank, Text.isJsonBlank, expectWord, Except.map]

theorem readValue_bool (b : Bool) (rest : List UInt8) :
    readValue (fuel + 1) depth (bytes (.bool b) ++ rest) = .ok (.bool b, rest) := by
  cases b
  · rw [bytes_false]
    simp [readValue, skipBlank, Text.isJsonBlank, expectWord, Except.map]
  · rw [bytes_true]
    simp [readValue, skipBlank, Text.isJsonBlank, expectWord, Except.map]

theorem readValue_str (s : String) (rest : List UInt8) :
    readValue (fuel + 1) depth (bytes (.str s) ++ rest) = .ok (.str s, rest) := by
  simp only [bytes_str, List.cons_append, List.append_assoc]
  simp [readValue, skipBlank, Text.isJsonBlank, isDigit, readStr_escaped, Except.map]

theorem readValue_open_arr (r : List UInt8) :
    readValue (fuel + 1) depth (0x5B :: r) =
      if depth ≤ 1 then .error (ahead .recursionLimit (0x5B :: r))
      else readItems fuel (depth - 1) true [] r := by
  simp [readValue, skipBlank, Text.isJsonBlank, isDigit]

theorem readValue_open_obj (r : List UInt8) :
    readValue (fuel + 1) depth (0x7B :: r) =
      if depth ≤ 1 then .error (ahead .recursionLimit (0x7B :: r))
      else readEntries fuel (depth - 1) true [] r := by
  simp [readValue, skipBlank, Text.isJsonBlank, isDigit]

theorem readItems_close (first : Bool) (acc : List Json) (r : List UInt8) :
    readItems (fuel + 1) depth first acc (0x5D :: r) = .ok (.arr acc.reverse, r) := by
  simp [readItems, skipBlank, Text.isJsonBlank]

theorem readItems_item (first : Bool) (acc : List Json) {b : UInt8} {t r : List UInt8} {v : Json}
    (hb : Text.isJsonBlank b = false) (hc : b ≠ 0x5D)
    (hv : readValue fuel depth (b :: t) = .ok (v, r)) :
    readItems (fuel + 1) depth first acc ((if first then [] else [0x2C]) ++ b :: t) =
      readItems fuel depth false (v :: acc) r := by
  have hcomma : Text.isJsonBlank 0x2C = false := by decide
  cases first
  · simp [readItems, skipBlank, hcomma, hb, hc, hv]
  · simp [readItems, skipBlank, hb, hc, hv]

theorem readEntries_close (first : Bool) (acc : List (String × Json)) (r : List UInt8) :
    readEntries (fuel + 1) depth first acc (0x7D :: r) = .ok (.obj acc, r) := by
  simp [readEntries, skipBlank, Text.isJsonBlank]

theorem readEntries_entry (first : Bool) (acc : List (String × Json)) (k : String)
    {r r' : List UInt8} {v : Json} (hv : readValue fuel depth r = .ok (v, r')) :
    readEntries (fuel + 1) depth first acc
        ((if first then [] else [0x2C]) ++ Utf8.encode (quote k) ++ 0x3A :: r) =
      readEntries fuel depth false (insertField k v acc) r' := by
  rw [encode_quote]
  cases first
  · simp [readEntries, skipBlank, Text.isJsonBlank, readStr_escaped, readColon, hv]
  · simp [readEntries, skipBlank, Text.isJsonBlank, readStr_escaped, readColon, hv]

end Steps

/-! ## Reading back -/

theorem reads_back : ∀ fuel : Nat,
    (∀ (v : Json) (depth : Nat) (rest : List UInt8), v.WellFormed → v.depth < depth →
      (bytes v).length ≤ fuel → Closes rest →
      readValue fuel depth (bytes v ++ rest) = .ok (v, rest)) ∧
    (∀ (xs : List Json) (depth : Nat) (first : Bool) (acc : List Json) (rest : List UInt8),
      ItemsWellFormed xs → itemsDepth xs < depth → (itemsBytes first xs).length < fuel →
      readItems fuel depth first acc (itemsBytes first xs ++ 0x5D :: rest) =
        .ok (.arr (acc.reverse ++ xs), rest)) ∧
    (∀ (fs : List (String × Json)) (depth : Nat) (first : Bool) (acc : List (String × Json))
      (rest : List UInt8), FieldsWellFormed fs → fieldsDepth fs < depth →
      ((acc ++ fs).map Prod.fst).Pairwise (· < ·) → (entriesBytes first fs).length < fuel →
      readEntries fuel depth first acc (entriesBytes first fs ++ 0x7D :: rest) =
        .ok (.obj (acc ++ fs), rest))
  | 0 => by
    refine ⟨fun v _ _ hv _ hl _ => ?_, fun _ _ _ _ _ _ _ hl => absurd hl (Nat.not_lt_zero _),
      fun _ _ _ _ _ _ _ _ hl => absurd hl (Nat.not_lt_zero _)⟩
    have := bytes_length_pos hv
    omega
  | fuel + 1 => by
    obtain ⟨ihV, ihI, ihE⟩ := reads_back fuel
    refine ⟨?value, ?items, ?entries⟩
    case value =>
      intro v d rest hv hd hl hr
      cases v with
      | null => exact readValue_null fuel d rest
      | bool b => exact readValue_bool fuel d b rest
      | num n => exact readValue_num hv (Nat.succ_pos fuel) d hr
      | str s => exact readValue_str fuel d s rest
      | arr xs =>
        simp only [depth] at hd
        rw [bytes_arr] at hl ⊢
        simp only [List.length_cons, List.length_append] at hl
        simp only [List.cons_append, List.append_assoc, List.nil_append]
        rw [readValue_open_arr, if_neg (by omega),
          ihI xs (d - 1) true [] rest hv (by omega) (by omega)]
        rfl
      | obj fs =>
        simp only [depth] at hd
        rw [bytes_obj] at hl ⊢
        simp only [List.length_cons, List.length_append] at hl
        simp only [List.cons_append, List.append_assoc, List.nil_append]
        rw [readValue_open_obj, if_neg (by omega),
          ihE fs (d - 1) true [] rest hv.2 (by omega) hv.1 (by omega)]
        rfl
    case items =>
      intro xs d first acc rest hw hd hl
      cases xs with
      | nil =>
        rw [List.append_nil]
        exact readItems_close fuel d first acc rest
      | cons x xs =>
        obtain ⟨hx, hxs⟩ := hw
        simp only [itemsDepth] at hd
        simp only [itemsBytes, List.length_append] at hl
        obtain ⟨b, t, he, hb, hc, -⟩ := bytes_head hx
        have hsep : (if first then ([] : List UInt8) else [0x2C]).length ≤ 1 := by
          cases first <;> simp
        have hpos := bytes_length_pos hx
        -- the item reads back before the comma or bracket that follows it
        have hv := ihV x d (itemsBytes false xs ++ 0x5D :: rest) hx (by omega) (by omega)
          (closes_itemsBytes xs rest)
        rw [he, List.cons_append] at hv
        simp only [itemsBytes, List.append_assoc]
        rw [he, List.cons_append, readItems_item fuel d first acc hb hc hv,
          ihI xs d false (x :: acc) rest hxs (by omega) (by omega)]
        simp
    case entries =>
      intro fs d first acc rest hw hd hs hl
      cases fs with
      | nil =>
        rw [List.append_nil]
        exact readEntries_close fuel d first acc rest
      | cons f fs =>
        obtain ⟨k, v⟩ := f
        obtain ⟨hv, hfs⟩ := hw
        simp only [fieldsDepth] at hd
        simp only [entriesBytes, entryBytes, List.length_append, List.length_cons] at hl
        have hpos := bytes_length_pos hv
        -- the keys before this one are all smaller, so the entry goes in at the end
        have hlt : ∀ p ∈ acc, p.1 < k := by
          intro p hp
          rw [List.map_append] at hs
          exact (List.pairwise_append.mp hs).2.2 p.1 (List.mem_map_of_mem hp) k
            (List.mem_map_of_mem (f := Prod.fst) List.mem_cons_self)
        have hval := ihV v d (entriesBytes false fs ++ 0x7D :: rest) hv (by omega) (by omega)
          (closes_entriesBytes fs rest)
        simp only [entriesBytes, entryBytes, List.append_assoc, List.cons_append]
        rw [← List.append_assoc, readEntries_entry fuel d first acc k hval,
          insertField_of_lt hlt, ihE fs d false (acc ++ [(k, v)]) rest hfs (by omega)
            (by rwa [List.append_assoc, List.singleton_append]) (by omega)]
        simp

theorem readValue_bytes {v : Json} (hv : v.WellFormed) {depth : Nat} (hd : v.depth < depth)
    {fuel : Nat} (hf : (bytes v).length ≤ fuel) {rest : List UInt8} (hr : Closes rest) :
    readValue fuel depth (bytes v ++ rest) = .ok (v, rest) :=
  (reads_back fuel).1 v depth rest hv hd hf hr

theorem readAt_bytes {v : Json} (hv : v.WellFormed) {depth : Nat} (hd : v.depth < depth)
    {rest : List UInt8} (hr : Closes rest) : readAt depth (bytes v ++ rest) = .ok (v, rest) :=
  readValue_bytes hv hd (by simp [fuelFor]; omega) hr

theorem parse_bytes {v : Json} (hv : v.WellFormed) (hd : v.depth < maxDepth) :
    parse (bytes v) = .ok v := by
  have h := readAt_bytes hv hd Closes.nil
  rw [List.append_nil] at h
  simp [parse, h, expectEnd, skipBlank, Except.map]

end Relay.Json
