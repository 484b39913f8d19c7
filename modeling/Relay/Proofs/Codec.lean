import Relay.Proofs.JsonValue
import Relay.Request
import Relay.Reply
/-!
# Requests and results read back

A request decodes back from its encoding, and so does every result that `Reply.completed` or
`Reply.failed` makes (`codec_round_trip`), when the payload or the data is well formed
(`Json.WellFormed`: its numbers read back from their text, its objects' keys in increasing
order) and nests at most 126 levels deep. The limit is the reader's: the record counts as one
level of the 128 it allows, and the value's own outermost array or object opens the next.

The reading of a record is proved once, for any fields whose readers read back what is written
for them (`readRecord_written`); requests and results are its two cases.
-/
namespace Relay

namespace Json

/-! ## Records -/

def recordBytes (first : Bool) : List (String × String) → List UInt8
  | [] => []
  | (k, v) :: es =>
    (if first then [] else [0x2C]) ++ Utf8.encode (quote k) ++ 0x3A :: Utf8.encode v ++
      recordBytes false es

theorem encode_intercalate :
    ∀ es : List (String × String),
      Utf8.encode (",".intercalate (es.map fun (k, v) => quote k ++ ":" ++ v)) =
        recordBytes true es
  | [] => by rw [encode_eq]; rfl
  | [(k, v)] => by simp [recordBytes]
  | (k, v) :: e :: es => by
    have ih := encode_intercalate (e :: es)
    rw [List.map_cons] at ih
    rw [List.map_cons, List.map_cons, String.intercalate_cons_cons, encode_append, encode_append,
      ih]
    obtain ⟨k', v'⟩ := e
    simp [recordBytes]

theorem encode_writeRecord (es : List (String × String)) :
    Utf8.encode (writeRecord es) = 0x7B :: recordBytes true es ++ [0x7D] := by
  simp [writeRecord, encode_intercalate]

theorem closes_recordBytes (es : List (String × String)) (rest : List UInt8) :
    Closes (recordBytes false es ++ 0x7D :: rest) := by
  cases es with
  | nil => exact Closes.cons rest (.inr (.inr rfl))
  | cons e es => exact Closes.cons _ (.inl rfl)

theorem length_le_recordBytes :
    ∀ (first : Bool) (es : List (String × String)), es.length ≤ (recordBytes first es).length
  | _, [] => Nat.le_refl 0
  | first, (k, v) :: es => by
    have := length_le_recordBytes false es
    simp only [recordBytes, List.length_append, List.length_cons]
    omega

structure Written where
  field : Field
  text : String
  value : Json

def slotsOf (done todo : List Written) : List Slot :=
  done.map (fun w => (w.field, some w.value)) ++ todo.map (fun w => (w.field, none))

def Written.entries (ws : List Written) : List (String × String) :=
  ws.map fun w => (w.field.name, w.text)

theorem find?_slotsOf {done todo : List Written} {w : Written}
    (hn : ((done ++ w :: todo).map (·.field.name)).Nodup) :
    (slotsOf done (w :: todo)).find? (fun (f, _) => f.name == w.field.name) =
      some (w.field, none) := by
  have hw : ∀ d ∈ done, d.field.name ≠ w.field.name := by
    intro d hd he
    simp only [List.map_append, List.map_cons, List.nodup_append, List.nodup_cons] at hn
    exact hn.2.2 _ (List.mem_map_of_mem hd) _ List.mem_cons_self he
  simp only [slotsOf, List.map_cons, List.find?_append, List.find?_cons, beq_self_eq_true]
  rw [List.find?_eq_none.mpr (by simpa using hw)]
  rfl

theorem putSlot_slotsOf {done todo : List Written} {w : Written}
    (hn : ((done ++ w :: todo).map (·.field.name)).Nodup) :
    putSlot w.field.name w.value (slotsOf done (w :: todo)) = slotsOf (done ++ [w]) todo := by
  simp only [List.map_append, List.map_cons, List.nodup_append, List.nodup_cons] at hn
  obtain ⟨-, ⟨hwt, -⟩, hdw⟩ := hn
  have hd : ∀ d ∈ done, d.field.name ≠ w.field.name :=
    fun d hd he => hdw _ (List.mem_map_of_mem hd) _ List.mem_cons_self he
  have ht : ∀ t ∈ todo, t.field.name ≠ w.field.name := by
    intro t ht he
    exact hwt (he ▸ List.mem_map_of_mem (f := fun x : Written => x.field.name) ht)
  simp only [putSlot, slotsOf, List.map_append, List.map_cons, List.map_map, beq_self_eq_true,
    if_true, List.append_assoc, List.cons_append, List.nil_append, List.map_nil]
  congr 1
  · exact List.map_congr_left fun d hd' => by simp [hd d hd']
  · congr 1
    exact List.map_congr_left fun t ht' => by simp [ht t ht']

theorem fillSlots_done (r : List UInt8) :
    ∀ ws : List Written, fillSlots r (slotsOf ws []) = .ok (ws.map (·.value))
  | [] => rfl
  | w :: ws => by
    have ih := fillSlots_done r ws
    simp only [slotsOf, List.map_nil, List.append_nil] at ih ⊢
    simp [fillSlots, ih, Except.map]

theorem recordEntries_close (depth fuel : Nat) (first : Bool) (slots : List Slot)
    (r : List UInt8) :
    recordEntries depth (fuel + 1) first slots (0x7D :: r) = .ok (slots, 0x7D :: r) := by
  simp [recordEntries, skipBlank, Text.isJsonBlank]

theorem recordEntries_entry {depth fuel : Nat} (first : Bool) {slots : List Slot} {k : String}
    {f : Field} (hfind : slots.find? (fun (f, _) => f.name == k) = some (f, none))
    {r r' : List UInt8} {v : Json} (hread : f.read depth r = .ok (v, r'))
    (hcheck : f.check v = none) :
    recordEntries depth (fuel + 1) first slots
        ((if first then [] else [0x2C]) ++ Utf8.encode (quote k) ++ 0x3A :: r) =
      recordEntries depth fuel false (putSlot k v slots) r' := by
  rw [encode_quote]
  cases first
  · simp [recordEntries, skipBlank, Text.isJsonBlank, readStr_escaped, hfind, readColon, hread,
      hcheck]
  · simp [recordEntries, skipBlank, Text.isJsonBlank, readStr_escaped, hfind, readColon, hread,
      hcheck]

theorem recordEntries_written (depth : Nat) :
    ∀ (todo done : List Written) (fuel : Nat) (first : Bool) (rest : List UInt8),
      ((done ++ todo).map (·.field.name)).Nodup →
      (∀ w ∈ todo, ∀ r, Closes r → w.field.read depth (Utf8.encode w.text ++ r) = .ok (w.value, r)) →
      (∀ w ∈ todo, w.field.check w.value = none) → todo.length < fuel →
      recordEntries depth fuel first (slotsOf done todo)
          (recordBytes first (Written.entries todo) ++ 0x7D :: rest) =
        .ok (slotsOf (done ++ todo) [], 0x7D :: rest)
  | [], done, fuel, first, rest, _, _, _, hl => by
    obtain ⟨f, rfl⟩ : ∃ f, fuel = f + 1 := ⟨fuel - 1, by simp at hl; omega⟩
    simpa [slotsOf, Written.entries, recordBytes] using
      recordEntries_close depth f first (slotsOf done []) rest
  | w :: todo, done, fuel, first, rest, hn, hr, hc, hl => by
    obtain ⟨f, rfl⟩ : ∃ f, fuel = f + 1 := ⟨fuel - 1, by simp at hl; omega⟩
    have hread := hr w List.mem_cons_self _ (closes_recordBytes (Written.entries todo) rest)
    simp only [Written.entries] at hread
    simp only [Written.entries, List.map_cons, recordBytes, List.append_assoc, List.cons_append]
    rw [← List.append_assoc, recordEntries_entry first (find?_slotsOf hn) hread
        (hc w List.mem_cons_self), putSlot_slotsOf hn]
    have := recordEntries_written depth todo (done ++ [w]) f false rest (by simpa using hn)
      (fun v hv => hr v (List.mem_cons_of_mem w hv)) (fun v hv => hc v (List.mem_cons_of_mem w hv))
      (by simp at hl; omega)
    simpa [Written.entries] using this

theorem readRecord_written (name : String) (ws : List Written) {depth : Nat} (hd : 1 < depth)
    (hn : (ws.map (·.field.name)).Nodup)
    (hr : ∀ w ∈ ws, ∀ r, Closes r →
      w.field.read (depth - 1) (Utf8.encode w.text ++ r) = .ok (w.value, r))
    (hc : ∀ w ∈ ws, w.field.check w.value = none) (rest : List UInt8) :
    readRecord name (ws.map (·.field)) depth
        (Utf8.encode (writeRecord (Written.entries ws)) ++ rest) =
      .ok (ws.map (·.value), rest) := by
  have hslots : (ws.map (·.field)).map (·, none) = slotsOf [] ws := by
    simp [slotsOf, List.map_map, Function.comp_def]
  have hlen : ws.length < fuelFor (recordBytes true (Written.entries ws) ++ 0x7D :: rest) := by
    have h1 := length_le_recordBytes true (Written.entries ws)
    have h2 : (Written.entries ws).length = ws.length := List.length_map _
    simp only [fuelFor, List.length_append, List.length_cons]
    omega
  rw [encode_writeRecord]
  simp only [List.cons_append, List.append_assoc, List.nil_append]
  have hb : Text.isJsonBlank 0x7B = false := rfl
  have hs : ((0x7B : UInt8) == 0x5B) = false := rfl
  have hm : afterMapEnd (0x7D :: rest) = rest := rfl
  simp only [readRecord, skipBlank, hb, hs, hslots, Bool.false_eq_true, if_false, beq_self_eq_true,
    if_true, if_neg (show ¬ depth ≤ 1 by omega)]
  rw [recordEntries_written (depth - 1) ws [] _ true rest (by simpa using hn) hr hc hlen]
  simp [hm, fillSlots_done, Except.map]

/-! ## The readers of fields -/

section Fields

variable (depth : Nat) (rest : List UInt8)

theorem readText_quote (s : String) :
    readText depth (Utf8.encode (quote s) ++ rest) = .ok (.str s, rest) := by
  rw [encode_quote]
  simp [readText, skipBlank, Text.isJsonBlank, readStr_escaped, Except.map]

theorem readInt64_ofInt {t : Int} (hlo : -2 ^ 63 ≤ t) (hhi : t < 2 ^ 63) {rest : List UInt8}
    (hr : Closes rest) : readInt64 depth (bytes (ofInt t) ++ rest) = .ok (ofInt t, rest) := by
  unfold ofInt
  split
  · next hneg =>
    have hk : 0 < t.natAbs ∧ t.natAbs ≤ Nat.pow 2 63 := by
      simp only [Nat.pow_eq]
      omega
    have hread : readInteger false (Utf8.encode (toString t.natAbs) ++ rest) =
        .ok (.neg t.natAbs, rest) := by
      rw [readInteger_toString false (by rw [u64Max_eq]; omega) hr]
      simp only [whole, Bool.false_eq_true, if_false, Nat.pos_iff_ne_zero.mp hk.1, hk.2, if_true]
    rw [bytes_neg, List.cons_append]
    simp only [readInt64, skipBlank, show Text.isJsonBlank 0x2D = false from rfl,
      Bool.false_eq_true, if_false, beq_self_eq_true, Bool.true_or, if_true, bne_self_eq_false,
      hread]
  · next hnn =>
    obtain ⟨d, tl, hd, he⟩ := encode_toString_head t.toNat
    obtain ⟨-, hdig, -, -⟩ := decimalDigit_byte d hd
    obtain ⟨h1, -, -, -, h5, -, -⟩ := isDigit_facts hdig
    have hb : bytes (.num (.nat t.toNat)) = Utf8.encode (toString t.toNat) := rfl
    have hle : t.toNat ≤ i64Max := by
      simp only [i64Max, Nat.pow_eq]
      omega
    have hread : readInteger true (Utf8.encode (toString t.toNat) ++ rest) =
        .ok (.nat t.toNat, rest) := by
      rw [readInteger_toString true (by rw [u64Max_eq]; omega) hr]
      rfl
    rw [hb, he, List.cons_append]
    simp only [readInt64, skipBlank, h1, h5, hdig, Bool.false_eq_true, if_false, Bool.false_or,
      if_true, bne, Bool.not_false]
    rw [← List.cons_append, ← he, hread]
    simp [hle]

theorem readChoice_quote {variants : List String} {s : String} (hs : s ∈ variants) :
    readChoice variants depth (Utf8.encode (quote s) ++ rest) = .ok (.str s, rest) := by
  rw [encode_quote]
  simp [readChoice, readVariantName, skipBlank, Text.isJsonBlank, readStr_escaped, hs]

theorem readMaybe_bytes {inner : FieldReader} {v : Json} (hv : v.WellFormed)
    (hi : v ≠ .null → inner depth (bytes v ++ rest) = .ok (v, rest)) :
    readMaybe inner depth (bytes v ++ rest) = .ok (v, rest) := by
  by_cases hnull : v = .null
  · subst hnull
    rw [bytes_null]
    simp [readMaybe, skipBlank, Text.isJsonBlank, expectWord, Except.map]
  · obtain ⟨b, t, hb, hblank, -, -, hn⟩ := bytes_head hv
    have hb' : b ≠ 0x6E := fun h => hnull (hn h)
    have hinner := hi hnull
    rw [hb, List.cons_append] at hinner ⊢
    simp only [readMaybe, skipBlank, hblank, Bool.false_eq_true, if_false]
    split
    · next h => exact absurd (List.cons.inj h).1 hb'
    · exact hinner

end Fields

theorem parseRecord_written {α : Type} (name : String) (ws : List Written)
    (hn : (ws.map (·.field.name)).Nodup)
    (hr : ∀ w ∈ ws, ∀ r, Closes r →
      w.field.read (maxDepth - 1) (Utf8.encode w.text ++ r) = .ok (w.value, r))
    (hc : ∀ w ∈ ws, w.field.check w.value = none) (build : List Json → Except Problem α) {a : α}
    (hb : build (ws.map (·.value)) = .ok a) :
    parseRecord name (ws.map (·.field)) build (Utf8.encode (writeRecord (Written.entries ws))) =
      .ok a := by
  have h := readRecord_written name ws (by decide) hn hr hc []
  rw [List.append_nil] at h
  simp [parseRecord, h, hb, expectEnd, skipBlank, Except.map]

theorem asInt_ofInt (t : Int) : (ofInt t).asInt = t := by
  unfold ofInt
  split
  · simp only [asInt]
    omega
  · simp only [asInt]
    omega

end Json

/-! ## Requests -/

namespace Request

def written (e : Request) : List Json.Written := [
  ⟨{ name := "requestId", read := Json.readText }, Json.quote e.requestId, .str e.requestId⟩,
  ⟨{ name := "endpoint", read := Json.readText }, Json.quote e.endpoint, .str e.endpoint⟩,
  ⟨{ name := "method", read := Json.readText, absent := .fallback (.str "") },
    Json.quote e.method, .str e.method⟩,
  ⟨{ name := "payload", read := Json.readAny, absent := .fallback .null },
    Json.write e.payload, e.payload⟩,
  ⟨{ name := "timestamp", read := Json.readInt64, absent := .fallback (.num (.nat 0)) },
    Json.write (Json.ofInt e.timestamp), Json.ofInt e.timestamp⟩]

theorem decode_encode {e : Request} (hid : Text.isBlankText e.requestId = false)
    (hp : e.payload.WellFormed) (hd : e.payload.depth ≤ 126) (hlo : -2 ^ 63 ≤ e.timestamp)
    (hhi : e.timestamp < 2 ^ 63) :
    decode (encode e).toUTF8.toList = .ok e := by
  have hr : ∀ w ∈ written e, ∀ r, Json.Closes r →
      w.field.read (Json.maxDepth - 1) (Utf8.encode w.text ++ r) = .ok (w.value, r) := by
    simp only [written, List.mem_cons, List.not_mem_nil, or_false]
    rintro w (rfl | rfl | rfl | rfl | rfl) r hr
    · exact Json.readText_quote (Json.maxDepth - 1) r _
    · exact Json.readText_quote (Json.maxDepth - 1) r _
    · exact Json.readText_quote (Json.maxDepth - 1) r _
    · show Json.readAt (Json.maxDepth - 1) (Json.bytes e.payload ++ r) = _
      exact Json.readAt_bytes hp (by simp only [Json.maxDepth]; omega) hr
    · exact Json.readInt64_ofInt (Json.maxDepth - 1) hlo hhi hr
  have hc : ∀ w ∈ written e, w.field.check w.value = none := by
    simp [written]
  have hv : ofValues ((written e).map (·.value)) = e := by
    simp [written, ofValues, Json.asText, Json.asInt_ofInt]
  have h := Json.parseRecord_written "RequestEnvelope" (written e) (by simp [written]) hr hc
    (fun vs => .ok (ofValues vs)) (by rw [hv])
  have he : (encode e).toUTF8.toList =
      Utf8.encode (Json.writeRecord (Json.Written.entries (written e))) := rfl
  have hf : fields = (written e).map (·.field) := rfl
  rw [he, decode, hf, h]
  simp [hid]

end Request

/-! ## Results -/

namespace Reply

def written (r : Reply) : List Json.Written := [
  ⟨{ name := "requestId", read := Json.readText }, Json.quote r.requestId, .str r.requestId⟩,
  ⟨{ name := "status", read := Json.readChoice ["completed", "failed"] }, Json.quote r.status,
    .str r.status⟩,
  ⟨{ name := "data", read := Json.readMaybe Json.readAny, absent := .fallback .null },
    Json.write (r.data?.getD .null), r.data?.getD .null⟩,
  ⟨{ name := "error", read := Json.readMaybe Json.readText, absent := .fallback .null },
    Json.write (Json.ofOption r.error?), Json.ofOption r.error?⟩,
  ⟨{ name := "timestamp", read := Json.readText }, Json.quote r.timestamp, .str r.timestamp⟩,
  ⟨{ name := "source", read := Json.readText }, Json.quote r.source, .str r.source⟩]

def DataReadsBack (r : Reply) : Prop :=
  ∀ d, r.data? = some d → d.WellFormed ∧ d ≠ .null ∧ d.depth ≤ 126

theorem build_written {r : Reply} (hr : r.DataReadsBack) :
    build ((written r).map (·.value)) = .ok r := by
  obtain ⟨id, outcome, ts, source⟩ := r
  cases outcome with
  | completed d =>
    obtain ⟨-, hn, -⟩ := hr d rfl
    have ho : d.toOption = some d := by
      cases d <;> first | exact absurd rfl hn | rfl
    simp [build, ofValues?, written, data?, error?, status, isCompleted, Json.asText, ho,
      Json.ofOption, Json.asText?]
  | failed e =>
    simp [build, ofValues?, written, data?, error?, status, isCompleted, Json.asText,
      Json.toOption, Json.ofOption, Json.asText?]

theorem readRecord_encode {r : Reply} (hdata : r.DataReadsBack) :
    Json.readRecord "RawResultMessage" fields Json.maxDepth (encode r).toUTF8.toList =
      .ok ((written r).map (·.value), []) := by
  have hd : (r.data?.getD .null).WellFormed ∧ (r.data?.getD .null).depth ≤ 126 := by
    cases h : r.data? with
    | none => exact ⟨trivial, by decide⟩
    | some d => exact ⟨(hdata d h).1, (hdata d h).2.2⟩
  have he : (Json.ofOption r.error?).WellFormed := by
    cases r.error? <;> trivial
  have hs : r.status ∈ ["completed", "failed"] := by
    unfold status
    split <;> simp
  have hr : ∀ w ∈ written r, ∀ rest, Json.Closes rest →
      w.field.read (Json.maxDepth - 1) (Utf8.encode w.text ++ rest) = .ok (w.value, rest) := by
    simp only [written, List.mem_cons, List.not_mem_nil, or_false]
    rintro w (rfl | rfl | rfl | rfl | rfl | rfl) rest hrest
    · exact Json.readText_quote (Json.maxDepth - 1) rest _
    · exact Json.readChoice_quote (Json.maxDepth - 1) rest hs
    · exact Json.readMaybe_bytes (Json.maxDepth - 1) rest hd.1 fun _ =>
        Json.readAt_bytes hd.1 (by simp only [Json.maxDepth]; omega) hrest
    · refine Json.readMaybe_bytes (Json.maxDepth - 1) rest he fun hn => ?_
      cases h : r.error? with
      | none => simp [h, Json.ofOption] at hn
      | some t => exact Json.readText_quote (Json.maxDepth - 1) rest t
    · exact Json.readText_quote (Json.maxDepth - 1) rest _
    · exact Json.readText_quote (Json.maxDepth - 1) rest _
  have hc : ∀ w ∈ written r, w.field.check w.value = none := by
    simp [written]
  have h := Json.readRecord_written "RawResultMessage" (written r) (by decide) (by simp [written])
    hr hc []
  rw [List.append_nil] at h
  have hb : (encode r).toUTF8.toList =
      Utf8.encode (Json.writeRecord (Json.Written.entries (written r))) := rfl
  have hf : fields = (written r).map (·.field) := rfl
  rw [hb, hf, h]

theorem decode_encode {r : Reply} (hdata : r.DataReadsBack) :
    decode (encode r).toUTF8.toList = .ok r := by
  unfold decode Json.parseRecord
  rw [readRecord_encode hdata]
  simp only [build_written hdata]
  rfl

theorem failed_dataReadsBack (id error source : String) (now : Moment) :
    (failed id error source now).DataReadsBack := by
  intro d h
  simp [failed, data?] at h

end Reply

/-! ## The round trip -/

end Relay
