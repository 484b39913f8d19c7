import Relay.Proofs.Codec
/-!
# Status exclusivity of results

A completed result carries data that is not `null` and no error, and a failed one carries no
data and an error whose trimmed text is not empty (`Reply.Exclusive`). The two constructors
make only such results: `null` data is reported as `true`, a blank reason as `unknown error`.

Decoding reads the six fields of a result first and then checks that data and error are
present as the status asks; `null` counts as absent. That check is the whole of exclusivity
but for one part: the decoder asks only that a failure's error be present, so a failure whose
error is blank is read as it stands (`Reply.decode_admits_blank_error`). For texts whose error
field, if it holds a text, does not trim to nothing, the decoder accepts exactly the records
whose fields agree with their status (`Reply.ofValues?_isSome_iff`).
-/
namespace Relay

theorem Text.trim_eq_empty_iff (s : String) : Text.trim s = "" ↔ Text.isBlankText s = true := by
  have hofList : ∀ l : List Char, String.ofList l = "" ↔ l = [] := fun l => by
    rw [← String.toList_inj, String.toList_ofList, String.toList_empty]
  -- what is left after the blanks in front is blank throughout only when nothing is left
  have hleft := List.any_dropWhile (p := Text.isBlank) (l := s.toList)
  rw [Text.trim, hofList, List.reverse_eq_nil_iff, List.dropWhile_eq_nil_iff, Text.isBlankText]
  simp only [List.mem_reverse]
  cases hall : s.toList.all Text.isBlank
  · simp only [hall, Bool.not_false, List.any_eq_true, Bool.not_eq_true'] at hleft
    obtain ⟨c, hc, hb⟩ := hleft
    simp only [Bool.false_eq_true, iff_false, not_forall]
    exact ⟨c, hc, by simp [hb]⟩
  · simp only [iff_true]
    intro c hc
    exact List.all_eq_true.mp hall c (List.dropWhile_subset _ hc)

namespace Reply

def Exclusive (r : Reply) : Prop :=
  (r.status = "completed" → ∃ v, r.data? = some v ∧ v ≠ .null ∧ r.error? = none) ∧
  (r.status = "failed" → r.data? = none ∧ ∃ e, r.error? = some e ∧ Text.trim e ≠ "")

theorem exclusive_iff (r : Reply) :
    r.Exclusive ↔ match r.outcome with
      | .completed d => d ≠ .null
      | .failed e => Text.isBlankText e = false := by
  obtain ⟨id, outcome, t, src⟩ := r
  cases outcome with
  | completed d => simp [Exclusive, status, isCompleted, data?, error?]
  | failed e => simp [Exclusive, status, isCompleted, data?, error?, Text.trim_eq_empty_iff]

theorem completed_exclusive (id : String) (data : Json) (source : String) (now : Moment) :
    (completed id data source now).Exclusive := by
  rw [exclusive_iff]
  cases data <;> simp [completed, Json.isNull]

theorem failed_exclusive (id error source : String) (now : Moment) :
    (failed id error source now).Exclusive := by
  rw [exclusive_iff]
  by_cases h : Text.isBlankText error = true
  · simp only [failed, h, if_true]
    decide
  · simp [failed, h]

/-- The fields read from a result's text agree with its status: `completed` with data other
than `null` and no error text, `failed` with no data and an error text that does not trim to
nothing. -/
def Agrees (vs : List Json) : Prop :=
  match (vs.getD 1 .null).asText with
  | "completed" => vs.getD 2 .null ≠ .null ∧ (vs.getD 3 .null).asText? = none
  | "failed" => vs.getD 2 .null = .null ∧
    ∃ e, (vs.getD 3 .null).asText? = some e ∧ Text.trim e ≠ ""
  | _ => False

theorem ofValues?_eq_some {vs : List Json} {r : Reply} (h : ofValues? vs = some r) :
    r.requestId = (vs.getD 0 .null).asText ∧
    ((vs.getD 1 .null).asText = "completed" ∧ (vs.getD 3 .null).asText? = none ∧
        (∃ d, (vs.getD 2 .null).toOption = some d ∧ r.outcome = .completed d) ∨
      (vs.getD 1 .null).asText = "failed" ∧ (vs.getD 2 .null).toOption = none ∧
        ∃ e, (vs.getD 3 .null).asText? = some e ∧ r.outcome = .failed e) := by
  unfold ofValues? at h
  split at h
  · rename_i d hs hd he
    cases h
    exact ⟨rfl, .inl ⟨hs, he, d, hd, rfl⟩⟩
  · rename_i e hs hd he
    cases h
    exact ⟨rfl, .inr ⟨hs, hd, e, he, rfl⟩⟩
  · cases h

theorem toOption_eq_none {v : Json} : v.toOption = none ↔ v = .null := by
  cases v <;> simp [Json.toOption]

theorem toOption_eq_some {v d : Json} (h : v.toOption = some d) : d = v ∧ v ≠ .null := by
  unfold Json.toOption at h
  split at h
  · cases h
  · rename_i hv
    exact ⟨(Option.some.inj h).symm, hv⟩

-- the decoder's check is exclusivity in full but for a blank error
theorem ofValues?_isSome_iff {vs : List Json}
    (hb : ∀ e, (vs.getD 3 .null).asText? = some e → Text.trim e ≠ "") :
    (ofValues? vs).isSome ↔ Agrees vs := by
  constructor
  · intro h
    obtain ⟨r, hr⟩ := Option.isSome_iff_exists.mp h
    obtain ⟨-, ⟨hs, he, d, hd, -⟩ | ⟨hs, hd, e, he, -⟩⟩ := ofValues?_eq_some hr
    · simp only [Agrees, hs]
      exact ⟨(toOption_eq_some hd).2, he⟩
    · simp only [Agrees, hs]
      exact ⟨toOption_eq_none.mp hd, e, he, hb e he⟩
  · intro h
    unfold Agrees at h
    split at h
    · rename_i hs
      obtain ⟨hd, he⟩ := h
      obtain ⟨d, hd'⟩ := Option.ne_none_iff_exists'.mp (mt toOption_eq_none.mp hd)
      rw [ofValues?, hs, hd', he]
      rfl
    · rename_i hs
      obtain ⟨hd, e, he, -⟩ := h
      rw [ofValues?, hs, toOption_eq_none.mpr hd, he]
      rfl
    · exact h.elim

theorem build_eq_ok {vs : List Json} {r : Reply} : build vs = .ok r ↔ ofValues? vs = some r := by
  unfold build
  split <;> simp_all

theorem mapError_eq_ok {ε ε' α : Type} {x : Except ε α} {f : ε → ε'} {a : α} :
    x.mapError f = .ok a ↔ x = .ok a := by
  cases x <;> simp [Except.mapError]

theorem decode_eq_ok {bytes : List UInt8} {r : Reply} (h : decode bytes = .ok r) :
    ∃ vs rest, Json.readRecord "RawResultMessage" fields Json.maxDepth bytes = .ok (vs, rest) ∧
      ofValues? vs = some r := by
  unfold decode Json.parseRecord at h
  rw [mapError_eq_ok] at h
  split at h
  · cases h
  · rename_i vs rest hraw
    refine ⟨vs, rest, hraw, ?_⟩
    split at h
    · cases h
    · rename_i r' hb
      -- the end of the text is checked after the fields make a result
      cases hend : Json.expectEnd rest <;> rw [hend] at h <;> cases h
      exact build_eq_ok.mp hb

theorem decode_refuses {bytes : List UInt8} {vs : List Json} {rest : List UInt8}
    (hraw : Json.readRecord "RawResultMessage" fields Json.maxDepth bytes = .ok (vs, rest))
    (hv : ofValues? vs = none) :
    decode bytes = .error (.decode ("result " ++ (vs.getD 0 .null).asText ++
      " violates status exclusivity")) := by
  unfold decode Json.parseRecord
  rw [hraw]
  simp only [build, hv]
  rfl

theorem ofValues?_exclusive {vs : List Json} {r : Reply}
    (hb : ∀ e, (vs.getD 3 .null).asText? = some e → Text.trim e ≠ "") (h : ofValues? vs = some r) :
    r.Exclusive := by
  rw [exclusive_iff]
  obtain ⟨-, ⟨-, -, d, hd, ho⟩ | ⟨-, -, e, he, ho⟩⟩ := ofValues?_eq_some h
  · rw [ho]
    obtain ⟨rfl, hn⟩ := toOption_eq_some hd
    exact hn
  · rw [ho]
    simpa [Text.trim_eq_empty_iff] using hb e he

/-- Every result made by `completed` or `failed` is exclusive, and so is every result decoded
from a text whose error field holds no text that trims to nothing; a text whose status, data and
error disagree is refused. -/
theorem results_keep_status_exclusive (id source error : String) (data : Json) (now : Moment)
    (bytes : List UInt8) (vs : List Json) (rest : List UInt8)
    (hraw : Json.readRecord "RawResultMessage" fields Json.maxDepth bytes = .ok (vs, rest))
    (hb : ∀ e, (vs.getD 3 .null).asText? = some e → Text.trim e ≠ "") :
    (completed id data source now).Exclusive ∧ (failed id error source now).Exclusive ∧
    (∀ r, decode bytes = .ok r → r.Exclusive) ∧
    (¬ Agrees vs → decode bytes = .error (.decode ("result " ++ (vs.getD 0 .null).asText ++
      " violates status exclusivity"))) := by
  refine ⟨completed_exclusive id data source now, failed_exclusive id error source now,
    fun r hr => ?_, fun hn => decode_refuses hraw ?_⟩
  · obtain ⟨vs', rest', hraw', hv⟩ := decode_eq_ok hr
    rw [hraw] at hraw'
    cases hraw'
    exact ofValues?_exclusive hb hv
  · exact Option.not_isSome_iff_eq_none.mp (mt (ofValues?_isSome_iff hb).mp hn)

theorem results_keep_status_exclusive_boom :
    Json.readRecord "RawResultMessage" fields Json.maxDepth
        (encode (failed "r" "boom" "s" ⟨0⟩)).toUTF8.toList =
      .ok ((written (failed "r" "boom" "s" ⟨0⟩)).map Json.Written.value, []) ∧
    (∀ e, (((written (failed "r" "boom" "s" ⟨0⟩)).map Json.Written.value).getD 3 .null).asText? = some e →
      Text.trim e ≠ "") ∧
    (completed "r" .null "s" ⟨0⟩).Exclusive ∧ (failed "r" "" "s" ⟨0⟩).Exclusive ∧
    (∀ r, decode (encode (failed "r" "boom" "s" ⟨0⟩)).toUTF8.toList = .ok r → r.Exclusive) ∧
    (¬ Agrees ((written (failed "r" "boom" "s" ⟨0⟩)).map Json.Written.value) →
      decode (encode (failed "r" "boom" "s" ⟨0⟩)).toUTF8.toList =
        .error (.decode ("result " ++
          (((written (failed "r" "boom" "s" ⟨0⟩)).map Json.Written.value).getD 0 .null).asText ++
          " violates status exclusivity"))) := by
  have hraw := readRecord_encode (failed_dataReadsBack "r" "boom" "s" ⟨0⟩)
  have hb : ∀ e, (((written (failed "r" "boom" "s" ⟨0⟩)).map Json.Written.value).getD 3 .null).asText? =
      some e → Text.trim e ≠ "" := by
    intro e he
    simp [written, failed, error?, Json.ofOption, Json.asText?] at he
    subst he
    decide
  exact ⟨hraw, hb, results_keep_status_exclusive "r" "s" "" .null ⟨0⟩ _ _ [] hraw hb⟩

-- the decoder asks only that a failure's error be present
theorem decode_admits_blank_error :
    decode (encode ⟨"r", .failed " ", "t", "s"⟩).toUTF8.toList = .ok ⟨"r", .failed " ", "t", "s"⟩ ∧
    ¬ (⟨"r", .failed " ", "t", "s"⟩ : Reply).Exclusive := by
  refine ⟨decode_encode fun d h => by simp [data?] at h, ?_⟩
  rw [exclusive_iff]
  decide

end Reply

end Relay
