import Mathlib.Data.List.DropRight
import Relay.Config.Redis
/-!
# The database a connection URL selects

A Redis URL may carry its database as a path, `redis://host:6379/2`. The connection URL keeps a
URL that already does, and otherwise appends `/` and the configured number to the URL less its
trailing slashes. The path is looked for after the first `://` of the trimmed URL; where there
is one, a URL built this way carries exactly the configured number after an authority with no
`/`, and building the URL again from it changes nothing.

A text without `://`, such as a bare `host:6379`, is never taken to carry a path: the number
is appended to it, and appended once more each time the URL is built again from the result.
-/
namespace Relay.Config.Redis

/-! ## The text after the scheme -/

theorem afterScheme_cons {c : Char} {l : List Char}
    (h : c ≠ ':' ∨ ∀ rest, l ≠ '/' :: '/' :: rest) : afterScheme (c :: l) = afterScheme l := by
  rw [afterScheme.eq_2]
  rintro rest rfl rfl
  simp at h

theorem afterScheme_cons_append {c : Char} {l : List Char} (hl : 2 ≤ l.length)
    (hnot : ∀ rest, c = ':' → l = '/' :: '/' :: rest → False) (t : List Char) :
    afterScheme (c :: (l ++ t)) = afterScheme (l ++ t) := by
  rw [afterScheme.eq_2]
  rintro rest hc heq
  rcases l with _ | ⟨a, _ | ⟨b, r⟩⟩
  · simp at hl
  · simp at hl
  · simp only [List.cons_append, List.cons.injEq] at heq
    exact hnot r hc (by rw [heq.1, heq.2.1])

theorem afterScheme_append {s rest : List Char} (h : afterScheme s = some rest) (t : List Char) :
    afterScheme (s ++ t) = some (rest ++ t) := by
  fun_induction afterScheme s with
  | case1 r => simp_all [afterScheme]
  | case2 c r hnot ih =>
    rcases r with _ | ⟨a, _ | ⟨b, r⟩⟩
    · simp [afterScheme] at h
    · simp [afterScheme] at h
    · rw [List.cons_append, afterScheme_cons_append (by simp) hnot, ih h]
  | case3 => simp at h

theorem afterScheme_eq_none {l : List Char} (h : ':' ∉ l) : afterScheme l = none := by
  fun_induction afterScheme l with
  | case1 r => simp at h
  | case2 c r _ ih => exact ih (fun hr => h (List.mem_cons_of_mem c hr))
  | case3 => rfl

theorem afterScheme_slash {s ds : List Char} (hs : afterScheme s = none)
    (hlast : s.getLast? ≠ some '/') (hds : ∀ c ∈ ds, c ≠ ':' ∧ c ≠ '/') :
    afterScheme (s ++ '/' :: ds) = none := by
  fun_induction afterScheme s with
  | case1 r => simp at hs
  | case2 c r hnot ih =>
    have hr : r.getLast? ≠ some '/' := by
      rcases r with _ | ⟨a, r⟩
      · simp
      · simpa using hlast
    rcases r with _ | ⟨a, _ | ⟨b, r⟩⟩
    · -- the slash is followed by a character that is no slash
      rw [List.cons_append, List.nil_append, afterScheme_cons (.inr fun rest heq => ?_),
        ← List.nil_append ('/' :: ds), ih hs hr]
      simp only [List.cons.injEq, true_and] at heq
      exact (hds '/' (by simp [heq])).2 rfl
    · -- the last character is no slash
      rw [List.cons_append, afterScheme_cons (.inr fun rest heq => ?_), ih hs hr]
      simp only [List.cons_append, List.nil_append, List.cons.injEq] at heq
      exact hr (by simp [heq.1])
    · rw [List.cons_append, afterScheme_cons_append (by simp) hnot, ih hs hr]
  | case3 =>
    rw [List.nil_append, afterScheme_cons (.inl (by decide))]
    exact afterScheme_eq_none fun h => (hds ':' h).1 rfl

/-! ## Trimmed URLs and appended numbers -/

theorem trimmed_eq (url : String) : trimmed url = url.toList.rdropWhile (· == '/') := rfl

theorem trimmed_getLast? (url : String) : (trimmed url).getLast? ≠ some '/' := by
  intro h
  have hne : trimmed url ≠ [] := by
    rintro hn
    simp [hn] at h
  rw [List.getLast?_eq_some_getLast hne, Option.some.injEq] at h
  exact List.rdropWhile_last_not (· == '/') url.toList hne (beq_iff_eq.mpr h)

theorem digit_ne {c : Char} {d : Nat} (h : c ∈ Nat.toDigits 10 d) : c ≠ ':' ∧ c ≠ '/' := by
  have hd := Nat.isDigit_of_mem_toDigits (by decide) (by decide) h
  constructor <;> rintro rfl <;> simp at hd

theorem toList_appended (url : String) (d : Nat) :
    (String.ofList (trimmed url) ++ "/" ++ toString d).toList =
      trimmed url ++ '/' :: Nat.toDigits 10 d := by
  simp

theorem trimmed_appended (url : String) (d : Nat) :
    trimmed (String.ofList (trimmed url) ++ "/" ++ toString d) =
      trimmed url ++ '/' :: Nat.toDigits 10 d := by
  rw [trimmed_eq, toList_appended, List.rdropWhile_eq_self_iff]
  intro hne
  have hds : Nat.toDigits 10 d ≠ [] := Nat.toDigits_ne_nil
  rw [List.getLast_append_of_ne_nil hne (List.cons_ne_nil _ _), List.getLast_cons hds]
  simpa using (digit_ne (List.getLast_mem hds)).2

theorem afterScheme_trimmed {url : String} (h : afterScheme url.toList = none) :
    afterScheme (trimmed url) = none := by
  obtain ⟨tail, htail⟩ := List.rdropWhile_prefix (p := (· == '/')) (l := url.toList)
  cases ht : afterScheme (trimmed url) with
  | none => rfl
  | some rest =>
    have := afterScheme_append ht tail
    rw [trimmed_eq, htail, h] at this
    cases this

theorem namesDatabase_appended {url : String} {rest : List Char}
    (h : afterScheme (trimmed url) = some rest) (d : Nat) :
    namesDatabase (String.ofList (trimmed url) ++ "/" ++ toString d) = true := by
  rw [namesDatabase, trimmed_appended, afterScheme_append h]
  simp

theorem namesDatabase_appended_of_none {url : String} (h : afterScheme (trimmed url) = none)
    (d : Nat) : namesDatabase (String.ofList (trimmed url) ++ "/" ++ toString d) = false := by
  rw [namesDatabase, trimmed_appended,
    afterScheme_slash h (trimmed_getLast? url) fun _ hc => digit_ne hc]

/-! ## The connection URL -/

variable {c : Redis} {d : Nat}

theorem connectionUrl_of_none (hd : c.database = none) : c.connectionUrl = c.url := by
  obtain ⟨url, db⟩ := c
  subst hd
  rfl

theorem connectionUrl_of_database (hd : c.database = some d) : c.connectionUrl =
    if namesDatabase c.url then c.url else String.ofList (trimmed c.url) ++ "/" ++ toString d := by
  obtain ⟨url, db⟩ := c
  subst hd
  rfl

theorem connectionUrl_rebuilt {rest : List Char} (hd : c.database = some d)
    (hs : afterScheme (trimmed c.url) = some rest) :
    namesDatabase c.connectionUrl = true ∧
      connectionUrl { c with url := c.connectionUrl } = c.connectionUrl := by
  obtain ⟨url, db⟩ := c
  subst hd
  by_cases hn : namesDatabase url = true
  · simp [hn]
  · have hn' := namesDatabase_appended hs d
    simp only [connectionUrl_some, hn, hn', Bool.false_eq_true, if_false, if_true, and_self]

theorem connectionUrl_appends_one {rest : List Char} (hd : c.database = some d)
    (hn : namesDatabase c.url = false) (hs : afterScheme (trimmed c.url) = some rest) :
    '/' ∉ rest ∧
      afterScheme c.connectionUrl.toList = some (rest ++ '/' :: (toString d).toList) := by
  refine ⟨?_, ?_⟩
  · simpa [namesDatabase, hs] using hn
  · rw [connectionUrl_of_database hd, if_neg (by simp [hn]), toList_appended,
      afterScheme_append hs]
    simp

theorem connectionUrl_reappends (hd : c.database = some d) (h : afterScheme c.url.toList = none) :
    connectionUrl { c with url := c.connectionUrl } = c.connectionUrl ++ "/" ++ toString d := by
  obtain ⟨url, db⟩ := c
  subst hd
  have ht := afterScheme_trimmed h
  have hn : namesDatabase url = false := by simp [namesDatabase, ht]
  have hn' := namesDatabase_appended_of_none ht d
  simp only [connectionUrl_some, hn, hn', Bool.false_eq_true, if_false]
  rw [trimmed_appended, ← toList_appended, String.ofList_toList]

/-- The connection URL is the URL itself when no database is set or the URL names one, and else
the URL less its trailing slashes, `/` and the number. Where the trimmed URL holds `://`, the
result names a database, the configured number right after a `/`-free authority when it was
appended, and building the URL again from it changes nothing; a URL without `://` names none,
and each build appends the number once more. -/
theorem connection_url_selects_one_database (c : Redis) :
    (c.database = none →
      c.connectionUrl = c.url ∧ connectionUrl { c with url := c.connectionUrl } = c.connectionUrl) ∧
    (∀ d, c.database = some d → c.connectionUrl =
      if namesDatabase c.url then c.url else String.ofList (trimmed c.url) ++ "/" ++ toString d) ∧
    (∀ d rest, c.database = some d → afterScheme (trimmed c.url) = some rest →
      namesDatabase c.connectionUrl = true ∧
      (namesDatabase c.url = false → '/' ∉ rest ∧
        afterScheme c.connectionUrl.toList = some (rest ++ '/' :: (toString d).toList)) ∧
      connectionUrl { c with url := c.connectionUrl } = c.connectionUrl) ∧
    (∀ d, c.database = some d → afterScheme c.url.toList = none →
      connectionUrl { c with url := c.connectionUrl } = c.connectionUrl ++ "/" ++ toString d) := by
  refine ⟨fun hd => ?_, fun d hd => connectionUrl_of_database hd, fun d rest hd hs => ?_,
    fun d hd h => connectionUrl_reappends hd h⟩
  · -- the URL is kept, and kept again
    rw [connectionUrl_of_none hd]
    exact ⟨rfl, connectionUrl_of_none hd⟩
  · obtain ⟨hnames, hsame⟩ := connectionUrl_rebuilt hd hs
    exact ⟨hnames, fun hn => connectionUrl_appends_one hd hn hs, hsame⟩

/-- A bare host and port names no database: the URL built again from its connection URL holds
the number twice. -/
theorem bare_host_gets_database_twice :
    connectionUrl ⟨"localhost:6379", some 3⟩ = "localhost:6379/3" ∧
      connectionUrl ⟨connectionUrl ⟨"localhost:6379", some 3⟩, some 3⟩ = "localhost:6379/3/3" := by
  decide

end Relay.Config.Redis
