import Relay.Player.Basic
import Relay.Text.Quote
import Relay.Text.Sort
/-!
# The rules a player must keep

A name has 1 to 64 characters, a level lies in 1..100 and a score is not negative. A draft is
checked whole and a change on the fields it sets; every broken rule is reported on a line of
its own, `field: Validation error: code [{params}]`, where the params say the bounds and the
value found (`"max": Number(64)`, `"value": String("…")`, strings quoted with escapes).

The lines of a report come sorted, and so do the params of each line. `Report.canonical`
brings any report text to that form: it sorts the entries of every `[{…}]` map of a line,
splitting them at `, ` where no quote or bracket is open, and then sorts the lines.
-/
namespace Relay.Player

inductive Param where
  | number (n : Int)
  | text (s : String)
  deriving DecidableEq, Repr

def Param.render : Param → String
  | .number n => "Number(" ++ toString n ++ ")"
  | .text s => "String(" ++ Text.quote s ++ ")"

structure Violation where
  field : String
  code : String
  params : List (String × Param)
  deriving Repr

def Violation.line (v : Violation) : String :=
  let entries := v.params.map fun (k, p) => Text.quote k ++ ": " ++ p.render
  v.field ++ ": Validation error: " ++ v.code ++ " [" ++ "\x7b" ++
    ", ".intercalate (Text.sort entries) ++ "\x7d" ++ "]"

def nameLength : Nat × Nat := (1, 64)

def levelRange : Nat × Nat := (1, 100)

def checkName (name : String) : List Violation :=
  let n := name.length
  if nameLength.1 ≤ n ∧ n ≤ nameLength.2 then []
  else [⟨"name", "length", [("min", .number nameLength.1), ("max", .number nameLength.2),
    ("value", .text name)]⟩]

def checkLevel (level : Nat) : List Violation :=
  if levelRange.1 ≤ level ∧ level ≤ levelRange.2 then []
  else [⟨"level", "range", [("min", .number levelRange.1), ("max", .number levelRange.2),
    ("value", .number level)]⟩]

def checkScore (score : Int) : List Violation :=
  if 0 ≤ score then [] else [⟨"score", "range", [("min", .number 0), ("value", .number score)]⟩]

def Draft.violations (d : Draft) : List Violation :=
  checkName d.name ++ checkLevel d.level ++ checkScore d.score

def Change.violations (c : Change) : List Violation :=
  checkName c.name ++ (c.level.map checkLevel).getD [] ++ (c.score.map checkScore).getD []

def report (vs : List Violation) : String := "\n".intercalate (Text.sort (vs.map (·.line)))

namespace Report

structure Scan where
  depth : Nat := 0
  quoted : Bool := false
  escaped : Bool := false

def Scan.step (s : Scan) (c : Char) : Scan :=
  if s.quoted then
    if s.escaped then { s with escaped := false }
    else if c == '\\' then { s with escaped := true }
    else if c == '"' then { s with quoted := false }
    else s
  else if c == '"' then { s with quoted := true }
  else if c == '(' || c == '[' || c == '\x7b' then { s with depth := s.depth + 1 }
  else if c == ')' || c == ']' || c == '\x7d' then { s with depth := s.depth - 1 }
  else s

def Scan.level (s : Scan) : Bool := !s.quoted && s.depth == 0

def body : Scan → List Char → List Char → Option (List Char × List Char)
  | _, _, [] => none
  | s, acc, c :: cs =>
    if s.level && c == '\x7d' then some (acc.reverse, c :: cs) else body (s.step c) (c :: acc) cs

theorem body_rest_length {s : Scan} {acc cs inside rest : List Char}
    (h : body s acc cs = some (inside, rest)) : rest.length ≤ cs.length := by
  induction cs generalizing s acc with
  | nil => simp [body] at h
  | cons c cs ih =>
    unfold body at h
    split at h
    · cases h; simp
    · have := ih h; simp; omega

def entries : Scan → List Char → List (List Char) → List Char → List (List Char)
  | _, cur, done, [] => (cur.reverse :: done).reverse
  | s, cur, done, ',' :: ' ' :: cs =>
    if s.level then entries s [] (cur.reverse :: done) cs
    else entries (s.step ',') (',' :: cur) done (' ' :: cs)
  | s, cur, done, c :: cs => entries (s.step c) (c :: cur) done cs

def sortInside (inside : List Char) : List Char :=
  (", ".intercalate (Text.sort ((entries {} [] [] inside).map String.ofList))).toList

def line : List Char → List Char
  | [] => []
  | '[' :: '\x7b' :: cs =>
    match h : body {} [] cs with
    | some (inside, rest) =>
      have : rest.length < cs.length + 2 := by have := body_rest_length h; omega
      '[' :: '\x7b' :: sortInside inside ++ line rest
    | none => '[' :: '\x7b' :: cs
  | c :: cs => c :: line cs
termination_by cs => cs.length

def canonical (text : String) : String :=
  "\n".intercalate (Text.sort ((text.splitOn "\n").map fun l => String.ofList (line l.toList)))

end Report

end Relay.Player
