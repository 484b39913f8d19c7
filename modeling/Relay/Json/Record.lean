import Relay.Json.Read
/-!
# Reading records

A record is read by its list of fields. It may be written as an object, each field under its
name in any order and unknown names passed over, or as an array holding the fields in their
order. What each field holds is read by the field's own reader, straight from the bytes, so a
value of the wrong kind stops the reading where it stands.

Stops about the values rather than the text (a missing field, a field given twice, an array
too short, a failed check) are placed where the reader stands once it has looked for the
record's end: past the closing bracket when it comes next. `readRecord` answers the values in
the order of the fields; turning them into a typed value is the caller's part.
-/
namespace Relay.Json

def Number.unexpected : Number → Unexpected
  | .nat n => .unsigned n
  | .neg n => .signed (-(n : Int))
  | .float bits => .float bits

/-- The stop for a value of the wrong kind at the front of `s`, which holds no blanks before
it. The value is read to name it, and the stop is placed after it; an array or an object is
named at its bracket. -/
def mismatch (expected : String) (s : List UInt8) : Stop :=
  let found (u : Unexpected) (r : List UInt8) : Stop := here (.invalidType u expected) r
  match s with
  | [] => ahead .expectedValue []
  | b :: r =>
    if b == 0x6E then
      match expectWord [0x75, 0x6C, 0x6C] r with
      | .ok r' => found .unit r'
      | .error e => e
    else if b == 0x74 then
      match expectWord [0x72, 0x75, 0x65] r with
      | .ok r' => found (.bool true) r'
      | .error e => e
    else if b == 0x66 then
      match expectWord [0x61, 0x6C, 0x73, 0x65] r with
      | .ok r' => found (.bool false) r'
      | .error e => e
    else if b == 0x2D || isDigit b then
      match readInteger (b != 0x2D) (if b == 0x2D then r else b :: r) with
      | .ok (n, r') => found n.unexpected r'
      | .error e => e
    else if b == 0x22 then
      match readStr r with
      | .ok (t, r') => found (.str t) r'
      | .error e => e
    else if b == 0x5B then found .seq (b :: r)
    else if b == 0x7B then found .map (b :: r)
    else ahead .expectedValue (b :: r)

abbrev FieldReader := Nat → List UInt8 → Reading Json

inductive Absent where
  | required
  | optional
  | fallback (value : Json)

/-- A field of a record: its name in an object, how its value is read, what stands in for it
when it is left out, and a check made on the value once it is read. -/
structure Field where
  name : String
  read : FieldReader
  absent : Absent := .required
  check : Json → Option Problem := fun _ => none

def readText : FieldReader := fun _ s =>
  match skipBlank s with
  | [] => .error (ahead .eofValue [])
  | b :: r =>
    if b == 0x22 then (readStr r).map (fun (t, r') => (.str t, r'))
    else .error (mismatch "a string" (b :: r))

def i64Max : Nat := Nat.pow 2 63 - 1

def readInt64 : FieldReader := fun _ s =>
  match skipBlank s with
  | [] => .error (ahead .eofValue [])
  | b :: r =>
    if b == 0x2D || isDigit b then
      match readInteger (b != 0x2D) (if b == 0x2D then r else b :: r) with
      | .error e => .error e
      | .ok (.nat k, r') =>
        if k ≤ i64Max then .ok (.num (.nat k), r')
        else .error (here (.invalidValue (.unsigned k) "i64") r')
      | .ok (.neg k, r') => .ok (.num (.neg k), r')
      | .ok (.float bits, r') => .error (here (.invalidType (.float bits) "i64") r')
    else .error (mismatch "i64" (b :: r))

def readAny : FieldReader := readAt

def readMaybe (inner : FieldReader) : FieldReader := fun depth s =>
  match skipBlank s with
  | 0x6E :: r => (expectWord [0x75, 0x6C, 0x6C] r).map (fun r' => (.null, r'))
  | t => inner depth t

def readVariantName (variants : List String) (s : List UInt8) : Reading Json :=
  match skipBlank s with
  | [] => .error (ahead .eofValue [])
  | b :: r =>
    if b == 0x22 then
      match readStr r with
      | .error e => .error e
      | .ok (t, r') =>
        if variants.contains t then .ok (.str t, r')
        else .error (here (.unknownVariant t variants) r')
    else .error (mismatch "variant identifier" (b :: r))

def readUnit (s : List UInt8) : Except Stop (List UInt8) :=
  match skipBlank s with
  | [] => .error (ahead .eofValue [])
  | b :: r =>
    if b == 0x6E then expectWord [0x75, 0x6C, 0x6C] r
    else .error (mismatch "unit" (b :: r))

def readChoice (variants : List String) : FieldReader := fun depth s =>
  match skipBlank s with
  | [] => .error (ahead .eofValue [])
  | b :: r =>
    if b == 0x22 then readVariantName variants (b :: r)
    else if b == 0x7B then
      if depth ≤ 1 then .error (ahead .recursionLimit (b :: r))
      else
        match readVariantName variants r with
        | .error e => .error e
        | .ok (v, r1) =>
          match readColon r1 with
          | .error e => .error e
          | .ok r2 =>
            match readUnit r2 with
            | .error e => .error e
            | .ok r3 =>
              match skipBlank r3 with
              | [] => .error (here .eofObject [])
              | c :: r4 => if c == 0x7D then .ok (v, r4) else .error (here .expectedValue (c :: r4))
    else .error (ahead .expectedValue (b :: r))

def afterListEnd (s : List UInt8) : List UInt8 :=
  match skipBlank s with
  | 0x5D :: r => r
  | 0x2C :: r => skipBlank r
  | t => t

def afterMapEnd (s : List UInt8) : List UInt8 :=
  match skipBlank s with
  | 0x7D :: r => r
  | t => t

def closeList (s : List UInt8) : Except Stop (List UInt8) :=
  match skipBlank s with
  | [] => .error (ahead .eofList [])
  | b :: r =>
    if b == 0x5D then .ok r
    else if b == 0x2C then
      match skipBlank r with
      | c :: r' =>
        if c == 0x5D then .error (ahead .trailingComma (c :: r'))
        else .error (ahead .trailingCharacters (c :: r'))
      | [] => .error (ahead .trailingCharacters [])
    else .error (ahead .trailingCharacters (b :: r))

def recordItems (expected : String) (depth : Nat) :
    Nat → Bool → List Json → List Field → List UInt8 → Reading (List Json)
  | _, _, acc, [], s => .ok (acc.reverse, s)
  | i, first, acc, f :: fs, s =>
    match skipBlank s with
    | [] => .error (ahead .eofList [])
    | b :: r =>
      if b == 0x5D then
        match f.absent with
        | .fallback v => recordItems expected depth (i + 1) first (v :: acc) fs (b :: r)
        | _ => .error ((loose (.invalidLength i expected)).place (afterListEnd (b :: r)))
      else
        let start : Except Stop (List UInt8) :=
          if first then .ok (b :: r)
          else if b == 0x2C then
            match skipBlank r with
            | [] => .error (ahead .eofValue [])
            | c :: r' =>
              if c == 0x5D then .error (ahead .trailingComma (c :: r')) else .ok (c :: r')
          else .error (ahead .expectedListCommaOrEnd (b :: r))
        match start with
        | .error e => .error e
        | .ok s' =>
          match f.read depth s' with
          | .error e => .error e
          | .ok (v, r') =>
            match f.check v with
            | some p => .error ((loose p).place (afterListEnd r'))
            | none => recordItems expected depth (i + 1) false (v :: acc) fs r'

abbrev Slot := Field × Option Json

def putSlot (k : String) (v : Json) (slots : List Slot) : List Slot :=
  slots.map (fun (f, o) => if f.name == k then (f, some v) else (f, o))

/-- The values of all fields once the object has closed, `s` being what follows it: a field
left out takes its stand-in, or the reading stops if it has none. -/
def fillSlots (s : List UInt8) : List Slot → Except Stop (List Json)
  | [] => .ok []
  | (f, o) :: rest =>
    let v : Except Stop Json := match o, f.absent with
      | some v, _ => .ok v
      | none, .required => .error ((loose (.missingField f.name)).place s)
      | none, .optional => .ok .null
      | none, .fallback v => .ok v
    match v with
    | .error e => .error e
    | .ok v => (fillSlots s rest).map (v :: ·)

def recordEntries (depth : Nat) : Nat → Bool → List Slot → List UInt8 → Reading (List Slot)
  | 0, _, _, s => .error (here .eofObject s)
  | fuel + 1, first, slots, s =>
    match skipBlank s with
    | [] => .error (ahead .eofObject [])
    | b :: r =>
      if b == 0x7D then .ok (slots, b :: r)
      else
        let key : Except Stop (List UInt8) :=
          if first then
            if b == 0x22 then .ok r else .error (ahead .keyMustBeString (b :: r))
          else if b == 0x2C then
            match skipBlank r with
            | [] => .error (ahead .eofValue [])
            | c :: r' =>
              if c == 0x22 then .ok r'
              else if c == 0x7D then .error (ahead .trailingComma (c :: r'))
              else .error (ahead .keyMustBeString (c :: r'))
          else .error (ahead .expectedObjectCommaOrEnd (b :: r))
        match key with
        | .error e => .error e
        | .ok r1 =>
          match readStr r1 with
          | .error e => .error e
          | .ok (k, r2) =>
            match slots.find? (fun (f, _) => f.name == k) with
            | none =>
              match readColon r2 with
              | .error e => .error e
              | .ok r3 =>
                match skipValue r3 with
                | .error e => .error e
                | .ok r4 => recordEntries depth fuel false slots r4
            | some (f, o) =>
              if o.isSome then .error ((loose (.duplicateField k)).place (afterMapEnd r2))
              else
                match readColon r2 with
                | .error e => .error e
                | .ok r3 =>
                  match f.read depth r3 with
                  | .error e => .error e
                  | .ok (v, r4) =>
                    match f.check v with
                    | some p => .error ((loose p).place (afterMapEnd r4))
                    | none => recordEntries depth fuel false (putSlot k v slots) r4

def readRecord (name : String) (fields : List Field) (depth : Nat) (s : List UInt8) :
    Reading (List Json) :=
  match skipBlank s with
  | [] => .error (ahead .eofValue [])
  | b :: r =>
    if b == 0x5B then
      if depth ≤ 1 then .error (ahead .recursionLimit (b :: r))
      else
        let expected := "struct " ++ name ++ " with " ++ toString fields.length ++ " elements"
        match recordItems expected (depth - 1) 0 true [] fields r with
        | .error e => .error e
        | .ok (vs, r') => (closeList r').map (fun r'' => (vs, r''))
    else if b == 0x7B then
      if depth ≤ 1 then .error (ahead .recursionLimit (b :: r))
      else
        match recordEntries (depth - 1) (fuelFor r) true (fields.map (·, none)) r with
        | .error e => .error e
        | .ok (slots, r') =>
          let r'' := afterMapEnd r'
          (fillSlots r'' slots).map (fun vs => (vs, r''))
    else .error (mismatch ("struct " ++ name) (b :: r))

def recordField (name : String) (fields : List Field) : FieldReader := fun depth s =>
  (readRecord name fields depth s).map (fun (vs, r) => (.arr vs, r))

def parseRecord {α : Type} (name : String) (fields : List Field)
    (build : List Json → Except Problem α) (input : List UInt8) : Except Stop α :=
  match readRecord name fields maxDepth input with
  | .error e => .error e
  | .ok (vs, r) =>
    match build vs with
    | .error p => .error (loose p)
    | .ok a => (expectEnd r).map (fun _ => a)

end Relay.Json
