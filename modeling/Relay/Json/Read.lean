import Relay.Json.Basic
import Relay.Json.Error
import Relay.Text.Blank
import Relay.Text.Utf8
import Relay.Decimal.Scale
/-!
# Reading JSON

Every reader here takes the unread bytes and answers with what it read and the bytes after
it, or with the `Stop` where it gave up. A stop's point is the number of bytes still unread
there, so `Stop.message` can turn it into a line and a column: `here` is the byte the reader
stands on, `ahead` one further (the reader looked at a byte without taking it).

The grammar is RFC 8259 with these rules of its own:

* blanks are space, tab, line feed and carriage return only;
* a string is read up to its closing quote first and checked as UTF-8 there, the first
  byte that starts no character being reported one byte past it; a `\u` escape of a
  trailing surrogate, or of a leading one without a trailing one after it, is refused;
* an integer is kept exact when it fits: `nat` below 2^64, `neg` down to -2^63; otherwise,
  and for every number with a fraction or an exponent, it becomes the double of
  `Relay.Decimal.Scale`, with `-0` a negative zero;
* arrays and objects may nest 127 deep inside a value (`maxDepth` counts the outermost);
* of two entries under one key the later wins.

`skipValue` checks a value without keeping it, as a reader does for the fields it does not
know; it has no depth limit and does not check UTF-8 or number ranges.
-/
namespace Relay.Json

def here (p : Problem) (s : List UInt8) : Stop := ⟨p, some s.length⟩

def ahead (p : Problem) (s : List UInt8) : Stop := ⟨p, some (s.length - 1)⟩

def loose (p : Problem) : Stop := ⟨p, none⟩

def Stop.place (e : Stop) (s : List UInt8) : Stop :=
  match e.left with
  | some _ => e
  | none => { e with left := some s.length }

abbrev Reading (α : Type) := Except Stop (α × List UInt8)

def skipBlank : List UInt8 → List UInt8
  | [] => []
  | b :: r => if Text.isJsonBlank b then skipBlank r else b :: r

def isDigit (b : UInt8) : Bool := 0x30 ≤ b && b ≤ 0x39

def digitValue (b : UInt8) : Nat := b.toNat - 0x30

def hexValue (b : UInt8) : Option Nat :=
  if isDigit b then some (digitValue b)
  else if 0x61 ≤ b && b ≤ 0x66 then some (b.toNat - 0x61 + 10)
  else if 0x41 ≤ b && b ≤ 0x46 then some (b.toNat - 0x41 + 10)
  else none

def expectWord : List UInt8 → List UInt8 → Except Stop (List UInt8)
  | [], s => .ok s
  | _ :: _, [] => .error (here .eofValue [])
  | w :: ws, b :: r => if b == w then expectWord ws r else .error (here .expectedIdent r)

/-! ## Strings -/

def isPlain (b : UInt8) : Bool := b != 0x22 && b != 0x5C && 0x20 ≤ b

def readHex4 : List UInt8 → Reading Nat
  | a :: b :: c :: d :: r =>
    match hexValue a, hexValue b, hexValue c, hexValue d with
    | some a, some b, some c, some d => .ok (((a * 16 + b) * 16 + c) * 16 + d, r)
    | _, _, _, _ => .error (here .invalidEscape r)
  | _ => .error (here .eofString [])

def readUnicode (s : List UInt8) : Reading Char :=
  match readHex4 s with
  | .error e => .error e
  | .ok (n, r) =>
    if 0xDC00 ≤ n ∧ n ≤ 0xDFFF then .error (here .loneLeadingSurrogate r)
    else if n < 0xD800 ∨ 0xDBFF < n then .ok (Char.ofNat n, r)
    else
      match r with
      | [] => .error (here .eofString [])
      | 0x5C :: r1 =>
        match r1 with
        | [] => .error (here .eofString [])
        | 0x75 :: r2 =>
          match readHex4 r2 with
          | .error e => .error e
          | .ok (m, r3) =>
            if m < 0xDC00 ∨ 0xDFFF < m then .error (here .loneLeadingSurrogate r3)
            else .ok (Char.ofNat ((n - 0xD800) * 1024 + (m - 0xDC00) + 0x10000), r3)
        | _ :: r2 => .error (here .unexpectedEndOfHexEscape r2)
      | _ :: r1 => .error (here .unexpectedEndOfHexEscape r1)

def readEscape : List UInt8 → Reading Char
  | [] => .error (here .eofString [])
  | b :: r =>
    match b with
    | 0x22 => .ok ('"', r)
    | 0x5C => .ok ('\\', r)
    | 0x2F => .ok ('/', r)
    | 0x62 => .ok (Char.ofNat 8, r)
    | 0x66 => .ok (Char.ofNat 12, r)
    | 0x6E => .ok ('\n', r)
    | 0x72 => .ok ('\r', r)
    | 0x74 => .ok ('\t', r)
    | 0x75 => readUnicode r
    | _ => .error (here .invalidEscape r)

/-- Reads a string's body up to its closing quote. `acc` is the text so far and `bad` the
point of the first byte that starts no character, reported once the quote is reached;
`fuel` bounds the escapes. -/
def readStrLoop : Nat → String → Option Nat → List UInt8 → Reading String
  | 0, _, _, _ => .error (here .eofString [])
  | fuel + 1, acc, bad, s =>
    let (run, rest) := s.span isPlain
    let valid := Utf8.validPrefix run
    let bad := bad <|> (if valid < run.length then some (s.length - valid - 1) else none)
    let acc := acc ++ Utf8.decodeLossy run
    match rest with
    | [] => .error (here .eofString [])
    | 0x22 :: r =>
      match bad with
      | some left => .error ⟨.invalidUnicode, some left⟩
      | none => .ok (acc, r)
    | 0x5C :: r =>
      match readEscape r with
      | .ok (c, r') => readStrLoop fuel (acc.push c) bad r'
      | .error e => .error e
    | _ :: r => .error (here .controlCharacter r)

def readStr (s : List UInt8) : Reading String := readStrLoop (s.length + 1) "" none s

def skipEscape : List UInt8 → Except Stop (List UInt8)
  | [] => .error (here .eofString [])
  | b :: r =>
    if b == 0x22 || b == 0x5C || b == 0x2F || b == 0x62 || b == 0x66 || b == 0x6E ||
        b == 0x72 || b == 0x74 then .ok r
    else if b == 0x75 then (readHex4 r).map Prod.snd
    else .error (here .invalidEscape r)

def skipStrLoop : Nat → List UInt8 → Except Stop (List UInt8)
  | 0, _ => .error (here .eofString [])
  | fuel + 1, s =>
    match s.dropWhile isPlain with
    | [] => .error (here .eofString [])
    | 0x22 :: r => .ok r
    | 0x5C :: r =>
      match skipEscape r with
      | .ok r' => skipStrLoop fuel r'
      | .error e => .error e
    | b :: r => .error (here .controlCharacter (b :: r))

def skipStr (s : List UInt8) : Except Stop (List UInt8) := skipStrLoop (s.length + 1) s

/-! ## Numbers -/

def u64Max : Nat := Nat.pow 2 64 - 1

def clampExponent (x : Int) : Int := max (-2147483648) (min 2147483647 x)

def fromParts (positive : Bool) (sig : Nat) (exp : Int) (after : List UInt8) : Reading Number :=
  match Decimal.Scale.apply positive sig exp with
  | some f => .ok (.float f.toBits, after)
  | none => .error (here .numberOutOfRange after)

def expOverflow (positive : Bool) (sig : Nat) (up : Bool) (r : List UInt8) : Reading Number :=
  if sig ≠ 0 ∧ up then .error (here .numberOutOfRange r)
  else .ok (.float (if positive then (0.0 : Float) else -0.0).toBits, r.dropWhile isDigit)

def expDigits (positive : Bool) (sig : Nat) (start : Int) (up : Bool) (acc : Nat) :
    List UInt8 → Reading Number
  | [] => fromParts positive sig (clampExponent (if up then start + acc else start - acc)) []
  | b :: r =>
    if isDigit b then
      if acc * 10 + digitValue b > 2147483647 then expOverflow positive sig up r
      else expDigits positive sig start up (acc * 10 + digitValue b) r
    else fromParts positive sig (clampExponent (if up then start + acc else start - acc)) (b :: r)

def exponentSign : List UInt8 → Bool × List UInt8
  | 0x2B :: r => (true, r)
  | 0x2D :: r => (false, r)
  | r => (true, r)

def readExponent (positive : Bool) (sig : Nat) (start : Int) (s : List UInt8) : Reading Number :=
  let (up, r) := exponentSign s
  match r with
  | [] => .error (here .eofValue [])
  | b :: r' =>
    if isDigit b then expDigits positive sig start up (digitValue b) r'
    else .error (here .invalidNumber r')

def afterMantissa (positive : Bool) (sig : Nat) (exp : Int) (s : List UInt8) : Reading Number :=
  match s with
  | b :: r => if b == 0x65 || b == 0x45 then readExponent positive sig exp r
    else fromParts positive sig exp s
  | [] => fromParts positive sig exp []

def decimalOverflow (positive : Bool) (sig : Nat) (exp : Int) (s : List UInt8) : Reading Number :=
  afterMantissa positive sig exp (s.dropWhile isDigit)

def fracDigits (positive : Bool) (sig : Nat) (exp : Int) (count : Nat) :
    List UInt8 → Reading Number
  | [] =>
    if count = 0 then .error (ahead .eofValue []) else afterMantissa positive sig exp []
  | b :: r =>
    if isDigit b then
      if sig * 10 + digitValue b > u64Max then decimalOverflow positive sig exp (b :: r)
      else fracDigits positive (sig * 10 + digitValue b) (exp - 1) (count + 1) r
    else if count = 0 then .error (ahead .invalidNumber (b :: r))
    else afterMantissa positive sig exp (b :: r)

def whole (positive : Bool) (sig : Nat) (s : List UInt8) : Reading Number :=
  if positive then .ok (.nat sig, s)
  else if sig = 0 then .ok (.float (-0.0 : Float).toBits, s)
  else if sig ≤ Nat.pow 2 63 then .ok (.neg sig, s)
  else .ok (.float (-(UInt64.toFloat (UInt64.ofNat sig))).toBits, s)

def readTail (positive : Bool) (sig : Nat) (s : List UInt8) : Reading Number :=
  match s with
  | b :: r =>
    if b == 0x2E then fracDigits positive sig 0 0 r
    else if b == 0x65 || b == 0x45 then readExponent positive sig 0 r
    else whole positive sig s
  | [] => whole positive sig []

def longInteger (positive : Bool) (sig : Nat) (count : Nat) : List UInt8 → Reading Number
  | [] => fromParts positive sig count []
  | b :: r =>
    if isDigit b then longInteger positive sig (count + 1) r
    else if b == 0x2E then fracDigits positive sig count 0 r
    else if b == 0x65 || b == 0x45 then readExponent positive sig count r
    else fromParts positive sig count (b :: r)

def intDigits (positive : Bool) (sig : Nat) : List UInt8 → Reading Number
  | [] => readTail positive sig []
  | b :: r =>
    if isDigit b then
      if sig * 10 + digitValue b > u64Max then longInteger positive sig 0 (b :: r)
      else intDigits positive (sig * 10 + digitValue b) r
    else readTail positive sig (b :: r)

def readInteger (positive : Bool) : List UInt8 → Reading Number
  | [] => .error (here .eofValue [])
  | b :: r =>
    if b == 0x30 then
      match r with
      | c :: _ => if isDigit c then .error (ahead .invalidNumber r) else readTail positive 0 r
      | [] => readTail positive 0 []
    else if isDigit b then intDigits positive (digitValue b) r
    else .error (here .invalidNumber r)

def skipExponent (s : List UInt8) : Except Stop (List UInt8) :=
  let r := match s with
    | b :: r => if b == 0x2B || b == 0x2D then r else b :: r
    | [] => []
  match r with
  | b :: r' => if isDigit b then .ok (r'.dropWhile isDigit) else .error (here .invalidNumber r')
  | [] => .error (here .invalidNumber [])

def skipMantissaEnd (s : List UInt8) : Except Stop (List UInt8) :=
  match s with
  | b :: r => if b == 0x65 || b == 0x45 then skipExponent r else .ok s
  | [] => .ok []

def skipNumberTail (s : List UInt8) : Except Stop (List UInt8) :=
  match s with
  | b :: r =>
    if b == 0x2E then
      match r with
      | c :: _ => if isDigit c then skipMantissaEnd (r.dropWhile isDigit)
        else .error (ahead .invalidNumber r)
      | [] => .error (ahead .invalidNumber [])
    else skipMantissaEnd s
  | [] => .ok []

def skipInteger : List UInt8 → Except Stop (List UInt8)
  | [] => .error (here .invalidNumber [])
  | b :: r =>
    if b == 0x30 then
      match r with
      | c :: _ => if isDigit c then .error (ahead .invalidNumber r) else skipNumberTail r
      | [] => .ok []
    else if isDigit b then skipNumberTail (r.dropWhile isDigit)
    else .error (here .invalidNumber r)

/-! ## Values -/

def maxDepth : Nat := 128

def fuelFor (s : List UInt8) : Nat := 3 * s.length + 3

def readColon (s : List UInt8) : Except Stop (List UInt8) :=
  match skipBlank s with
  | [] => .error (ahead .eofObject [])
  | b :: r => if b == 0x3A then .ok r else .error (ahead .expectedColon (b :: r))

mutual
def readValue : Nat → Nat → List UInt8 → Reading Json
  | 0, _, s => .error (here .eofValue s)
  | fuel + 1, depth, s =>
    match skipBlank s with
    | [] => .error (ahead .eofValue [])
    | b :: r =>
      if b == 0x6E then (expectWord [0x75, 0x6C, 0x6C] r).map (fun r => (.null, r))
      else if b == 0x74 then (expectWord [0x72, 0x75, 0x65] r).map (fun r => (.bool true, r))
      else if b == 0x66 then
        (expectWord [0x61, 0x6C, 0x73, 0x65] r).map (fun r => (.bool false, r))
      else if b == 0x2D then (readInteger false r).map (fun (n, r) => (.num n, r))
      else if isDigit b then (readInteger true (b :: r)).map (fun (n, r) => (.num n, r))
      else if b == 0x22 then (readStr r).map (fun (t, r) => (.str t, r))
      else if b == 0x5B then
        if depth ≤ 1 then .error (ahead .recursionLimit (b :: r))
        else readItems fuel (depth - 1) true [] r
      else if b == 0x7B then
        if depth ≤ 1 then .error (ahead .recursionLimit (b :: r))
        else readEntries fuel (depth - 1) true [] r
      else .error (ahead .expectedValue (b :: r))

def readItems : Nat → Nat → Bool → List Json → List UInt8 → Reading Json
  | 0, _, _, _, s => .error (here .eofList s)
  | fuel + 1, depth, first, acc, s =>
    match skipBlank s with
    | [] => .error (ahead .eofList [])
    | b :: r =>
      if b == 0x5D then .ok (.arr acc.reverse, r)
      else if first then
        match readValue fuel depth (b :: r) with
        | .ok (v, r') => readItems fuel depth false (v :: acc) r'
        | .error e => .error e
      else if b == 0x2C then
        match skipBlank r with
        | [] => .error (ahead .eofValue [])
        | c :: r' =>
          if c == 0x5D then .error (ahead .trailingComma (c :: r'))
          else
            match readValue fuel depth (c :: r') with
            | .ok (v, r'') => readItems fuel depth false (v :: acc) r''
            | .error e => .error e
      else .error (ahead .expectedListCommaOrEnd (b :: r))

def readEntries : Nat → Nat → Bool → List (String × Json) → List UInt8 → Reading Json
  | 0, _, _, _, s => .error (here .eofObject s)
  | fuel + 1, depth, first, acc, s =>
    match skipBlank s with
    | [] => .error (ahead .eofObject [])
    | b :: r =>
      if b == 0x7D then .ok (.obj acc, r)
      else
        let key : Except Stop (List UInt8) :=
          if first then
            if b == 0x22 then .ok r else .error (ahead .keyMustBeString (b :: r))
          else if b == 0x2C then
            match skipBlank r with
            | [] => .error (ahead .eofValue [])
            | c :: r' =>
              if c == 0x22 then .ok r'
              else if c == 0x7D then .error (ahead .trailingComma (c :: r'))
              else .error (ahead .keyMustBeString (c :: r'))
          else .error (ahead .expectedObjectCommaOrEnd (b :: r))
        match key with
        | .error e => .error e
        | .ok r1 =>
          match readStr r1 with
          | .error e => .error e
          | .ok (k, r2) =>
            match readColon r2 with
            | .error e => .error e
            | .ok r3 =>
              match readValue fuel depth r3 with
              | .ok (v, r4) => readEntries fuel depth false (insertField k v acc) r4
              | .error e => .error e
end

def readAt (depth : Nat) (s : List UInt8) : Reading Json := readValue (fuelFor s) depth s

/-! ## Passing over values -/

def closer (isObject : Bool) : UInt8 := if isObject then 0x7D else 0x5D

mutual
def skipAt : Nat → List Bool → List UInt8 → Except Stop (List UInt8)
  | 0, _, s => .error (here .eofValue s)
  | fuel + 1, frames, s =>
    match skipBlank s with
    | [] => .error (ahead .eofValue [])
    | b :: r =>
      let scalar : Option (Except Stop (List UInt8)) :=
        if b == 0x6E then some (expectWord [0x75, 0x6C, 0x6C] r)
        else if b == 0x74 then some (expectWord [0x72, 0x75, 0x65] r)
        else if b == 0x66 then some (expectWord [0x61, 0x6C, 0x73, 0x65] r)
        else if b == 0x2D then some (skipInteger r)
        else if isDigit b then some (skipInteger (b :: r))
        else if b == 0x22 then some (skipStr r)
        else none
      match scalar with
      | some (.ok r') => skipAfter fuel frames r'
      | some (.error e) => .error e
      | none =>
        if b == 0x5B then skipOpen fuel (false :: frames) r
        else if b == 0x7B then skipOpen fuel (true :: frames) r
        else .error (ahead .expectedValue (b :: r))

def skipOpen : Nat → List Bool → List UInt8 → Except Stop (List UInt8)
  | 0, _, s => .error (here .eofValue s)
  | fuel + 1, frames, s =>
    match frames with
    | [] => .ok s
    | f :: outer =>
      match skipBlank s with
      | [] => .error (ahead (if f then .eofObject else .eofList) [])
      | b :: r =>
        if b == closer f then skipAfter fuel outer r
        else if f then skipKey fuel frames (b :: r)
        else skipAt fuel frames (b :: r)

def skipAfter : Nat → List Bool → List UInt8 → Except Stop (List UInt8)
  | 0, _, s => .error (here .eofValue s)
  | fuel + 1, frames, s =>
    match frames with
    | [] => .ok s
    | f :: outer =>
      match skipBlank s with
      | [] => .error (ahead (if f then .eofObject else .eofList) [])
      | b :: r =>
        if b == 0x2C then
          if f then skipKey fuel frames r else skipAt fuel frames r
        else if b == closer f then skipAfter fuel outer r
        else .error (ahead (if f then .expectedObjectCommaOrEnd else .expectedListCommaOrEnd)
          (b :: r))

def skipKey : Nat → List Bool → List UInt8 → Except Stop (List UInt8)
  | 0, _, s => .error (here .eofValue s)
  | fuel + 1, frames, s =>
    match skipBlank s with
    | [] => .error (ahead .eofObject [])
    | b :: r =>
      if b == 0x22 then
        match skipStr r with
        | .error e => .error e
        | .ok r1 =>
          match readColon r1 with
          | .error e => .error e
          | .ok r2 => skipAt fuel frames r2
      else .error (ahead .keyMustBeString (b :: r))
end

def skipValue (s : List UInt8) : Except Stop (List UInt8) := skipAt (fuelFor s) [] s

def expectEnd (s : List UInt8) : Except Stop Unit :=
  match skipBlank s with
  | [] => .ok ()
  | t => .error (ahead .trailingCharacters t)

def parse (input : List UInt8) : Except Stop Json :=
  match readAt maxDepth input with
  | .error e => .error e
  | .ok (v, r) => (expectEnd r).map (fun _ => v)

def parseText (s : String) : Except Stop Json := parse s.toUTF8.toList

end Relay.Json
