/-!
# UTF-8

Bytes are read as UTF-8 one character at a time (RFC 3629: no overlong forms, no
surrogates, nothing above U+10FFFF). `Utf8.scan` reads the first character or says how many
bytes form the longest start of a character that cannot be finished: the unit that the
lossy decoding replaces by U+FFFD. `Utf8.validPrefix` is the length of the longest prefix
made of whole characters, and `Utf8.decode?` succeeds exactly on valid text.
-/
namespace Relay.Utf8

inductive Front where
  | char (c : Char) (rest : List UInt8)
  | bad (len : Nat) (rest : List UInt8)
  deriving Repr

def within (lo hi b : UInt8) : Bool := lo ≤ b && b ≤ hi

def lead (b : UInt8) : Option (Nat × UInt8 × UInt8) :=
  if b ≤ 0x7F then some (1, 0, 0)
  else if 0xC2 ≤ b ∧ b ≤ 0xDF then some (2, 0x80, 0xBF)
  else if b = 0xE0 then some (3, 0xA0, 0xBF)
  else if 0xE1 ≤ b ∧ b ≤ 0xEC then some (3, 0x80, 0xBF)
  else if b = 0xED then some (3, 0x80, 0x9F)
  else if 0xEE ≤ b ∧ b ≤ 0xEF then some (3, 0x80, 0xBF)
  else if b = 0xF0 then some (4, 0x90, 0xBF)
  else if 0xF1 ≤ b ∧ b ≤ 0xF3 then some (4, 0x80, 0xBF)
  else if b = 0xF4 then some (4, 0x80, 0x8F)
  else none

def tail (b : UInt8) : Nat := (b &&& 0x3F).toNat

def scan : List UInt8 → Option Front
  | [] => none
  | b :: r =>
    match lead b with
    | none => some (.bad 1 r)
    | some (1, _, _) => some (.char (Char.ofNat b.toNat) r)
    | some (2, lo, hi) =>
      match r with
      | c :: r' =>
        if within lo hi c then some (.char (Char.ofNat ((b.toNat &&& 0x1F) * 64 + tail c)) r')
        else some (.bad 1 r)
      | [] => some (.bad 1 r)
    | some (3, lo, hi) =>
      match r with
      | c :: r' =>
        if within lo hi c then
          match r' with
          | d :: r'' =>
            if within 0x80 0xBF d then
              some (.char (Char.ofNat ((b.toNat &&& 0x0F) * 4096 + tail c * 64 + tail d)) r'')
            else some (.bad 2 r')
          | [] => some (.bad 2 r')
        else some (.bad 1 r)
      | [] => some (.bad 1 r)
    | some (_, lo, hi) =>
      match r with
      | c :: r' =>
        if within lo hi c then
          match r' with
          | d :: r'' =>
            if within 0x80 0xBF d then
              match r'' with
              | e :: r''' =>
                if within 0x80 0xBF e then
                  some (.char (Char.ofNat ((b.toNat &&& 0x07) * 262144 + tail c * 4096 +
                    tail d * 64 + tail e)) r''')
                else some (.bad 3 r'')
              | [] => some (.bad 3 r'')
            else some (.bad 2 r')
          | [] => some (.bad 2 r')
        else some (.bad 1 r)
      | [] => some (.bad 1 r)

def Front.rest : Front → List UInt8
  | .char _ r => r
  | .bad _ r => r

theorem scan_rest_length {bs : List UInt8} {f : Front} (h : scan bs = some f) :
    f.rest.length < bs.length := by
  unfold scan at h
  repeat' split at h
  all_goals (try simp only [Option.some.injEq] at h)
  all_goals (try subst h)
  all_goals (simp_all [Front.rest]; try omega)

def decodeList (bs : List UInt8) : Option (List Char) :=
  match h : scan bs with
  | none => some []
  | some (.char c r) =>
    have : r.length < bs.length := scan_rest_length h
    (decodeList r).map (c :: ·)
  | some (.bad _ _) => none
termination_by bs.length

def decode? (bs : List UInt8) : Option String := (decodeList bs).map String.ofList

def validPrefix (bs : List UInt8) : Nat :=
  match h : scan bs with
  | none => 0
  | some (.char _ r) =>
    have : r.length < bs.length := scan_rest_length h
    bs.length - r.length + validPrefix r
  | some (.bad _ _) => 0
termination_by bs.length

def decodeLossyList (bs : List UInt8) : List Char :=
  match h : scan bs with
  | none => []
  | some (.char c r) =>
    have : r.length < bs.length := scan_rest_length h
    c :: decodeLossyList r
  | some (.bad _ r) =>
    have : r.length < bs.length := scan_rest_length h
    '�' :: decodeLossyList r
termination_by bs.length

def decodeLossy (bs : List UInt8) : String := String.ofList (decodeLossyList bs)

def encode (s : String) : List UInt8 := s.toUTF8.toList

end Relay.Utf8
