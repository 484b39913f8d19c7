import Relay.Json.Basic
import Relay.Decimal.Text
/-!
# Writing JSON

The compact form: no blanks, object fields in their (sorted) order, strings with `"` and
`\` escaped, the control characters written `\b`, `\t`, `\n`, `\f`, `\r` or `\u00xx`
(lowercase hexadecimal), every other character as itself. Integers are written in decimal
and doubles in the JSON layout of `Relay.Decimal.Layout`; a double that is not finite,
which no reading produces, is written `null`.
-/
namespace Relay.Json

def escapeChar (c : Char) : String :=
  let n := c.toNat
  if c = '"' then "\\\""
  else if c = '\\' then "\\\\"
  else if n = 8 then "\\b"
  else if n = 9 then "\\t"
  else if n = 10 then "\\n"
  else if n = 12 then "\\f"
  else if n = 13 then "\\r"
  else if n < 0x20 then "\\u00" ++ String.singleton (Nat.digitChar (n / 16)) ++
    String.singleton (Nat.digitChar (n % 16))
  else String.singleton c

def quote (s : String) : String := "\"" ++ String.join (s.toList.map escapeChar) ++ "\""

def Number.text : Number → String
  | .nat n => toString n
  | .neg n => "-" ++ toString n
  | .float bits =>
    if (bits >>> 52) &&& 0x7FF == 0x7FF then "null" else Decimal.Layout.json.render bits

mutual
def write : Json → String
  | .null => "null"
  | .bool b => if b then "true" else "false"
  | .num n => n.text
  | .str s => quote s
  | .arr xs => "[" ++ writeItems xs ++ "]"
  | .obj fs => "\x7b" ++ writeFields fs ++ "\x7d"

def writeItems : List Json → String
  | [] => ""
  | [x] => write x
  | x :: xs => write x ++ "," ++ writeItems xs

def writeFields : List (String × Json) → String
  | [] => ""
  | [(k, v)] => quote k ++ ":" ++ write v
  | (k, v) :: fs => quote k ++ ":" ++ write v ++ "," ++ writeFields fs
end

def writeRecord (fields : List (String × String)) : String :=
  "\x7b" ++ ",".intercalate (fields.map (fun (k, v) => quote k ++ ":" ++ v)) ++ "\x7d"

def bytes (j : Json) : List UInt8 := (write j).toUTF8.toList

end Relay.Json
