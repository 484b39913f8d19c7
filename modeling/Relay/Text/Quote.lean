import Relay.Text.Printable
/-!
# Quoted text

`Text.quote` writes a text between double quotes the way diagnostics show a string value:
a backslash before `"` and `\`, the escapes `\0`, `\t`, `\r` and `\n`, and `\u{…}` with the
code point in lowercase hexadecimal for every character that shows nothing or extends the
one before it. All other characters stand as they are.
-/
namespace Relay.Text

def hexDigits (n : Nat) : String := String.ofList (Nat.toDigits 16 n)

def quoteChar (c : Char) : String :=
  if c = '\\' then "\\\\"
  else if c = '"' then "\\\""
  else if c.toNat = 0 then "\\0"
  else if c = '\t' then "\\t"
  else if c = '\r' then "\\r"
  else if c = '\n' then "\\n"
  else if isGraphemeExtend c || !isPrintable c then "\\u" ++ "\x7b" ++ hexDigits c.toNat ++ "\x7d"
  else String.singleton c

def quote (s : String) : String := "\"" ++ String.join (s.toList.map quoteChar) ++ "\""

end Relay.Text
