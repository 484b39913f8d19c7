/-!
# Blank characters

The Unicode White_Space property: tab, line feed, vertical tab, form feed, carriage return,
space, U+0085, no-break space U+00A0, U+1680, U+2000 to U+200A, the line and paragraph
separators U+2028 and U+2029, U+202F, U+205F and the ideographic space U+3000. The
zero-width space U+200B and the byte order mark U+FEFF are not blank.

`Text.trim` drops blanks at both ends; `Text.isBlankText` holds of a text that has only
blanks.
-/
namespace Relay.Text

def isBlank (c : Char) : Bool :=
  let n := c.toNat
  (0x9 ≤ n && n ≤ 0xD) || n == 0x20 || n == 0x85 || n == 0xA0 || n == 0x1680 ||
    (0x2000 ≤ n && n ≤ 0x200A) || n == 0x2028 || n == 0x2029 || n == 0x202F ||
    n == 0x205F || n == 0x3000

def trim (s : String) : String :=
  String.ofList ((s.toList.dropWhile isBlank).reverse.dropWhile isBlank).reverse

def isBlankText (s : String) : Bool := s.toList.all isBlank

def isJsonBlank (b : UInt8) : Bool := b == 0x20 || b == 0x0A || b == 0x09 || b == 0x0D

end Relay.Text
