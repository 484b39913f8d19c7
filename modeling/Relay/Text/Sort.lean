/-!
# Texts in order

Texts are ordered character by character, by code point, which is the order of their UTF-8
bytes. `Text.sort` puts a list of texts in that order, keeping equal texts in the order they
came in.
-/
namespace Relay.Text

def sort (ts : List String) : List String := ts.mergeSort (fun a b => !(b < a))

end Relay.Text
