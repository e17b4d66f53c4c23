import SignIn.Text.Pieces
import SignIn.Url.Percent

namespace SignIn.Form

/-- The text of an encoded name or value. -/
def decodeText (text : List Char) : String :=
  String.ofList (Utf8.decodeLossy (Percent.decode (text.map fun c => if c = '+' then ' ' else c)))

/-- The pair of one segment. Without `=` the value is empty. -/
def decodePair (segment : List Char) : String × String :=
  let (name, value) := Text.splitFirst '=' segment
  (decodeText name, decodeText (value.getD []))

/-- The pairs of a form, in order. Empty segments count for nothing. -/
def pairs (text : List Char) : List (String × String) :=
  ((Text.splitOn '&' text).filter (· ≠ [])).map decodePair

/-- Whether a byte stands for itself in a form. -/
def isPlain (b : UInt8) : Bool :=
  let n := b.toNat
  (48 ≤ n && n ≤ 57) || (65 ≤ n && n ≤ 90) || (97 ≤ n && n ≤ 122) ||
    n == 42 || n == 45 || n == 46 || n == 95

/-- The encoded form of one byte. -/
def encodeByte (b : UInt8) : List Char :=
  if isPlain b then [Char.ofNat b.toNat]
  else if b = 0x20 then ['+']
  else Percent.encodeByte b

/-- The encoded form of a text. -/
def encodeText (text : String) : List Char :=
  (Utf8.bytesOf text).flatMap encodeByte

end SignIn.Form
