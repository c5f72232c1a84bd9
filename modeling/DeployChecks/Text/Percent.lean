import DeployChecks.Text.Hex

/-!
# Text/Percent — percent encoding

A byte that must not stand for itself is written `%` and two hexadecimal digits.  Main
definitions: `percentEncode` and `percentDecode?`.
-/

namespace DeployChecks

namespace Text

/-- A byte as `%` and two capital hexadecimal digits. -/
def percentByte (b : UInt8) : List Char :=
  '%' :: (hexOfWidth 2 b.toNat).map Char.toUpper

/-- **Encoding**: the characters for which `escape` holds go byte by byte, all others stay. -/
def percentEncode (escape : Char → Bool) (cs : List Char) : List Char :=
  cs.flatMap fun c =>
    if escape c then (String.singleton c).toUTF8.toList.flatMap percentByte else [c]

/-- The bytes that a percent-encoded text stands for; a `%` without two digits is a byte of its
own. -/
def percentBytes : List Char → List UInt8
  | [] => []
  | '%' :: a :: b :: rest =>
    match hexDigit? a, hexDigit? b with
    | some x, some y => UInt8.ofNat (16 * x + y) :: percentBytes rest
    | _, _ => '%'.toNat.toUInt8 :: percentBytes (a :: b :: rest)
  | c :: rest => (String.singleton c).toUTF8.toList ++ percentBytes rest
  termination_by cs => cs.length

/-- **Decoding**, where the bytes have to be a text again. -/
def percentDecode? (cs : List Char) : Option (List Char) :=
  (String.fromUTF8? ⟨(percentBytes cs).toArray⟩).map String.toList

end Text

end DeployChecks
