/-!
# Words in hexadecimal

* `hex`: a 32-bit word as `0x` and its two's complement digits in lower case,
  at least four of them.
-/

namespace Reattempt.Text

/-- The lower-case hexadecimal digits of a number, filled with zeros up to `width`. -/
def hexDigits (width n : Nat) : List Char :=
  let digits := Nat.toDigits 16 n
  List.replicate (width - digits.length) '0' ++ digits

/-- A word as `0x` and at least four digits; a negative one as its two's complement. -/
def hex (word : Int32) : String := "0x" ++ String.ofList (hexDigits 4 word.toUInt32.toNat)

end Reattempt.Text
