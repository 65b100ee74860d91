/-!
# Percent-encoding

Characters that mean something in a URL, or that may not stand in one, are written as their UTF-8
bytes, each as a percent sign and two hexadecimal digits.
-/

namespace Daybook.Percent

/-- The characters that divide the parts of a URL. -/
def reserved : List Char :=
  ":/?#[]@!$&'()*+,;=".toList

/-- Whether a character may not stand for itself: it is reserved, a percent sign, or no visible
ASCII character. -/
def isEncoded (c : Char) : Bool :=
  c.toNat ≤ 0x20 || 0x7F ≤ c.toNat || c == '%' || reserved.contains c

/-- A hexadecimal digit in upper case. -/
def hexDigit (n : Nat) : Char :=
  if n < 10 then Char.ofNat ('0'.toNat + n) else Char.ofNat ('A'.toNat + (n - 10))

/-- What stands for one byte. -/
def encodeByte (b : UInt8) : List Char :=
  ['%', hexDigit (b.toNat / 16), hexDigit (b.toNat % 16)]

/-- What stands for one character. -/
def encodeChar (c : Char) : List Char :=
  if isEncoded c then (String.utf8EncodeChar c).flatMap encodeByte else [c]

/-- The encoded form of a text. -/
def encode (text : String) : String :=
  String.ofList (text.toList.flatMap encodeChar)

end Daybook.Percent
