import SenderPolicy.Text.Basic

/-!
# Percent encoding

A character that a URL keeps as it is stands for itself; every other character is
written as its UTF-8 bytes, each a percent sign and two upper-case digits.
-/

namespace SenderPolicy.Text

/-- The unreserved characters of a URL: ASCII letters, digits, and four marks. -/
def isUnreserved (c : Char) : Bool :=
  c.isAlphanum || c == '-' || c == '.' || c == '_' || c == '~'

/-- A byte as a percent sign and two upper-case hexadecimal digits. -/
def percentByte (byte : UInt8) : Text :=
  ['%', (Nat.digitChar (byte.toNat / 16)).toUpper, (Nat.digitChar (byte.toNat % 16)).toUpper]

/-- A character in percent encoding. -/
def percentChar (c : Char) : Text :=
  if isUnreserved c then [c] else (String.utf8EncodeChar c).flatMap percentByte

/-- Text in percent encoding. -/
def percentEncode (text : Text) : Text :=
  text.flatMap percentChar

end SenderPolicy.Text
