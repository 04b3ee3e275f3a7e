import SenderPolicy.Text.Basic

/-!
# White space at the ends of text

Blank characters are those with the Unicode property `White_Space`. Only the ends
of text are ever cleared of them; inside text they are characters like others.
-/

namespace SenderPolicy

/-- The Unicode property `White_Space`. -/
def isBlank (c : Char) : Bool :=
  let code := c.toNat
  (0x09 ≤ code && code ≤ 0x0D) || code == 0x20 || code == 0x85 || code == 0xA0
    || code == 0x1680 || (0x2000 ≤ code && code ≤ 0x200A) || code == 0x2028
    || code == 0x2029 || code == 0x202F || code == 0x205F || code == 0x3000

namespace Text

/-- Text without the blanks at its start. -/
def trimStart (text : Text) : Text :=
  text.dropWhile isBlank

/-- Text without the blanks at its end. -/
def trimEnd (text : Text) : Text :=
  text.dropEnd isBlank

/-- Text without the blanks at both ends. -/
def trim (text : Text) : Text :=
  text.trimStart.trimEnd

end Text

end SenderPolicy
