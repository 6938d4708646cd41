import Foreign.Text.Extension
import Foreign.Text.Hidden

/-!
Characters as messages show them.
-/

namespace Foreign.Text

/-- A character beyond ASCII in quotes. One that shows nothing, or nothing by itself, is given by its code
point. -/
def quoted (c : Char) : String :=
  let code := String.ofList (Nat.toDigits 16 c.toNat)
  if isHidden c || isExtension c then "'\\u\x7b" ++ code ++ "\x7d'" else "'" ++ c.toString ++ "'"

end Foreign.Text
