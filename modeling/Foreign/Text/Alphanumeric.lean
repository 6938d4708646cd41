import Foreign.Text.Alphabetic
import Foreign.Text.Numeric

/-!
Letters and digits of every script.
-/

namespace Foreign.Text

def isAlphanumeric (c : Char) : Bool :=
  isAlphabetic c || isNumeric c

end Foreign.Text
