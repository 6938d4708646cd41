import Foreign.CType.Equality

/-!
Function signatures: the types of the parameters in order, and the type of the result.
-/

namespace Foreign

structure Signature where
  parameters : List CType
  result : CType
  deriving DecidableEq, Inhabited

namespace Signature

def text (signature : Signature) : String :=
  "(" ++ ", ".intercalate (signature.parameters.map CType.text) ++ ") -> " ++ signature.result.text

end Signature
end Foreign
