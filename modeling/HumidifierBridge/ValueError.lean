/-!
# Unusable values

Why a number or a text is not a value of a type that restricts it.
-/

namespace HumidifierBridge

/-- A value outside its range or form. -/
inductive ValueError where
  | outOfRange (min max actual : Int)
  | invalidDsUid (text : String)
  deriving DecidableEq, Repr

/-- The text of a value error. -/
def ValueError.message : ValueError → String
  | .outOfRange min max actual =>
    "value " ++ toString actual ++ " is out of range [" ++ toString min ++ ", " ++
      toString max ++ "]"
  | .invalidDsUid text => "invalid dSUID: " ++ text

end HumidifierBridge
