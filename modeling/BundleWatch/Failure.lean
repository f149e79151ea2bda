/-!
# Failures

A failure says what went wrong and, behind it, what that was caused by.
-/

set_option autoImplicit false

namespace BundleWatch

structure Failure where
  text : String
  causes : List String := []
deriving DecidableEq, Inhabited

namespace Failure

def under (f : Failure) (text : String) : Failure := ⟨text, f.text :: f.causes⟩

def message (f : Failure) : String := ": ".intercalate (f.text :: f.causes)

end Failure

end BundleWatch
