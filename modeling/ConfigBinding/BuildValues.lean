/-!
# Values fixed when the program is built

The scope that computed keys have unless another is set, and the version of the service. Both are
empty here.
-/

set_option autoImplicit false

namespace ConfigBinding.BuildValues

/-- The scope of computed keys. -/
def scope : String :=
  ""

/-- The version of the service. -/
def serviceVersion : String :=
  ""

end ConfigBinding.BuildValues
