/-!
Why a request of the hypertext protocol gets no response.
-/
set_option autoImplicit false

namespace CaseSuite.Http

inductive Fault where
  /-- The address or a header cannot be written. -/
  | notWritable
  /-- The address is not one of the protocol. -/
  | foreignAddress (url : String)
  | unreachable (url : String)
  deriving DecidableEq, Repr

def Fault.message : Fault → String
  | .notWritable => "builder error"
  | .foreignAddress url => s!"builder error for url ({url})"
  | .unreachable url => s!"error sending request for url ({url})"

end CaseSuite.Http
