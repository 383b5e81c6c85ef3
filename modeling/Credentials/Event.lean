/-!
# Log events

What the library reports about a refusal, besides the error that the caller gets. An event never names
a token, a secret or a text that was sealed.
-/

namespace Credentials

/-- A log event. -/
structure Event where
  /-- What happened. -/
  message : String
  /-- Further facts by name. -/
  fields : List (String × String) := []
  deriving DecidableEq, Repr

end Credentials
