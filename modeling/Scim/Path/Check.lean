import Scim.Path
import Scim.Report

/-!
# Paths inside data

A path may itself be a value of instance data, such as the attribute by which a client wants a list sorted.
Then a malformed path, or one of an unknown schema, is an issue of the data and not a fault.
-/

namespace Scim

/-- Reports whether a text is the path of an attribute; if it is not, nothing that needs it can proceed. -/
def Path.check (catalog : Catalog) (text : String) : Report :=
  match Path.parse catalog text with
  | .ok _ => .empty
  | .error _ => .ofViolation (.badName text) false

end Scim
