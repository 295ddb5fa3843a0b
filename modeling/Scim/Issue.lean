import Scim.Json

/-!
# Issues of instance data

What a check can find.  A *violation* is a rule that the data breaks, an *advice* is something that the
data should rather not do.  Each constructor is one cause and carries what its wording needs; from it
follow a stable code, the message, the context in which the message is to be read and, for a violation,
the class under which a service reports it.
-/

namespace Scim

/-- The class under which a service reports a violation. -/
inductive IssueCategory where
  | invalidSyntax
  | invalidValue
deriving DecidableEq, Repr

/-- A rule that the data breaks. -/
inductive Violation where
  /-- The value does not follow the syntax of its type. -/
  | badSyntax
  /-- The value is of another type. -/
  | wrongType (expected : String)
  /-- The text is not encoded as its type asks. -/
  | wrongEncoding (expected : String)
  /-- The content of the value is refused. -/
  | badContent
  /-- A required value is absent. -/
  | missing
  /-- The value is not for the client to give. -/
  | notForRequest
  /-- The value is not for the service to show. -/
  | notForResponse
  /-- The value is none of those that are allowed. -/
  | mustBeOneOf (values : List Json)
  /-- Some value is listed twice. -/
  | duplicates
  /-- The main schema is not listed. -/
  | missingMainSchema
  /-- An extension has data and is not listed. -/
  | missingExtension (uri : String)
  /-- A schema is listed that the resource does not have. -/
  | unknownSchema
  /-- More than one element is marked as the primary one. -/
  | severalPrimaries
  /-- The reference leads to none of the resources it may lead to. -/
  | badReference (resources : List String)
  /-- A text is no path of an attribute. -/
  | badName (attr : String)
  /-- The resource says it is of another type. -/
  | wrongResource (expected provided : String)
  /-- The value or the operation is not supported. -/
  | unsupported

/-- Something that the data should rather not do. -/
inductive Advice where
  /-- The value is none of those that are recommended. -/
  | shouldBeOneOf (values : List Json)
  /-- Two elements have the same type and the same value. -/
  | repeatedPair

namespace Violation

/-- The number by which a violation is known. -/
def code : Violation → Nat
  | .badSyntax => 1
  | .wrongType _ => 2
  | .wrongEncoding _ => 3
  | .badContent => 4
  | .missing => 5
  | .notForRequest => 6
  | .notForResponse => 7
  | .mustBeOneOf _ => 9
  | .duplicates => 10
  | .missingMainSchema => 12
  | .missingExtension _ => 13
  | .unknownSchema => 14
  | .severalPrimaries => 15
  | .badReference _ => 16
  | .badName _ => 17
  | .wrongResource _ _ => 18
  | .unsupported => 31

/-- The sentence that reports a violation. -/
def message : Violation → String
  | .badSyntax => "bad value syntax"
  | .wrongType expected => "bad type, expecting '" ++ expected ++ "'"
  | .wrongEncoding expected => "bad encoding, expecting '" ++ expected ++ "'"
  | .badContent => "bad value content"
  | .missing => "missing"
  | .notForRequest => "must not be provided"
  | .notForResponse => "must not be returned"
  | .mustBeOneOf values => "must be one of: " ++ (Json.list values).render
  | .duplicates => "contains duplicates, which are not allowed"
  | .missingMainSchema => "missing main schema"
  | .missingExtension uri => "missing schema extension '" ++ uri ++ "'"
  | .unknownSchema => "unknown schema"
  | .severalPrimaries => "'primary' attribute set to 'True' MUST appear no more than once"
  | .badReference resources =>
    "bad SCIM reference, allowed resources: " ++ ", ".intercalate resources
  | .badName attr => "bad attribute name '" ++ attr ++ "'"
  | .wrongResource expected provided =>
    "resource type mismatch, expected '" ++ expected ++ "', got '" ++ provided ++ "'"
  | .unsupported => "value or operation not supported"

/-- What the message was made from, by name. -/
def context : Violation → List (String × Json)
  | .wrongType expected => [("expected", .text expected)]
  | .wrongEncoding expected => [("expected", .text expected)]
  | .mustBeOneOf values => [("expected_values", .list values)]
  | .missingExtension uri => [("extension", .text uri)]
  | .badReference resources => [("allowed_resources", .list (resources.map .text))]
  | .badName attr => [("attribute", .text attr)]
  | .wrongResource expected provided =>
    [("resource_type", .text expected), ("provided", .text provided)]
  | _ => []

/-- The class of a violation: of syntax if the text of a value cannot be read, else of value. -/
def category : Violation → IssueCategory
  | .badSyntax => .invalidSyntax
  | _ => .invalidValue

/-- Two violations are equal when they have the same code, message and context. -/
def same (a b : Violation) : Bool :=
  a.code == b.code && a.message == b.message && (Json.object a.context).same (.object b.context)

end Violation

namespace Advice

/-- The number by which an advice is known. -/
def code : Advice → Nat
  | .shouldBeOneOf _ => 1
  | .repeatedPair => 2

/-- The sentence that reports an advice. -/
def message : Advice → String
  | .shouldBeOneOf values => "value should be one of: " ++ (Json.list values).render
  | .repeatedPair =>
    "multi-valued complex attribute should contain a given type-value pair no more than once"

/-- What the message was made from, by name. -/
def context : Advice → List (String × Json)
  | .shouldBeOneOf values => [("expected_values", .list values)]
  | .repeatedPair => []

/-- Two pieces of advice are equal when they have the same code, message and context. -/
def same (a b : Advice) : Bool :=
  a.code == b.code && a.message == b.message && (Json.object a.context).same (.object b.context)

end Advice

end Scim
