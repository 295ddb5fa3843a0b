import Scim.Issue

/-!
# Characteristics of attributes

The words with which a schema describes an attribute: the type of its data, who may change it, when it is
returned, where it is unique and who provides it.  Each is a small set of words, and each word has one
name in documents.  A word is read from its name, or from an object that has the name as its only key
and holds null.

## Main results

* `find?_name`: the name of a word is read as that word, for each of the six sets.
-/

namespace Scim

/-- The type of data that an attribute holds. -/
inductive DataType where
  | string
  | boolean
  | decimal
  | integer
  | dateTime
  | binary
  | reference
  | complex
deriving DecidableEq, Repr

/-- Who may change the value of an attribute, and when. -/
inductive Mutability where
  | readOnly
  | readWrite
  | immutable
  | writeOnly
deriving DecidableEq, Repr

/-- When an attribute is part of a response. -/
inductive Returned where
  /-- Unless the request excludes it. -/
  | default
  /-- Whatever the request says. -/
  | always
  | never
  /-- Only if the request names it. -/
  | request
deriving DecidableEq, Repr

/-- Among which values the value of an attribute is unique. -/
inductive Uniqueness where
  | none
  | server
  | global
deriving DecidableEq, Repr

/-- Who provides the value of an attribute. -/
inductive Issuer where
  | server
  | client
  | notSpecified
deriving DecidableEq, Repr

/-- A finite set of words, each with a name of its own. -/
class Word (α : Type) where
  /-- All words of the set. -/
  all : List α
  /-- The name of a word in documents. -/
  name : α → String
  /-- The word that stands where none is given. -/
  default : α

namespace Word

variable {α : Type} [Word α]

/-- The word with a given name. -/
def find? (name : String) : Option α := (all : List α).find? fun word => Word.name word == name

/-- The word that a document spells. -/
def ofJson? : Json → Option α
  | .text name => find? name
  | .object [(name, .null)] => find? name
  | _ => none

end Word

instance : Word DataType where
  all := [.string, .boolean, .decimal, .integer, .dateTime, .binary, .reference, .complex]
  name
    | .string => "string"
    | .boolean => "boolean"
    | .decimal => "decimal"
    | .integer => "integer"
    | .dateTime => "dateTime"
    | .binary => "binary"
    | .reference => "reference"
    | .complex => "complex"
  default := .string

instance : Word Mutability where
  all := [.readOnly, .readWrite, .immutable, .writeOnly]
  name
    | .readOnly => "readOnly"
    | .readWrite => "readWrite"
    | .immutable => "immutable"
    | .writeOnly => "writeOnly"
  default := .readWrite

instance : Word Returned where
  all := [.default, .always, .never, .request]
  name
    | .default => "default"
    | .always => "always"
    | .never => "never"
    | .request => "request"
  default := .default

instance : Word Uniqueness where
  all := [.none, .server, .global]
  name
    | .none => "none"
    | .server => "server"
    | .global => "global"
  default := .none

instance : Word Issuer where
  all := [.server, .client, .notSpecified]
  name
    | .server => "SERVER"
    | .client => "CLIENT"
    | .notSpecified => "NOT_SPECIFIED"
  default := .notSpecified

instance : Word IssueCategory where
  all := [.invalidSyntax, .invalidValue]
  name
    | .invalidSyntax => "invalidSyntax"
    | .invalidValue => "invalidValue"
  default := .invalidValue

/-! ## Names are read back -/

theorem DataType.find?_name (word : DataType) : Word.find? (Word.name word) = some word := by
  cases word <;> decide

theorem Mutability.find?_name (word : Mutability) : Word.find? (Word.name word) = some word := by
  cases word <;> decide

theorem Returned.find?_name (word : Returned) : Word.find? (Word.name word) = some word := by
  cases word <;> decide

theorem Uniqueness.find?_name (word : Uniqueness) : Word.find? (Word.name word) = some word := by
  cases word <;> decide

theorem Issuer.find?_name (word : Issuer) : Word.find? (Word.name word) = some word := by
  cases word <;> decide

theorem IssueCategory.find?_name (word : IssueCategory) :
    Word.find? (Word.name word) = some word := by
  cases word <;> decide

end Scim
