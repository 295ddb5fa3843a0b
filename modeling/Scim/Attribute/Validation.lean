import Scim.Attribute.Shape
import Scim.Attribute
import Scim.Text.Base64
import Scim.Text.Timestamp
import Scim.Url

/-!
# Validating values

A value is checked against an attribute in two passes.  The first looks at its shape, a list if and only if
the attribute is multi-valued, and at the type of each item.  If that does not block the value, the second
checks the rules of the kind for each item: canonical values, the syntax of texts, and the sub-attributes
of records, each by the same two passes.  Hooks run last, as long as nothing blocks the value as a whole.

An item or the value of a sub-attribute that is blocked becomes invalid, so that later checks pass over it
while those beside it are still checked.  Validation gives the report together with the value so marked.

## Main results

* `Attribute.validate_absent`: there is nothing to say about a value that is absent.
* `Attribute.validate_single`, `Attribute.validate_list`, `Attribute.validate_not_list`: the other cases.
-/

namespace Scim

open Text

/-! ## Rules of single items -/

/-- Whether a value has the type of a kind. -/
def Kind.fits : Kind → Value → Bool
  | .unknown, _ => true
  | .boolean, .bool _ => true
  | .integer, .number (.int _) => true
  | .decimal, .number _ => true
  | .string, .text _ => true
  | .binary, .text _ => true
  | .dateTime, .text _ => true
  | .reference _, .text _ => true
  | .complex _, .record _ => true
  | _, _ => false

/-- The word for the values that a kind asks for. -/
def Kind.expected (kind : Kind) : String := (kind.dataType?.map Word.name).getD "any"

/-- Reports that a value has not the type of a kind. -/
def Kind.checkType (kind : Kind) (value : Value) : Report :=
  if kind.fits value then .empty else .ofViolation (.wrongType kind.expected) false

/-- A value of another type is blocked, and no other. -/
theorem Kind.canProceed_checkType (kind : Kind) (value : Value) :
    (kind.checkType value).canProceed [] = kind.fits value := by
  unfold checkType
  cases kind.fits value <;> rfl

/-- Whether a value is one of the canonical ones.  A text that need not be exact is also compared in lower
case, which is how canonical texts are kept then. -/
def isCanonical (caseExact : Bool) (canonical : List Json) (value : Value) : Bool :=
  canonical.any value.sameJson ||
    match value with
    | .text s => !caseExact && canonical.any fun json => match json with
        | .text t => t == lower s
        | _ => false
    | _ => false

/-- Reports that a value is not canonical, and whether that is all there is to report of it. -/
def Traits.checkCanonical (traits : Traits) (value : Value) : Report × Bool :=
  match traits.canonical with
  | none => (.empty, false)
  | some canonical =>
    if isCanonical traits.caseExact canonical.values value then (.empty, false)
    else if canonical.restricted then (.ofViolation (.mustBeOneOf canonical.values) false, true)
    else (Report.empty.addAdvice (.shouldBeOneOf canonical.values) [], false)

/-- Whether a text holds the endpoint of a resource of one of some types. -/
def namesResource (catalog : Catalog) (types : List String) (text : String) : Bool :=
  (types.filterMap catalog.endpoint?).any fun endpoint => contains endpoint.toList text.toList

/-- Reports a text that breaks the syntax of a kind. -/
def Kind.checkText (catalog : Catalog) (kind : Kind) (text : String) : Report :=
  let require (fine : Bool) (violation : Violation) : Report :=
    if fine then .empty else .ofViolation violation false
  match kind with
  | .binary => require (Base64.encodes text) (.wrongEncoding "base64")
  | .dateTime => require (Timestamp.denotes text) .badSyntax
  | .reference .outside => require (Url.namesHost text) .badSyntax
  | .reference (.resource types) => require (namesResource catalog types text) (.badReference types)
  | _ => .empty

/-- Runs a check. -/
def Check.run : Check → Value → Report
  | .singlePrimary => checkSinglePrimary
  | .distinctPairs => checkDistinctPairs
  | .custom _ run => run

/-- Runs checks one after the other as long as nothing blocks the value. -/
def runChecks (checks : List Check) (value : Value) (report : Report) : Report :=
  checks.foldl
    (fun report check =>
      if report.canProceed [] then report.merge (check.run value) [] else report)
    report

/-! ## Lists of items -/

/-- A value after a check: invalid if the check blocked it. -/
def marked (report : Report) (value : Value) : Value :=
  if report.canProceed [] then value else .invalid

/-- Checks the items of a list one by one and adds what is found at their indexes, the first of which is
given.  Gives the list with blocked items marked. -/
def checkItems (check : Value → Report × Value) (report : Report) (index : Nat) :
    List Value → Report × List Value
  | [] => (report, [])
  | item :: items =>
    let (found, item) := check item
    let (report, items) := checkItems check (report.merge found [.index index]) (index + 1) items
    (report, marked found item :: items)

/-- Checks the type of every item of a list, and the list for being one. -/
def Kind.checkTypes (kind : Kind) (multiValued : Bool) (value : Value) : Report × Value :=
  match multiValued, value with
  | false, value => (kind.checkType value, value)
  | true, .list items =>
    let (report, items) := checkItems (fun item => (kind.checkType item, item)) .empty 0 items
    (report, .list items)
  | true, value => (.ofViolation (.wrongType "list") false, value)

/-- A check that passes over items that are invalid already. -/
def unlessInvalid (check : Value → Report × Value) (item : Value) : Report × Value :=
  if item.isInvalid then (.empty, item) else check item

theorem unlessInvalid_of_valid {check : Value → Report × Value} {item : Value}
    (h : item.isInvalid = false) : unlessInvalid check item = check item := by
  simp [unlessInvalid, h]

/-! ## Attributes -/

mutual

/-- Validates a value against an attribute. -/
def Attribute.validate (catalog : Catalog) : Attribute → Value → Report × Value
  | ⟨_, kind, traits, hooks⟩, value =>
    if value.isAbsent then (.empty, value)
    else
      let (types, typed) := kind.checkTypes traits.multiValued value
      if types.canProceed [] then
        let (report, value) := match traits.multiValued, typed with
          | true, .list items =>
            let (report, items) :=
              checkItems (unlessInvalid (Kind.validateItem catalog traits kind)) types 0 items
            (report, Value.list items)
          | _, typed =>
            let (report, value) := Kind.validateItem catalog traits kind typed
            (types.merge report [], value)
        (runChecks hooks.checks value report, value)
      else (types, typed)

/-- Checks a single item that has the type of its kind. -/
def Kind.validateItem (catalog : Catalog) (traits : Traits) : Kind → Value → Report × Value
  | .complex subs, value =>
    let (report, final) := traits.checkCanonical value
    match final, value with
    | false, .record entries =>
      let (report, entries) := validateSubs catalog subs entries report
      (report, .record entries)
    | _, value => (report, value)
  | kind, value =>
    let (report, final) := traits.checkCanonical value
    match final, value with
    | false, .text text => (report.merge (kind.checkText catalog text) [], value)
    | _, value => (report, value)

/-- Validates the sub-attributes that a record has, adds what is found below their names, and gives the
record with blocked values marked. -/
def validateSubs (catalog : Catalog) : List Attribute → Record → Report → Report × Record
  | [], entries, report => (report, entries)
  | sub :: subs, entries, report =>
    let name := sub.name
    match entries.get? name.text with
    | none => validateSubs catalog subs entries report
    | some value =>
      if value.isMissing then validateSubs catalog subs entries report
      else
        let (found, value) := sub.validate catalog value
        validateSubs catalog subs (entries.replace name.text (marked found value))
          (report.merge found [.ofName name])

end

namespace Attribute

/-- Checks the shape of a value and the types of its items. -/
def validateType (attr : Attribute) (value : Value) : Report × Value :=
  attr.kind.checkTypes attr.traits.multiValued value

section

variable {catalog : Catalog} {attr : Attribute} {value : Value}

theorem validate_absent (h : value.isAbsent = true) : attr.validate catalog value = (.empty, value) := by
  obtain ⟨path, kind, traits, hooks⟩ := attr
  simp [validate, h]

/-- What is validated of a value of an attribute that is not multi-valued. -/
theorem validate_single (hsingle : attr.traits.multiValued = false) (h : value.isAbsent = false) :
    attr.validate catalog value =
      if (attr.kind.checkType value).canProceed [] then
        let (report, changed) := attr.kind.validateItem catalog attr.traits value
        (runChecks attr.hooks.checks changed ((attr.kind.checkType value).merge report []), changed)
      else (attr.kind.checkType value, value) := by
  obtain ⟨path, kind, traits, hooks⟩ := attr
  dsimp only at hsingle ⊢
  rw [validate, h, hsingle]
  rfl

/-- What is validated of the list that a multi-valued attribute asks for. -/
theorem validate_list (hmulti : attr.traits.multiValued = true) (items : List Value) :
    attr.validate catalog (.list items) =
      let (types, typed) := checkItems (fun item => (attr.kind.checkType item, item)) .empty 0 items
      if types.canProceed [] then
        let (report, changed) :=
          checkItems (unlessInvalid (attr.kind.validateItem catalog attr.traits)) types 0 typed
        (runChecks attr.hooks.checks (.list changed) report, .list changed)
      else (types, .list typed) := by
  obtain ⟨path, kind, traits, hooks⟩ := attr
  dsimp only at hmulti ⊢
  rw [validate, hmulti]
  rfl

/-- A multi-valued attribute takes nothing but a list. -/
theorem validate_not_list (hmulti : attr.traits.multiValued = true) (h : value.isAbsent = false)
    (hlist : value.list? = none) :
    attr.validate catalog value = (.ofViolation (.wrongType "list") false, value) := by
  obtain ⟨path, kind, traits, hooks⟩ := attr
  dsimp only at hmulti
  rw [validate, hmulti, h]
  cases value with
  | list items => cases hlist
  | _ => rfl

end

end Attribute

end Scim
