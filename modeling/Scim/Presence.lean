import Scim.Record.Address
import Scim.Report
import Scim.Schema.Attributes

/-!
# Presence of attributes

Whether an attribute has to be in a message, and whether it may be, is a question apart from whether its
value is right.  A request must not carry what the service provides; a response must not carry what is never
returned or what the client did not ask for; and a required attribute must not be absent, unless it belongs
to an extension that may be left out, or the client asked for other attributes.

A client can ask for certain attributes only, or for all but certain ones.

## Main results

* `Presence.mayReturn_of_asked`: an attribute that the client asked for may be returned, unless none ever is.
-/

namespace Scim

/-- A message in which attributes are present or absent. -/
inductive Message where
  /-- From a client to the service. -/
  | request
  /-- From the service to a client. -/
  | response
deriving DecidableEq, Repr

/-- The attributes that a client asks for. -/
inductive Selection where
  | everything
  | only (paths : List BoundPath)
  | allBut (paths : List BoundPath)

namespace Selection

/-- The attributes that are named. -/
def paths : Selection → List BoundPath
  | .everything => []
  | .only paths => paths
  | .allBut paths => paths

/-- Whether an attribute is named itself. -/
def names (selection : Selection) (path : BoundPath) : Bool := selection.paths.contains path

/-- Whether one of its sub-attributes is named or, for a sub-attribute, its parent. -/
def namesRelative (selection : Selection) (path : BoundPath) : Bool :=
  selection.paths.any fun named =>
    match path.rep.sub with
    | none => named.rep.sub.isSome && named.topLevel == path
    | some _ => named.rep.sub.isNone && path.topLevel == named

end Selection

/-- The rules of presence for one message. -/
structure Presence where
  selection : Selection := .everything
  /-- The attributes that a request may carry although the service provides them. -/
  tolerated : List BoundPath := []

namespace Presence

/-- Whether a value counts as present: it is neither absent nor an empty text or list. -/
def isPresent : Value → Bool
  | .missing => false
  | .null => false
  | .text s => !s.isEmpty
  | .list items => !items.isEmpty
  | _ => true

/-- The paths of the attributes that texts name; texts that lead to no attribute are passed over. -/
def resolvePaths (catalog : Catalog) (attrs : SchemaAttributes) (texts : List String) :
    Except Fault (List BoundPath) := do
  let found ← texts.mapM (attrs.lookup catalog)
  return found.filterMap fun attr =>
    match attr.map Attribute.path with
    | some (.bound path) => some path
    | _ => none

/-- Whether an attribute may be part of a response. -/
def mayReturn (presence : Presence) (returned : Returned) (path : BoundPath) : Bool :=
  match returned, presence.selection with
  | .always, _ => true
  | .never, _ => false
  | _, .only paths => Selection.names (.only paths) path || Selection.namesRelative (.only paths) path
  | .request, _ => false
  | .default, .everything => true
  | .default, .allBut paths => !Selection.names (.allBut paths) path

/-- Whether the service provides an attribute, so that a request does not. -/
def isProvided (presence : Presence) (attr : Attribute) (path : BoundPath) : Bool :=
  attr.traits.issuer == .server && !presence.tolerated.contains path

/-- Whether an attribute is expected in a message. -/
def isExpected (presence : Presence) (message : Message) (attr : Attribute) (path : BoundPath) : Bool :=
  presence.selection.paths.isEmpty
    || (match presence.selection with
      | .only paths => paths.contains path
      | _ => false)
    || (message == .response && attr.traits.returned == .always)

/-- Checks one value.  The attribute is in scope unless its extension may be left out. -/
def checkValue (presence : Presence) (message : Message) (attr : Attribute) (path : BoundPath)
    (inScope : Bool) (value : Value) : Report :=
  let provided := presence.isProvided attr path
  if isPresent value then
    match message with
    | .request => if provided then .ofViolation .notForRequest true else .empty
    | .response =>
      if presence.mayReturn attr.traits.returned path then .empty
      else .ofViolation .notForResponse true
  else if attr.traits.required && inScope && !(message == .request && provided)
      && presence.isExpected message attr path then
    .ofViolation .missing false
  else .empty

theorem mayReturn_of_asked {presence : Presence} {paths : List BoundPath} {path : BoundPath}
    {returned : Returned} (hasked : presence.selection = .only paths) (hpath : paths.contains path = true)
    (hreturned : returned ≠ .never) : presence.mayReturn returned path = true := by
  cases returned <;> simp_all [mayReturn, Selection.names, Selection.paths]

/-! ## Complex values -/

/-- Checks a sub-attribute of a record. -/
def checkSubIn (presence : Presence) (message : Message) (inScope : Bool) (sub : Attribute)
    (path : BoundPath) (location : Location) (report : Report) (entries : Record) : Report :=
  report.merge
    (presence.checkValue message sub path inScope (entries.value sub.name.text))
    (location ++ [.ofName sub.name])

/-- Checks a sub-attribute of a value: in a single record, or in each record of a list in which it was not
rejected before. -/
def checkSub (presence : Presence) (message : Message) (inScope multiValued : Bool) (value : Value)
    (location : Location) (report : Report) (sub : Attribute) : Report :=
  match sub.path, multiValued, value with
  | .bound path, false, .record entries =>
    presence.checkSubIn message inScope sub path location report entries
  | .bound path, true, .list items =>
    items.zipIdx.foldl
      (fun report (item, i) =>
        match item with
        | .record entries =>
          if (Record.value entries sub.name.text).isInvalid then report
          else presence.checkSubIn message inScope sub path (location ++ [.index i]) report entries
        | _ => report)
      report
  | _, _, _ => report

/-- Checks an attribute and its sub-attributes. -/
def checkAttribute (presence : Presence) (message : Message) (attrs : SchemaAttributes)
    (record : Record) (report : Report) (attr : Attribute) : Report :=
  match attr.path with
  | .unbound _ => report
  | .bound path =>
    let inScope := !path.extension || (attrs.extension? path.schema).any (·.required)
    let value := record.get (Place.ofBound path)
    let report := report.merge (presence.checkValue message attr path inScope value) path.location
    if value.isAbsent || value.isInvalid then report
    else
      ((attr.subs?).getD []).foldl
        (presence.checkSub message inScope attr.traits.multiValued value path.location) report

/-- Checks which attributes are present in a record. -/
def check (presence : Presence) (message : Message) (attrs : SchemaAttributes) (record : Record) :
    Report :=
  attrs.all.foldl (presence.checkAttribute message attrs record) .empty

end Presence

end Scim
