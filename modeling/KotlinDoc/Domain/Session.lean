import KotlinDoc.Domain.Signature
import KotlinDoc.Domain.ObjectTable

/-!
# Reading documents

While documents are read, directives are opened and closed. An open class-like directive makes its
class the owner of what is described within it. Each described object becomes an anchor of the
document and is recorded in the table.
-/

namespace KotlinDoc

structure Owner where
  name : Option Text := none
  type : Option Text := none
deriving Repr, DecidableEq

structure OpenDirective where
  type : ObjectType
  described : Bool
deriving Repr, DecidableEq

structure Session where
  table : ObjectTable := {}
  document : Text := "index"
  anchors : List Text := []
  owner : Owner := {}
  opened : List OpenDirective := []
deriving Repr, DecidableEq

inductive SessionError where
  | undescribed
  | unrecorded (name : Text)
  | ownerWithoutType
  | closedWithoutOwner
  | nothingOpen
deriving Repr, DecidableEq

inductive Warning where
  | malformed (signature : Text)
  | duplicate (name document : Text)
deriving Repr, DecidableEq

/-- The text of a warning, where `pathOf` tells the paths of documents. -/
def Warning.text (pathOf : Text → Text) : Warning → Text
  | .malformed signature =>
    "invalid variable/constant documentation string \"" ++ signature ++ "\", "
  | .duplicate name document =>
    "duplicate object description of " ++ name ++ ", other instance in " ++ pathOf document

namespace Session

/-! ## Objects -/

structure Recorded where
  session : Session
  anchors : List Text
  warnings : List Warning

/-- Records a description in the table and among the anchors, unless its full name is already one of
the document's anchors. -/
def record (session : Session) (type : ObjectType) (noIndex : Bool) (description : Description) :
    Except SessionError Recorded :=
  if noIndex || !description.indexed then .ok ⟨session, [], []⟩
  else if session.anchors.contains description.fullName then
    match session.table.get? description.fullName with
    | some entry =>
      .ok ⟨session, [], [.duplicate description.fullName entry.document]⟩
    | none => .error (.unrecorded description.fullName)
  else
    let anchors :=
      if session.anchors.contains description.anchor then session.anchors
      else session.anchors ++ [description.anchor]
    let entry := ⟨session.document, type.name, description.anchor⟩
    .ok ⟨{ session with
        anchors := anchors
        table := session.table.insert description.fullName entry },
      [description.anchor], []⟩

/-! ## Content -/

def enterClass (session : Session) (type : ObjectType) (description : Description) :
    Except SessionError Session :=
  match Text.cutFirst ' ' description.anchor with
  | (_, some name) => .ok { session with owner := ⟨some name, some type.name⟩ }
  | (_, none) => .error .ownerWithoutType

def enter (session : Session) (type : ObjectType) (descriptions : List Description) :
    Except SessionError Session :=
  match type.family, descriptions with
  | .classLike, description :: _ => session.enterClass type description
  | _, _ => .ok session

/-! ## Directives -/

inductive SignatureEntry where
  | failed (error : SignatureError)
  | described (description : Description) (anchors : List Text) (nodes : List SignatureNode)

structure Opening where
  session : Session
  descriptions : List Description := []
  entries : List SignatureEntry := []
  warnings : List Warning := []

def readSignature (type : ObjectType) (noIndex : Bool) (opening : Opening) (signature : Text) :
    Opening × Option SessionError :=
  match Signature.read type opening.session.owner.name signature with
  -- The signature of a property ends the directive; any other that cannot be read is passed over.
  | .error (.malformedProperty s) =>
    ({ opening with warnings := opening.warnings ++ [.malformed s] }, some .undescribed)
  | .error error => ({ opening with entries := opening.entries ++ [.failed error] }, none)
  | .ok result =>
    let description := result.description
    -- Only the first of equal descriptions is recorded.
    if opening.descriptions.contains description then
      ({ opening with
        entries := opening.entries ++ [.described description [] result.nodes] }, none)
    else match opening.session.record type noIndex description with
      | .error error =>
        ({ opening with descriptions := opening.descriptions ++ [description] }, some error)
      | .ok recorded =>
        ({ session := recorded.session
           descriptions := opening.descriptions ++ [description]
           entries := opening.entries ++ [.described description recorded.anchors result.nodes]
           warnings := opening.warnings ++ recorded.warnings }, none)

def readSignatures (type : ObjectType) (noIndex : Bool) (opening : Opening) :
    List Text → Opening × Option SessionError
  | [] => (opening, none)
  | signature :: signatures =>
    match readSignature type noIndex opening signature with
    | (opening, none) => readSignatures type noIndex opening signatures
    | (opening, some error) => (opening, some error)

structure Step (α : Type) where
  session : Session
  warnings : List Warning := []
  result : Except SessionError α

def openDirective (session : Session) (type : ObjectType) (noIndex : Bool)
    (signatures : List Text) : Step (List SignatureEntry) :=
  match readSignatures type noIndex ⟨session, [], [], []⟩ signatures with
  | (opening, some error) => ⟨opening.session, opening.warnings, .error error⟩
  | (opening, none) =>
    match opening.session.enter type opening.descriptions with
    | .error error => ⟨opening.session, opening.warnings, .error error⟩
    | .ok session =>
      let directive := ⟨type, !opening.descriptions.isEmpty⟩
      ⟨{ session with opened := directive :: session.opened }, opening.warnings,
        .ok opening.entries⟩

def close (session : Session) : Step Unit :=
  match session.opened with
  | [] => ⟨session, [], .error .nothingOpen⟩
  | directive :: opened =>
    let session := { session with opened := opened }
    if directive.type.family != .classLike then ⟨session, [], .ok ()⟩
    else if directive.described then ⟨{ session with owner := {} }, [], .ok ()⟩
    else ⟨session, [], .error .closedWithoutOwner⟩

def enterContent (session : Session) (type : ObjectType) (descriptions : List Description) :
    Step Unit :=
  match session.enter type descriptions with
  | .ok session => ⟨session, [], .ok ()⟩
  | .error error => ⟨session, [], .error error⟩

/-! ## Documents -/

def startDocument (session : Session) (document : Text) : Session :=
  { session with document := document, anchors := [] }

def clearDocument (session : Session) (document : Text) : Session :=
  { session with table := session.table.eraseDocument document }

end Session

end KotlinDoc
