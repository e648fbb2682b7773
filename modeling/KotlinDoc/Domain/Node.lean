import KotlinDoc.Text.Basic

namespace KotlinDoc

inductive NodeTag where
  | addition
  | name
  | type
  | parameterList
  | parameter
deriving Repr, DecidableEq

inductive SignatureNode where
  | text (content : Text)
  | element (tag : NodeTag) (raw : Text) (children : List SignatureNode)
  | reference (target : Text) (warns : Bool) (content : Text)
deriving Repr

namespace SignatureNode

def textOf (content : Text) : List SignatureNode :=
  if content.isEmpty then [] else [text content]

def labelled (tag : NodeTag) (raw content : Text) : SignatureNode :=
  element tag raw (textOf content)

def typeAnnotation (type : Text) : SignatureNode :=
  element .type " : " [text " : ", reference type false type]

end SignatureNode

end KotlinDoc
