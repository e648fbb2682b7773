import KotlinDoc.Sorting
import KotlinDoc.Text.Basic

namespace KotlinDoc

inductive Family where
  | classLike
  | callable
  | enumEntry
  | property
deriving Repr, DecidableEq

inductive ObjectType where
  | function
  | topFunction
  | staticFunction
  | classMethod
  | objectType
  | classType
  | enumClass
  | enumCase
  | dataClass
  | initializer
  | constructor
  | interface
  | extension
  | defaultImplementation
  | val
  | var
deriving Repr, DecidableEq

namespace ObjectType

def name : ObjectType → Text
  | .function => "function"
  | .topFunction => "fun"
  | .staticFunction => "static_fun"
  | .classMethod => "class_method"
  | .objectType => "object"
  | .classType => "class"
  | .enumClass => "enum_class"
  | .enumCase => "enum_case"
  | .dataClass => "data_class"
  | .initializer => "init"
  | .constructor => "constructor"
  | .interface => "interface"
  | .extension => "extension"
  | .defaultImplementation => "default_impl"
  | .val => "val"
  | .var => "var"

def label : ObjectType → Text
  | .function => "function"
  | .topFunction => "fun"
  | .staticFunction => "static fun"
  | .classMethod => "class method"
  | .objectType => "object"
  | .classType => "class"
  | .enumClass => "enum class"
  | .enumCase => "enum case"
  | .dataClass => "data class"
  | .initializer => "initializer"
  | .constructor => "constructor"
  | .interface => "interface"
  | .extension => "extension"
  | .defaultImplementation => "default implementation"
  | .val => "constant"
  | .var => "variable"

def family : ObjectType → Family
  | .function | .topFunction | .staticFunction | .classMethod | .initializer | .constructor =>
    .callable
  | .objectType | .classType | .enumClass | .dataClass | .interface | .extension
  | .defaultImplementation => .classLike
  | .enumCase => .enumEntry
  | .val | .var => .property

def roleWord : ObjectType → Text
  | .val => "let"
  | type => type.name

def roles (type : ObjectType) : List Text :=
  [type.name, "obj"]

def all : List ObjectType :=
  [.function, .topFunction, .staticFunction, .classMethod, .objectType, .classType, .enumClass,
   .enumCase, .dataClass, .initializer, .constructor, .interface, .extension,
   .defaultImplementation, .val, .var]

def named? (name : Text) : Option ObjectType :=
  all.find? fun type => type.name == name

def ordered : List ObjectType :=
  [.classType, .dataClass, .enumClass, .interface, .extension]

def roleTarget (type : ObjectType) (target : Text) : Text :=
  if target.contains '.' then target else type.roleWord ++ " " ++ target

end ObjectType

structure DocField where
  name : Text
  label : Text
  names : List Text
  grouped : Bool
  typed : Bool
deriving Repr, DecidableEq

def Family.fields : Family → List DocField
  | .callable =>
    [⟨"parameter", "Parameters", ["param", "parameter", "arg", "argument"], true, true⟩,
     ⟨"errors", "Throws", ["raises", "raise", "exception", "except", "throw", "throws"], true,
      false⟩,
     ⟨"returnvalue", "Returns", ["returns", "return"], false, false⟩]
  | .property => [⟨"defaultvalue", "Default", ["defaults", "default"], false, false⟩]
  | .classLike | .enumEntry => []

structure DomainInfo where
  name : Text
  label : Text
  types : List ObjectType

def kotlinDomain : DomainInfo where
  name := "kotlin"
  label := "Kotlin"
  types := ObjectType.all

def DomainInfo.typeNames (domain : DomainInfo) : List Text :=
  Sorting.sort Text.le (domain.types.map (·.name))

structure MissingModule where
  name : Text
deriving Repr, DecidableEq

/-- Fills the index of a domain from the modules of a program, which takes a module of its own that
the domain does not have. -/
def DomainInfo.fillIndex (_ : DomainInfo) : Except MissingModule Unit :=
  .error ⟨"autodoc"⟩

end KotlinDoc
