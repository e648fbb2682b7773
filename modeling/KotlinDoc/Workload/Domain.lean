import KotlinDoc.Domain.ModuleIndex
import KotlinDoc.Domain.Reference
import KotlinDoc.Domain.Session
import KotlinDoc.Workload.Indexing

namespace KotlinDoc

namespace Workload

def sampleParameter (number : Nat) : Text :=
  let n := decimal number
  match number % 4 with
  | 0 => "a" ++ n ++ ": Int"
  | 1 => "b" ++ n ++ ": Map<String, List<Int>>"
  | 2 => "c" ++ n ++ ": (Int, Int) -> Unit = \x7b x, y -> x \x7d"
  | _ => "d" ++ n ++ ": Array<Pair<Int, String>> = arrayOf()"

def sampleParameters (count : Nat) : Text :=
  Text.joined ", " ((List.range (max 1 count)).map sampleParameter)

structure SampleDirective where
  type : ObjectType
  owner : Option Text
  signature : Text
  noIndex : Bool := false
  fresh : Bool := false

def sampleDirectives : List SampleDirective :=
  [⟨.classType, none, "Simple", false, false⟩,
   ⟨.classType, some "Container", "Inner", false, false⟩,
   ⟨.classType, none, "Generic<T>", false, false⟩,
   ⟨.classType, none, "Spaced where T : Any", false, false⟩,
   ⟨.classType, none, "Tabbed\there", false, false⟩,
   ⟨.classType, none, "WithSuper : Base, Other", false, false⟩,
   ⟨.dataClass, none, "Point", false, false⟩,
   ⟨.enumClass, none, "Color : Named", false, false⟩,
   ⟨.interface, none, "Shape", false, false⟩,
   ⟨.extension, none, "Extra : Base", false, false⟩,
   ⟨.extension, none, "Lonely", false, false⟩,
   ⟨.objectType, some "Container", "Singleton", false, false⟩,
   ⟨.topFunction, none, "compute(a: Int, b: Map<String, Int>, c: Int = 3) : String", false, false⟩,
   ⟨.function, some "Owner", "noargs()", false, true⟩,
   ⟨.topFunction, none, "generic<T>(item: T) : Unit", false, false⟩,
   ⟨.staticFunction, some "Owner", "helper(z: Int) : Int", false, false⟩,
   ⟨.classMethod, none, "classy(q: Int)", false, false⟩,
   ⟨.initializer, some "Owner", "init(x: Int, y: Int)", false, false⟩,
   ⟨.enumCase, some "Color", "RED(1) = 2", false, false⟩,
   ⟨.enumCase, none, "GREEN = 3", false, false⟩,
   ⟨.enumCase, some "Color", "BLUE()", false, false⟩,
   ⟨.enumCase, none, "YELLOW", false, false⟩,
   ⟨.val, some "Owner", "name : String = \"x\"", false, false⟩,
   ⟨.var, none, "counter : Int", false, false⟩,
   ⟨.var, some "Owner", "plain", false, false⟩,
   ⟨.val, none, "1 is no name", false, false⟩,
   ⟨.var, none, "skip : Int", true, false⟩]

inductive WorkloadError where
  | nothing
  | signature (error : SignatureError)
  | session (error : SessionError)

structure SignatureReport where
  parameters : Nat
  first : Parameter
  last : Parameter
  addresses : List Text
  descriptions : List (Option Description)
  objects : Nat

def describe (directive : SampleDirective) : Except WorkloadError (Option Description) :=
  match Signature.read directive.type directive.owner directive.signature with
  | .ok signature => .ok (some signature.description)
  | .error (.malformedProperty _) => .ok none
  | .error error => .error (.signature error)

def recordAll (table : ObjectTable) :
    List (SampleDirective × List Text) → Except WorkloadError (ObjectTable × List (List Text))
  | [] => .ok (table, [])
  | (directive, anchors) :: rest => do
    let anchors := if directive.fresh then [] else anchors
    let (table, anchors) ← match ← describe directive with
      | none => pure (table, anchors)
      | some description =>
        if directive.type.family == .classLike then pure (table, anchors)
        else
          let session : Session := { table := table, anchors := anchors }
          match session.record directive.type directive.noIndex description with
          | .ok recorded => pure (recorded.session.table, recorded.session.anchors)
          | .error error => throw (.session error)
    let (table, kept) ← recordAll table rest
    return (table, anchors :: kept)

def signatureRun (count : Nat) (anchors : List (List Text)) :
    Except WorkloadError (SignatureReport × List (List Text)) :=
  match Parameter.list? (sampleParameters count) with
  | none => .error (.signature .parameterWithoutType)
  | some parameters =>
    match parameters.head?, parameters.getLast? with
    | some first, some last => do
      let descriptions ← sampleDirectives.mapM describe
      let (table, anchors) ← recordAll {} (sampleDirectives.zip anchors)
      return ({
        parameters := parameters.length
        first := first
        last := last
        addresses := [Link.languageAddress "Boolean", Link.languageAddress "UShortArray"]
        descriptions := descriptions
        objects := table.size }, anchors)
    | _, _ => .error .nothing

def signatureRuns (count : Nat) (anchors : List (List Text)) :
    Nat → Except WorkloadError (List SignatureReport)
  | 0 => .ok []
  | times + 1 => do
    let (report, anchors) ← signatureRun count anchors
    let reports ← signatureRuns count anchors times
    return report :: reports

def signatures (count times : Nat) : Except WorkloadError (List SignatureReport) :=
  signatureRuns count (sampleDirectives.map fun _ => []) times

def className (number : Nat) : Text :=
  "Type" ++ decimal number

def sampleFunction : Text × ObjectEntry :=
  ("helper()", ⟨"functions", "fun", "helper()"⟩)

def sampleTable (count : Nat) : ObjectTable :=
  let classes := (List.range count).map fun number =>
    let type := (ObjectType.ordered[number % 5]?).getD .classType
    let name := type.name ++ " " ++ className number
    (name, (⟨"page" ++ decimal (number % 7), type.name, name⟩ : ObjectEntry))
  ObjectTable.ofList (classes ++ [sampleFunction])

structure TableReport where
  resolved : List Bool
  objects : Nat
  groups : Nat
  entries : Nat
  remaining : Nat

def table? (count : Nat) : Option TableReport :=
  let table := sampleTable count
  let targets : List Text := [className 0, className 0 ++ "?", "[" ++ className 0 ++ "]", "Missing",
    "package.Missing", "Int", className 1]
  match count, ModuleIndex.generate? table with
  | _ + 1, some groups => some {
      resolved := targets.map fun target => (Link.resolve? table target "x").isSome
      objects := table.size
      groups := groups.length
      entries := (groups.flatMap (·.entries)).length
      remaining := (table.eraseDocument "functions").size }
  | _, _ => none

end Workload

end KotlinDoc
