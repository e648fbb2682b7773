import KotlinDoc.Page.Document
import KotlinDoc.Text.Word

namespace KotlinDoc

inductive Flag where
  | help
  | hidden
  | overwrite
  | undocumented
  | noMembers
  | noIndex
  | noIndexMembers
deriving Repr, DecidableEq

namespace Flag

def name : Flag → Text
  | .help => "--help"
  | .hidden => "--private"
  | .overwrite => "--overwrite"
  | .undocumented => "--undoc-members"
  | .noMembers => "--no-members"
  | .noIndex => "--no-index"
  | .noIndexMembers => "--no-index-members"

def all : List Flag :=
  [.help, .hidden, .overwrite, .undocumented, .noMembers, .noIndex, .noIndexMembers]

def named? (name : Text) : Option Flag :=
  if name == "-h" then some .help else all.find? fun flag => flag.name == name

def starting (start : Text) : List Flag :=
  all.filter fun flag => Text.startsWith start flag.name

end Flag

inductive Argument where
  | path (text : Text)
  | option (flag : Flag)
  | unknown
  | valued
  | ambiguous
deriving Repr, DecidableEq

namespace Argument

def isNegative : Text → Bool
  | '-' :: s =>
    let s := if Text.endsWith "\n" s then s.dropLast else s
    match Text.cutFirst '.' s with
    | (whole, none) => !whole.isEmpty && whole.all isDecimalDigit
    | (whole, some decimals) =>
      whole.all isDecimalDigit && !decimals.isEmpty && decimals.all isDecimalDigit
  | _ => false

def dashed (argument : Text) : Argument :=
  if isNegative argument || argument.contains ' ' then .path argument else .unknown

def shortHelp (letters : Text) : Argument :=
  if letters.all (· == 'h') then .option .help else .valued

def ofText (argument : Text) : Argument :=
  if !Text.startsWith "-" argument || argument.length == 1 then .path argument
  else match Flag.named? argument with
    | some flag => .option flag
    | none =>
      let (start, value) := Text.cutFirst '=' argument
      if Text.startsWith "--" argument then
        if value.isSome && (Flag.named? start).isSome then .valued
        else match Flag.starting start with
          | [] => dashed argument
          | [flag] => if value.isSome then .valued else .option flag
          | _ => .ambiguous
      else if start == "-h" then
        if value == some [] then .valued else shortHelp (value.getD [])
      else if Text.startsWith "-h" argument then shortHelp (argument.drop 2)
      else dashed argument

end Argument

structure Arguments where
  source : Text
  documentation : Text
  overwrite : Bool
  selection : Selection
deriving Repr, DecidableEq

inductive Request where
  | run (arguments : Arguments)
  | unplaced (source : Text)
  | help
  | refused
deriving Repr, DecidableEq

namespace Arguments

def dashes : Text :=
  "--"

def splitAtDashes : List Text → List Text × Option (List Text)
  | [] => ([], none)
  | argument :: arguments =>
    if argument == dashes then ([], some arguments)
    else
      let (before, after) := splitAtDashes arguments
      (argument :: before, after)

def paths (arguments : List Argument) : List Text :=
  arguments.filterMap fun
    | .path text => some text
    | _ => none

def dashesFit (before : List Argument) (after : List Text) : Bool :=
  !after.isEmpty || match before.getLast? with
    | some (.path _) => true
    | _ => false

def asksHelp : List Argument → Bool
  | [] => false
  | .option .help :: _ => true
  | .valued :: _ => false
  | _ :: arguments => asksHelp arguments

/-- The two dashes that end the options come right before the documentation path: an option stands
between the source path and them. -/
def dashesAfterSource (before : List Argument) : Bool :=
  !(paths before).isEmpty && match before.getLast? with
    | some (.option _) => true
    | _ => false

def selectionOf (arguments : List Argument) : Selection where
  hidden := arguments.contains (.option .hidden)
  undocumented := arguments.contains (.option .undocumented)
  members := !arguments.contains (.option .noMembers)
  noIndex := arguments.contains (.option .noIndex)
  noIndexMembers := arguments.contains (.option .noIndexMembers)

def parse (line : List Text) : Request :=
  let (before, after) := splitAtDashes line
  let before := before.map Argument.ofText
  -- Arguments are told apart before any of them is acted on.
  if before.contains .ambiguous then .refused
  else if asksHelp before then .help
  else if before.contains .unknown || before.contains .valued then .refused
  else if !(after.map (dashesFit before)).getD true then .refused
  else match paths before ++ after.getD [] with
    | [source, documentation] =>
      if documentation == dashes && !dashesAfterSource before then .unplaced source
      else .run {
        source := source
        documentation := documentation
        overwrite := before.contains (.option .overwrite)
        selection := selectionOf before }
    | _ => .refused

end Arguments

end KotlinDoc
