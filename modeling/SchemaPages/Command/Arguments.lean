import SchemaPages.Command.Line

/-!
Reading a command line. Names with dashes are switches and options, which stand anywhere; other
arguments are the name of a command and then go to the places of that command in their order.
After two dashes alone every argument goes to a place. A value is taken in only when the next thing
begins, so that of several faults the first one to be met counts.
-/

namespace SchemaPages.Command

inductive Switch where
  | verbose
  | noAssets
  | help
  | version
deriving DecidableEq

/-- What holds a value: options, which are given by name, and places. -/
inductive Slot where
  | format
  | config
  | title
  | out
  | schema
  | names
deriving DecidableEq

def Switch.name : Switch → String
  | .verbose => "verbose"
  | .noAssets => "no-assets"
  | .help => "help"
  | .version => "version"

def Switch.letter? : Switch → Option Char
  | .verbose => some 'v'
  | .noAssets => none
  | .help => some 'h'
  | .version => some 'V'

namespace Slot

def name : Slot → String
  | .format => "format"
  | .config => "config"
  | .title => "title"
  | .out => "out"
  | .schema => "schema"
  | .names => "names"

def letter? : Slot → Option Char
  | .config => some 'c'
  | .out => some 'o'
  | _ => none

/-- The value is a path, which cannot be empty. -/
def holdsPath : Slot → Bool
  | .config | .out | .schema => true
  | .format | .title | .names => false

def isList : Slot → Bool
  | .names => true
  | _ => false

end Slot

inductive Verb where
  | list
  | render
  | assets
deriving DecidableEq

/-- What may stand on one part of the line: before the command, or after it. -/
structure Grammar where
  switches : List Switch
  options : List Slot
  places : List Slot
  /-- What is wrong with an argument for which there is no place. -/
  surplus : Stop

def Grammar.top : Grammar where
  switches := [.verbose, .help, .version]
  options := [.format]
  places := []
  surplus := .unknownCommand

def Verb.grammar : Verb → Grammar
  | .list => {
      switches := [.verbose, .help]
      options := [.format]
      places := [.schema]
      surplus := .unknownArgument }
  | .render => {
      switches := [.verbose, .noAssets, .help]
      options := [.format, .config, .title]
      places := [.schema, .names]
      surplus := .unknownArgument }
  | .assets => {
      switches := [.verbose, .noAssets, .help]
      options := [.format, .config, .out]
      places := [.schema]
      surplus := .unknownArgument }

/-- What a name or a letter after dashes stands for. -/
inductive Dashed where
  | switch (switch : Switch)
  | option (slot : Slot)

namespace Grammar

def named? (grammar : Grammar) (name : String) : Option Dashed :=
  ((grammar.switches.find? (·.name = name)).map .switch).or
    ((grammar.options.find? (·.name = name)).map .option)

def lettered? (grammar : Grammar) (c : Char) : Option Dashed :=
  ((grammar.switches.find? (·.letter? = some c)).map .switch).or
    ((grammar.options.find? (·.letter? = some c)).map .option)

end Grammar

structure Found where
  /-- The places that are still to be filled. -/
  places : List Slot
  switches : List Switch := []
  values : List (Slot × String) := []
  /-- The slot that was met last with its values, which are not taken in yet. -/
  pending : Option (Slot × List String) := none

namespace Found

def value? (found : Found) (slot : Slot) : Option String :=
  found.values.lookup slot

def all (found : Found) (slot : Slot) : List String :=
  (found.values.filter (·.1 = slot)).map (·.2)

def has (found : Found) (switch : Switch) : Bool :=
  found.switches.contains switch

/-- An option has been named whose value is to come. -/
def isWaiting (found : Found) : Bool :=
  match found.pending with
  | some (_, []) => true
  | _ => false

def settle (found : Found) : Except Stop Found :=
  match found.pending with
  | none => .ok found
  | some (slot, values) =>
    if values.isEmpty then .error .badValue
    else if !slot.isList && (found.value? slot).isSome then .error .repeated
    else if slot.holdsPath && values.any (·.isEmpty) then .error .badValue
    else
      let taken := values.map fun value => (slot, value)
      .ok { found with values := found.values ++ taken, pending := none }

def turnOn (found : Found) (switch : Switch) : Except Stop Found := do
  let found ← found.settle
  match switch with
  | .help => .error .helpWanted
  | .version => .error .versionWanted
  | _ =>
    if found.has switch then .error .repeated
    else return { found with switches := switch :: found.switches }

def meet (found : Found) (slot : Slot) : Option String → Except Stop Found
  | none => do
    let found ← found.settle
    return { found with pending := some (slot, []) }
  | some value => do
    let found ← found.settle
    settle { found with pending := some (slot, [value]) }

def place (grammar : Grammar) (found : Found) (text : String) : Except Stop Found :=
  match found.places with
  | [] => .error grammar.surplus
  | slot :: rest =>
    if slot.isList then
      match found.pending with
      | some (pending, values) => do
        if pending = slot then return { found with pending := some (slot, values ++ [text]) }
        let found ← found.settle
        return { found with pending := some (slot, [text]) }
      | none => .ok { found with pending := some (slot, [text]) }
    else do
      let found ← found.settle
      return { found with places := rest, pending := some (slot, [text]) }

/-- A name after two dashes, with a value after the first equals sign, if there is one. -/
def longName (grammar : Grammar) (found : Found) (text : List Char) : Except Stop Found :=
  let name := String.ofList (text.takeWhile (· ≠ '='))
  let value? :=
    match text.dropWhile (· ≠ '=') with
    | [] => none
    | _ :: value => some (String.ofList value)
  match grammar.named? name, value? with
  | none, _ => .error .unknownArgument
  | some (.switch _), some _ => .error .valueOnSwitch
  | some (.switch switch), none => found.turnOn switch
  | some (.option slot), value? => found.meet slot value?

/-- The value that follows the letter of an option, with or without an equals sign. -/
def attached? : List Char → Option String
  | [] => none
  | '=' :: value => some (String.ofList value)
  | value => some (String.ofList value)

/-- Letters after one dash. What follows the letter of an option is its value. -/
def letters (grammar : Grammar) (found : Found) : List Char → Except Stop Found
  | [] => .ok found
  | c :: rest =>
    match grammar.lettered? c with
    | none => .error .unknownArgument
    | some (.switch switch) => do letters grammar (← found.turnOn switch) rest
    | some (.option slot) => found.meet slot (attached? rest)

/-- An argument other than two dashes alone. -/
def take (grammar : Grammar) (found : Found) (argument : String) : Except Stop Found :=
  match argument.toList with
  | '-' :: '-' :: name => longName grammar found name
  | '-' :: c :: rest => letters grammar found (c :: rest)
  | _ =>
    match found.pending with
    | some (slot, []) => .ok { found with pending := some (slot, [argument]) }
    | _ => found.place grammar argument

def readAll (grammar : Grammar) (found : Found) : List String → Except Stop Found
  | [] => found.settle
  | argument :: rest =>
    if argument = "--" then do settle (← rest.foldlM (place grammar) found)
    else do readAll grammar (← found.take grammar argument) rest

end Found

namespace Verb

def request (verb : Verb) (found : Found) : Except Stop Request :=
  match found.value? .schema with
  | none => .error .missingArgument
  | some schema =>
    let config := found.value? .config
    let noAssets := found.has .noAssets
    match verb with
    | .list => .ok (.list schema)
    | .render =>
      match found.all .names with
      | [] => .error .missingArgument
      | names => .ok (.render schema names config ⟨found.value? .title, noAssets⟩)
    | .assets => .ok (.assets schema config noAssets (found.value? .out))

end Verb

/-- What an argument names before there is a command. -/
inductive Topic where
  | help
  | verb (verb : Verb)

def Topic.named? : String → Option Topic
  | "help" => some .help
  | "list" => some (.verb .list)
  | "render" => some (.verb .render)
  | "assets" => some (.verb .assets)
  | _ => none

namespace Line

def helpStop : List String → Stop
  | [] => .helpWanted
  | [name] => if (Topic.named? name).isSome then .helpWanted else .unknownCommand
  | _ => .unknownCommand

/-- Reads a command whose name has been met. What it says after the name counts for more than what
was said before. -/
def readVerb (before : Found) (verb : Verb) (arguments : List String) : Except Stop Line := do
  let after ← Found.readAll verb.grammar { places := verb.grammar.places } arguments
  let request ← verb.request after
  let before ← before.settle
  return {
    verbose := before.has .verbose || after.has .verbose
    format := ((after.value? .format).or (before.value? .format)).getD Report.Format.default.name
    request := request }

/-- The line ends before a command has been named. -/
def readEnd (found : Found) : Stop :=
  match found.settle with
  | .error stop => stop
  | .ok found =>
    if found.switches.isEmpty && found.values.isEmpty then .empty else .missingCommand

/-- A command cannot be named after two dashes. -/
def readAfterDashes (found : Found) : List String → Stop
  | [] => readEnd found
  | name :: _ => if (Topic.named? name).isSome then .unknownArgument else .unknownCommand

def readFrom (found : Found) : List String → Except Stop Line
  | [] => .error (readEnd found)
  | argument :: rest =>
    match if found.isWaiting then none else Topic.named? argument with
    | some .help => .error (helpStop rest)
    | some (.verb verb) => readVerb found verb rest
    | none =>
      if argument = "--" then .error (readAfterDashes found rest)
      else do readFrom (← found.take .top argument) rest

def read (arguments : List String) : Except Stop Line :=
  readFrom { places := [] } arguments

end Line

end SchemaPages.Command
