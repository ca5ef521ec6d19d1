import LoginThrottle.CommandLine
import LoginThrottle.CommandLine.Help
import LoginThrottle.Rpc.Delivery
import LoginThrottle.Text.Quoted

/-!
# The administrative client

A program that asks a running service for one action and prints how it went.

## Main Definitions

* `Client.Order`: an action and the address of the service
* `Client.read`: the order that arguments spell
* `Client.report`: what is printed about the result of a call
* `Client.run`: what the program does from start to end

## Design Notes

Each command stands for one method of the service. The texts of an action are options of
the command, or the word behind it where there is only one text. None of them may be
missing, but any may be empty: what to make of that is up to the service.
-/

namespace LoginThrottle

namespace Client

/-- The name of the program. -/
def programName : String := "authguard-cli"

/-! ### Commands -/

/-- The command for a method. -/
def commandName : Method → String
  | .limitCheck => "check"
  | .bucketReset => "reset"
  | .listAdd list => list.name ++ "-add"
  | .listDelete list => list.name ++ "-delete"

/-- What a command is good for. -/
def commandPurpose : Method → String
  | .limitCheck => "Check whether a login attempt is allowed"
  | .bucketReset => "Reset the ip and login buckets"
  | .listAdd .white => "Add an address or network (e.g. 10.0.0.0/24) to the white list"
  | .listAdd .black => "Add an address or network to the black list"
  | .listDelete list => "Remove an entry from the " ++ list.name ++ " list"

/-- The method with the given command. -/
def method? (name : String) : Option Method :=
  Method.all.find? fun method => commandName method == name

/-- The texts of an action that are options. -/
def optionNames : Method → List String
  | .limitCheck => Method.limitCheck.fieldNames
  | .bucketReset => Method.bucketReset.fieldNames
  | .listAdd _ | .listDelete _ => []

/-- The texts of an action that are words. -/
def wordNames : Method → List String
  | .limitCheck | .bucketReset => []
  | .listAdd list => (Method.listAdd list).fieldNames
  | .listDelete list => (Method.listDelete list).fieldNames

/-- The options of a command. -/
def commandOptions (method : Method) : OptionSet where
  options := (optionNames method).map fun name => ⟨name, none, true⟩
  tellsVersion := false

/-- The action that the arguments of a command spell. -/
def readAction (method : Method) (arguments : List String) : Except Halt Action :=
  match (commandOptions method).readAll (wordNames method).length arguments with
  | .error halt => .error halt
  | .ok read =>
    let texts := read.options ++ (wordNames method).zip read.words
    if method.fieldNames.all fun name => (texts.lookup name).isSome then
      .ok (method.action fun name => (texts.lookup name).getD "")
    else
      .error .usage

/-! ### Help -/

/-- The command that explains the others. -/
def helpCommand : String := "help"

/-- What that command is good for. -/
def helpPurpose : String := "Print this message or the help of the given subcommand(s)"

/-- The commands and what they are good for. -/
def commandRows : List HelpRow :=
  (Method.all.map fun method => ⟨commandName method, commandPurpose method⟩)
    ++ [⟨helpCommand, helpPurpose⟩]

/-- The address of the service if none is given. -/
def defaultAddress : String := "http://127.0.0.1:50051"

/-- What the program says about itself. -/
def helpPage (address : Option String) : HelpPage where
  purpose := "Authguard admin CLI"
  usage := programName ++ " [OPTIONS] <COMMAND>"
  tables :=
    [⟨"Commands", commandRows⟩,
      ⟨"Options", [.option "addr" "ADDR" ("Server endpoint "
        ++ environmentNote "AUTHGUARD_ADDR" (address.getD "")
        ++ " [default: " ++ defaultAddress ++ "]"), .help, .version]⟩]

/-- What stands for a text in help pages. -/
def placeholder (name : String) : String :=
  name.map Char.toUpper

/-- A table unless it has no rows. -/
def tableUnlessEmpty (title : String) (rows : List HelpRow) : List HelpTable :=
  if rows.isEmpty then [] else [⟨title, rows⟩]

/-- What the program says about a command. -/
def commandPage (method : Method) : HelpPage where
  purpose := commandPurpose method
  usage := " ".intercalate ([programName, commandName method]
    ++ ((optionNames method).map fun name => "--" ++ name ++ " <" ++ placeholder name ++ ">")
    ++ (wordNames method).map fun name => "<" ++ placeholder name ++ ">")
  tables :=
    tableUnlessEmpty "Arguments"
        ((wordNames method).map fun name => ⟨"<" ++ placeholder name ++ ">", ""⟩)
      ++ [⟨"Options",
        ((optionNames method).map fun name => .option name (placeholder name) "") ++ [.help]⟩]

/-- What the program says about the command that explains the others. -/
def helpCommandPage : HelpPage where
  purpose := helpPurpose
  usage := programName ++ " " ++ helpCommand ++ " [COMMAND]..."
  tables := [⟨"Arguments", [⟨"[COMMAND]...", "Print help for the subcommand(s)"⟩]⟩]

/-- The ending of a program that is asked to explain the named commands. -/
def explain (address : Option String) : List String → Ending
  | [] => .printed (helpPage address).render
  | [name] =>
    if name = helpCommand then .printed helpCommandPage.render
    else
      match method? name with
      | some method => .printed (commandPage method).render
      | none => .usage
  | _ => .usage

/-! ### Arguments -/

/-- An action and the address of the service. -/
structure Order where
  address : String
  action : Action
  deriving DecidableEq, Repr

/-- The options in front of the command. -/
def optionSet : OptionSet where
  options := [⟨"addr", none, true⟩]
  tellsVersion := true

/-- The ending of a program whose arguments leave nothing to do, given its help page. -/
def haltEnding (page : HelpPage) : Halt → Ending
  | .usage => .usage
  | .help => .printed page.render
  | .version => .printed (programName ++ " " ++ programVersion ++ "\n")

/-- The action that a command with its arguments spells. -/
def readCommand (address : Option String) (name : String) (arguments : List String) :
    Except Ending Action :=
  if name = helpCommand then .error (explain address arguments)
  else
    match method? name with
    | none => .error .usage
    | some method => (readAction method arguments).mapError (haltEnding (commandPage method))

/-- The order that arguments spell, or else how the program ends. An option overrules the
address that the environment names. -/
def read (address : Option String) (arguments : List String) : Except Ending Order :=
  match optionSet.read arguments with
  | .error halt => .error (haltEnding (helpPage address) halt)
  | .ok found =>
    match found.escaped, found.words with
    | false, name :: rest =>
      let chosen := ((found.value? "addr").or address).getD defaultAddress
      (readCommand address name rest).map (⟨chosen, ·⟩)
    | _, _ => .error .usage

/-! ### The whole run -/

/-- The word for a reply. -/
def replyWord : Reply → String
  | .decision true => "allowed"
  | .decision false => "denied"
  | .done => "ok"

/-- How the status of a call that failed is described. -/
def describeStatus (status : Status) : String :=
  "status: " ++ status.code.name ++ ", message: " ++ quote status.message

/-- What is printed about the result of a call. -/
def report : Except Status Reply → Ending
  | .ok reply => .printed (replyWord reply ++ "\n")
  | .error status => .failed (describeStatus status)

/-- The ending of a program that finds no service at an address. -/
def unreachable (address : String) : Ending :=
  .failed ("failed to connect to " ++ address)

/-- What the program does from start to end, and the state of the service after it. The
environment may name an address, and `serves` tells at which addresses the service is found.
`agent` is how the transport names itself. -/
def run (station : Station) (fresh agent : String) (serves : String → Bool)
    (address : Option String) (arguments : List String) : Ending × Station :=
  match read address arguments with
  | .error ending => (ending, station)
  | .ok order =>
    if serves order.address then
      let (delivery, station) := station.deliver fresh agent ⟨order.action, .empty, none⟩
      (report delivery.result, station)
    else
      (unreachable order.address, station)

end Client

end LoginThrottle
