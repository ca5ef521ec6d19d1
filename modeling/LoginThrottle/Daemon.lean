import LoginThrottle.App
import LoginThrottle.CommandLine
import LoginThrottle.CommandLine.Help
import LoginThrottle.Config.File
import LoginThrottle.Log.Directive

/-!
# The daemon

The program that runs the service: its arguments, what it says while it starts, serves and
stops, and how it ends.

## Main Definitions

* `Daemon.Surroundings`: what the program finds on its host
* `Daemon.Interrupt`: how the program is told to stop
* `Daemon.run`: what the program does from start to end

## Design Notes

Two servers run side by side. When the one for remote calls ends, for whatever reason, the
other one and the housekeeper are stopped. A server that cannot listen at its address fails
at once; only for remote calls is that a failure of the whole program.
-/

namespace LoginThrottle

namespace Daemon

/-- What the program finds on its host. -/
structure Surroundings where
  /-- The content of a file. -/
  file? : String → Option String
  /-- The file that the environment names as the configuration. -/
  configPath : Option String
  /-- What the environment says about the lines of the log. -/
  logRules : Option String
  /-- The other variables of the environment. -/
  environment : List (String × String)

/-- How the program is told to stop. -/
inductive Interrupt
  | terminate
  | keyboard
  deriving DecidableEq, Repr

/-- What the program does from start to end. -/
structure Run where
  ending : Ending
  format : LogFormat
  log : List LogLine
  deriving Repr

/-- A run that ends before the log begins. -/
def Run.silent (ending : Ending) : Run :=
  ⟨ending, .text, []⟩

/-! ### Arguments -/

/-- The name of the program. -/
def programName : String := "authguard"

/-- The options of the program. -/
def optionSet : OptionSet where
  options := [⟨"config", some 'c', false⟩]
  tellsVersion := true

/-- What the program says about itself. -/
def helpPage (surroundings : Surroundings) : HelpPage where
  purpose := "Brute-force protection service for authentication endpoints"
  usage := programName ++ " [OPTIONS]"
  tables := [⟨"Options", [⟨"-c, --config <CONFIG>", "Path to a YAML configuration file "
    ++ environmentNote "AUTHGUARD_CONFIG" (surroundings.configPath.getD "")⟩, .help, .version]⟩]

/-- The ending of a program whose arguments leave nothing to run. -/
def haltEnding (surroundings : Surroundings) : Halt → Ending
  | .usage => .usage
  | .help => .printed (helpPage surroundings).render
  | .version => .printed (programName ++ " " ++ programVersion ++ "\n")

/-- The file with the configuration, if there is to be one. An argument overrules the
environment. -/
def configPath (surroundings : Surroundings) (arguments : List String) :
    Except Halt (Option String) :=
  (optionSet.readAll 0 arguments).map fun read =>
    (read.value? "config").or surroundings.configPath

/-- The configuration of the program. -/
def loadConfig (surroundings : Surroundings) : Option String → Except Fault Config
  | none => .ok {}
  | some path => Config.ofFile (surroundings.file? path) surroundings.environment

/-! ### The log -/

/-- The parts of the program that write lines. -/
def partName (part : String) : String :=
  programName ++ "::" ++ part

/-- What lies below the server for signs of life, as a part of the program. -/
def healthTransport : String := "axum::serve"

/-- What lies below the server for remote calls, as a part of the program. -/
def callTransport : String := "tonic::transport::server"

/-- A line of the main part. -/
def mainLine (level : LogLevel) (message : String) (fields : List String) : LogLine :=
  ⟨level, programName, message, fields⟩

/-- A line of another part. -/
def partLine (level : LogLevel) (part message : String) (fields : List String) : LogLine :=
  ⟨level, partName part, message, fields⟩

/-- A line of what lies below a server and moves bytes. -/
def transportLine (transport message : String) : LogLine :=
  ⟨.trace, transport, message, []⟩

/-- What is said before anything is set up. -/
def greeting : List LogLine :=
  [mainLine .info "Starting Authguard" [], mainLine .info ("Version: " ++ programVersion) [],
    mainLine .info "Configuration loaded" ["grpc_addr", "http_addr", "source"]]

/-- The number of rules to start with in front of the first that is refused. -/
def seededCount (rules : SeedRules) : Nat :=
  ((rules.white ++ rules.black).takeWhile fun text => (AddressSet.read? text).isSome).length

/-- What is said while the lists are filled. -/
def seedLines (rules : SeedRules) : List LogLine :=
  let fields := ["id", "ip_net", "list"]
  (List.replicate (seededCount rules)
    [partLine .trace "rule::storage" "Storing rule" fields,
      partLine .debug "rule::service" "Rule added" fields]).flatten

/-- What is said once the application is set up. -/
def setupLines (config : Config) : List LogLine :=
  List.replicate config.limits.length
      (partLine .info "app" "Limit configured" ["dimension", "capacity"])
    ++ [partLine .info "app" "Rules seeded" ["white", "black"]]

/-- What is said about the housekeeper from its start to its end. -/
def sweeperLines (config : Config) : List LogLine :=
  if config.limiter.sweeping.enabled then
    [partLine .info "limiter::sweeper" "Bucket sweeper started" ["interval_secs", "ttl_secs"],
      partLine .info "limiter::sweeper" "Bucket sweeper stopped" []]
  else
    [partLine .info "app" "Bucket sweeper disabled" []]

/-- What is said about the server for signs of life. -/
def healthLines (config : Config) : List LogLine :=
  if config.server.httpAddress.isLocal then
    [partLine .info "http" "Starting HTTP health server" ["addr"],
      transportLine healthTransport
        "received graceful shutdown signal. Telling tasks to shutdown",
      transportLine healthTransport "signal received, not accepting new connections",
      transportLine healthTransport "waiting for 0 task(s) to finish"]
  else
    [mainLine .error "HTTP health server failed" ["error"]]

/-- What is said when the program is told to stop. -/
def interruptLines : Option Interrupt → List LogLine
  | none => []
  | some .terminate => [mainLine .info "Received SIGTERM, initiating graceful shutdown" []]
  | some .keyboard => [mainLine .info "Received Ctrl+C, initiating graceful shutdown" []]

/-- The fault of a server for remote calls that cannot listen at its address. -/
def listenerFault : Fault :=
  .listener "transport error"

/-- The fault of a server for signs of life whose address another program listens at. -/
def occupiedFault : Fault :=
  .inputOutput "Address already in use (os error 98)"

/-- What is said about the server for remote calls, and the fault it ends with. -/
def serveCalls (config : Config) (interrupt : Option Interrupt) : List LogLine × Option Fault :=
  let started :=
    partLine .info "grpc::server" "Starting gRPC server for AuthLimiter" ["addr"]
  if config.server.grpcAddress.isLocal then
    (started :: interruptLines interrupt
      ++ [transportLine callTransport "signal received, shutting down",
        transportLine callTransport "waiting for 0 connections to close",
        mainLine .info "Authguard stopped" []], none)
  else
    ([started, partLine .error "grpc::server" "gRPC server failed" ["error"]],
      some listenerFault)

/-! ### The whole run -/

/-- What is said with a configuration, and the fault that the program ends with. -/
def serve (config : Config) (interrupt : Option Interrupt) : List LogLine × Option Fault :=
  let begun := greeting ++ seedLines config.rules
  match App.ofConfig config with
  | .error fault => (begun, some fault)
  | .ok _ =>
    let (lines, fault) := serveCalls config interrupt
    (begun ++ setupLines config ++ sweeperLines config ++ healthLines config ++ lines, fault)

/-- The lines of a text in order. -/
def lines (texts : List String) : String :=
  "\n".intercalate texts

/-- What the program does with a configuration. -/
def runWith (surroundings : Surroundings) (interrupt : Option Interrupt) (config : Config) :
    Run :=
  let filter := LogFilter.choose surroundings.logRules config.logging.level
  let (log, fault) := serve config interrupt
  let wanted := log.filter filter.wants
  let ending : Ending :=
    match fault with
    | none => ⟨0, "", lines filter.complaints⟩
    | some fault =>
      let failed := Ending.failed fault.message
      { failed with stderr := lines (filter.complaints ++ [failed.stderr]) }
  ⟨ending, config.logging.format, wanted⟩

/-- What the program does from start to end. -/
def run (surroundings : Surroundings) (arguments : List String)
    (interrupt : Option Interrupt) : Run :=
  match configPath surroundings arguments with
  | .error halt => .silent (haltEnding surroundings halt)
  | .ok path =>
    match loadConfig surroundings path with
    | .error fault => .silent (.failed fault.message)
    | .ok config => runWith surroundings interrupt config

end Daemon

end LoginThrottle
