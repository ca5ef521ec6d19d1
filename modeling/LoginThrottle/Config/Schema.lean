import LoginThrottle.Config
import LoginThrottle.Rule.Table

/-!
# Reading configurations

The names and kinds of all settings, without regard to the notation they come in.

## Main Definitions

* `Form`: how settings of each kind are read from the nodes of a notation
* `Config.read`: the configuration that a node holds

## Design Notes

A setting that is missing has its default value, and a section that is missing has its
default as a whole. Only the dimension and the capacity of a limit have none, so a limit
without them cannot be read. Settings with unknown names are passed over.
-/

namespace LoginThrottle

/-- What a section holds under the name of a setting. -/
abbrev Settings (Node : Type) := String → Option Node

/-- How settings of each kind are read from the nodes of a notation. -/
structure Form (Node : Type) where
  /-- A section whose settings have the given names, in this order. -/
  settings? : List String → Node → Option (Settings Node)
  list? : Node → Option (List Node)
  text? : Node → Option String
  /-- A whole number from zero to `largestCount`. -/
  count? : Node → Option Nat
  flag? : Node → Option Bool
  /-- One of the given names. -/
  choice? : List String → Node → Option String
  /-- A node that may stand for nothing. -/
  present? : Node → Option (Option Node)

variable {Node : Type} {Value : Type}

/-- A setting with a default value. -/
def Settings.get (settings : Settings Node) (name : String) (read : Node → Option Value)
    (default : Value) : Option Value :=
  match settings name with
  | none => some default
  | some node => read node

/-- A setting without a default value. -/
def Settings.require (settings : Settings Node) (name : String) (read : Node → Option Value) :
    Option Value :=
  (settings name).bind read

namespace Form

/-- A list of settings of one kind. -/
def listOf (form : Form Node) (read : Node → Option Value) (node : Node) :
    Option (List Value) := do
  (← form.list? node).mapM read

/-- A setting that may stand for nothing. -/
def optional (form : Form Node) (read : Node → Option Value) (node : Node) :
    Option (Option Value) := do
  match ← form.present? node with
  | none => return none
  | some node => return some (← read node)

/-- The address of a server. -/
def address? (form : Form Node) (node : Node) : Option SocketAddress := do
  SocketAddress.read? (← form.text? node)

end Form

/-! ### Sections -/

/-- The settings of the servers. -/
def ServerConfig.read (form : Form Node) (node : Node) : Option ServerConfig := do
  let found ← form.settings? ["grpc_addr", "request_timeout_secs", "http_addr"] node
  return {
    grpcAddress := ← found.get "grpc_addr" form.address? defaultGrpcAddress
    requestTimeoutSeconds :=
      ← found.get "request_timeout_secs" form.count? defaultRequestTimeoutSeconds
    httpAddress := ← found.get "http_addr" form.address? defaultHttpAddress }

/-- A log format by its name. -/
def LogFormat.read (form : Form Node) (node : Node) : Option LogFormat := do
  LogFormat.ofName? (← form.choice? (LogFormat.all.map LogFormat.name) node)

/-- The settings of the log. -/
def LoggingConfig.read (form : Form Node) (node : Node) : Option LoggingConfig := do
  let found ← form.settings? ["level", "format"] node
  return {
    level := ← found.get "level" form.text? defaultLogLevel
    format := ← found.get "format" (LogFormat.read form) default }

/-- The settings of the refill. -/
def RefillConfig.read (form : Form Node) (node : Node) : Option RefillConfig := do
  let found ← form.settings? ["count", "window_secs"] node
  return {
    count := ← found.get "count" form.count? defaultRefillCount
    windowSeconds := ← found.get "window_secs" form.count? defaultRefillWindowSeconds }

/-- The settings of the removal of buckets. -/
def SweepConfig.read (form : Form Node) (node : Node) : Option SweepConfig := do
  let found ← form.settings? ["enabled", "ttl_secs", "interval_secs"] node
  return {
    enabled := ← found.get "enabled" form.flag? defaultSweepEnabled
    ttlSeconds := ← found.get "ttl_secs" form.count? defaultSweepTtlSeconds
    intervalSeconds := ← found.get "interval_secs" form.count? defaultSweepIntervalSeconds }

/-- The settings of the throttle. -/
def LimiterConfig.read (form : Form Node) (node : Node) : Option LimiterConfig := do
  let found ← form.settings? ["refill_rate", "request_cost", "gc"] node
  return {
    refill := ← found.get "refill_rate" (RefillConfig.read form) {}
    requestCost := ← found.get "request_cost" form.count? defaultRequestCost
    sweeping := ← found.get "gc" (SweepConfig.read form) {} }

/-- One limit. -/
def Limit.read (form : Form Node) (node : Node) : Option Limit := do
  let found ← form.settings? ["dimension", "capacity", "description"] node
  return {
    dimension := ← found.require "dimension" form.text?
    capacity := ← found.require "capacity" form.count?
    description := ← found.get "description" (form.optional form.text?) none }

/-- A list of rules by its name. -/
def ListKind.read (form : Form Node) (node : Node) : Option ListKind := do
  ListKind.ofName? (← form.choice? (ListKind.all.map ListKind.name) node)

/-- The texts on the two lists. -/
def SeedRules.read (form : Form Node) (node : Node) : Option SeedRules := do
  let found ← form.settings? ["white", "black"] node
  return {
    white := ← found.get "white" (form.listOf form.text?) []
    black := ← found.get "black" (form.listOf form.text?) [] }

/-- The configuration that a node holds. -/
def Config.read (form : Form Node) (node : Node) : Option Config := do
  let found ← form.settings? ["server", "logging", "limiter", "limits", "rules"] node
  return {
    server := ← found.get "server" (ServerConfig.read form) {}
    logging := ← found.get "logging" (LoggingConfig.read form) {}
    limiter := ← found.get "limiter" (LimiterConfig.read form) {}
    limits := ← found.get "limits" (form.listOf (Limit.read form)) defaultLimits
    rules := ← found.get "rules" (SeedRules.read form) {} }

end LoginThrottle
