import LoginThrottle.BucketKey
import LoginThrottle.Identity
import LoginThrottle.Limit
import LoginThrottle.Net.SocketAddress
import LoginThrottle.RefillRate

/-!
# Configurations

What an operator sets: where the servers listen, how they log, how buckets refill, the
limits and the rules to start with.

## Main Definitions

* `defaultGrpcAddress` and the like: the values of settings that are not set
* `Config` and its sections, each with a default as a whole
* `Config.flaw?`: the first thing that makes a configuration unsound
* `Config.validate`: a configuration or the fault that refuses it

## Design Notes

A setting that is missing from a section has a default value of its own, and a section that is
missing has the default of all its settings.  Both name the values here.
-/

namespace LoginThrottle

/-- An address on this host that only this host reaches. -/
def loopback (port : Nat) : SocketAddress :=
  .plain (.v4 0x7f000001#32) port

/-- Where calls are taken if nothing else is set. -/
def defaultGrpcAddress : SocketAddress := loopback 50051

/-- Where the state of health is told if nothing else is set. -/
def defaultHttpAddress : SocketAddress := loopback 8080

/-- How long a request may take if nothing else is set. -/
def defaultRequestTimeoutSeconds : Nat := 5

/-- Where the servers listen and how long they let a request take. -/
structure ServerConfig where
  grpcAddress : SocketAddress := defaultGrpcAddress
  requestTimeoutSeconds : Nat := defaultRequestTimeoutSeconds
  httpAddress : SocketAddress := defaultHttpAddress
  deriving DecidableEq, Repr

/-- How log lines are written. -/
inductive LogFormat
  | text
  | json
  deriving DecidableEq, Repr

namespace LogFormat

/-- The name of a log format. -/
def name : LogFormat → String
  | text => "text"
  | json => "json"

/-- All log formats. -/
def all : List LogFormat := [text, json]

/-- The log format with the given name. -/
def ofName? (name : String) : Option LogFormat :=
  all.find? fun format => format.name == name

instance : Inhabited LogFormat := ⟨text⟩

end LogFormat

/-- What is logged if nothing else is set. -/
def defaultLogLevel : String := "info"

/-- What is logged, and how. -/
structure LoggingConfig where
  level : String := defaultLogLevel
  format : LogFormat := default
  deriving DecidableEq, Repr

/-- How many tokens come back per window if nothing else is set. -/
def defaultRefillCount : Nat := 3

/-- The window of the refill if nothing else is set. -/
def defaultRefillWindowSeconds : Nat := 30

/-- How fast buckets refill. -/
structure RefillConfig where
  count : Nat := defaultRefillCount
  windowSeconds : Nat := defaultRefillWindowSeconds
  deriving DecidableEq, Repr

/-- Whether buckets are removed if nothing else is set. -/
def defaultSweepEnabled : Bool := true

/-- How long a bucket that is removed was idle if nothing else is set. -/
def defaultSweepTtlSeconds : Nat := 600

/-- The time between two sweeps if nothing else is set. -/
def defaultSweepIntervalSeconds : Nat := 60

/-- When buckets that nobody uses are removed. -/
structure SweepConfig where
  enabled : Bool := defaultSweepEnabled
  ttlSeconds : Nat := defaultSweepTtlSeconds
  intervalSeconds : Nat := defaultSweepIntervalSeconds
  deriving DecidableEq, Repr

/-- What an attempt costs if nothing else is set. -/
def defaultRequestCost : Nat := 1

/-- How attempts are throttled. -/
structure LimiterConfig where
  refill : RefillConfig := {}
  requestCost : Nat := defaultRequestCost
  sweeping : SweepConfig := {}
  deriving DecidableEq, Repr

/-- The texts on the two lists at the start. -/
structure SeedRules where
  white : List String := []
  black : List String := []
  deriving DecidableEq, Repr

/-- The limits of a service that was told none. -/
def defaultLimits : List Limit :=
  [.plain Dimension.login.name 10, .plain Dimension.password.name 100,
    .plain Dimension.ip.name 1000]

/-- A whole configuration. -/
structure Config where
  server : ServerConfig := {}
  logging : LoggingConfig := {}
  limiter : LimiterConfig := {}
  limits : List Limit := defaultLimits
  rules : SeedRules := {}
  deriving DecidableEq, Repr

/-! ### What the numbers stand for -/

/-- How long a request may take. -/
def ServerConfig.requestTimeout (server : ServerConfig) : Duration :=
  .ofSeconds server.requestTimeoutSeconds

/-- The rate at which buckets refill. -/
def RefillConfig.rate (refill : RefillConfig) : RefillRate :=
  ⟨refill.count, .ofSeconds refill.windowSeconds⟩

/-- How long a bucket must have been idle to be removed. -/
def SweepConfig.ttl (sweeping : SweepConfig) : Duration :=
  .ofSeconds sweeping.ttlSeconds

/-- The time between two sweeps. -/
def SweepConfig.interval (sweeping : SweepConfig) : Duration :=
  .ofSeconds sweeping.intervalSeconds

/-! ### Soundness -/

/-- What makes a configuration unsound. -/
inductive ConfigFlaw
  | emptyWindow
  | freeRequests
  | emptyInterval
  | duplicateLimit (dimension : String)
  | emptyCapacity (dimension : String)
  | badDimension (dimension : String)
  deriving DecidableEq, Repr

/-- The text that describes a flaw to an operator. -/
def ConfigFlaw.message : ConfigFlaw → String
  | emptyWindow => "limiter.refill_rate.window_secs must be positive"
  | freeRequests => "limiter.request_cost must be at least 1"
  | emptyInterval => "limiter.gc.interval_secs must be positive when gc is enabled"
  | duplicateLimit dimension => "duplicate limit for '" ++ dimension ++ "'"
  | emptyCapacity dimension => "limit for '" ++ dimension ++ "' must have a positive capacity"
  | badDimension dimension => "invalid dimension name '" ++ dimension ++ "'"

/-- The first flaw of some limits, behind limits for the dimensions `seen`. -/
def limitFlaw? (seen : List String) : List Limit → Option ConfigFlaw
  | [] => none
  | limit :: rest =>
    if seen.contains limit.dimension then some (.duplicateLimit limit.dimension)
    else if limit.capacity = 0 then some (.emptyCapacity limit.dimension)
    else if !isDimensionName limit.dimension then some (.badDimension limit.dimension)
    else limitFlaw? (limit.dimension :: seen) rest

/-- The first flaw of a configuration. -/
def Config.flaw? (config : Config) : Option ConfigFlaw :=
  if config.limiter.refill.windowSeconds = 0 then some .emptyWindow
  else if config.limiter.requestCost = 0 then some .freeRequests
  else if config.limiter.sweeping.enabled ∧ config.limiter.sweeping.intervalSeconds = 0 then
    some .emptyInterval
  else limitFlaw? [] config.limits

/-- The configuration itself if it is sound. -/
def Config.validate (config : Config) : Except Fault Config :=
  match config.flaw? with
  | none => .ok config
  | some flaw => .error (.configuration flaw.message)

end LoginThrottle
