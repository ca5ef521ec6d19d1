import LoginThrottle.Config.Schema
import LoginThrottle.Document

/-!
# Configurations as documents

Configurations are written as documents and read back from them.

## Main Definitions

* `Document.form`: how settings are read from documents
* `Config.toDocument`: a configuration with all its settings
* `Config.ofDocument?`: the configuration that a document holds

## Design Notes

A section may also be a list. Its elements are then the settings in the order of the
schema, and those that are missing at the end have their default values.
-/

namespace LoginThrottle

namespace Document

/-- A section: a table, or a list of settings in order. -/
def settings? (names : List String) : Document → Option (Settings Document)
  | table entries => some fun name => lookup name entries
  | list elements =>
    if elements.length ≤ names.length then
      some fun name => lookup name (names.zip elements)
    else
      none
  | _ => none

/-- The elements of a list. -/
def list? : Document → Option (List Document)
  | list elements => some elements
  | _ => none

/-- A text. -/
def text? : Document → Option String
  | text value => some value
  | _ => none

/-- A number written without a point, from zero to `largestCount`. -/
def count? : Document → Option Nat
  | number (.ofNat value) 0 => if value ≤ largestCount then some value else none
  | _ => none

/-- A flag. -/
def flag? : Document → Option Bool
  | flag value => some value
  | _ => none

/-- One of the given names, as a text or as the only name in a table, with nothing
under it. -/
def choice? (names : List String) : Document → Option String
  | text name => if names.contains name then some name else none
  | table [(name, null)] => if names.contains name then some name else none
  | _ => none

/-- A document that may be null. -/
def present? : Document → Option (Option Document)
  | null => some none
  | document => some (some document)

/-- How settings are read from documents. -/
def form : Form Document where
  settings? := settings?
  list? := list?
  text? := text?
  count? := count?
  flag? := flag?
  choice? := choice?
  present? := present?

end Document

/-- The configuration that a document holds. -/
def Config.ofDocument? (document : Document) : Option Config :=
  Config.read Document.form document

/-! ### Writing -/

open Document (table ofNat flag text texts ofText?)

/-- The settings of the servers. -/
def ServerConfig.toDocument (server : ServerConfig) : Document :=
  table [("grpc_addr", text server.grpcAddress.render),
    ("request_timeout_secs", ofNat server.requestTimeoutSeconds),
    ("http_addr", text server.httpAddress.render)]

/-- The settings of the log. -/
def LoggingConfig.toDocument (logging : LoggingConfig) : Document :=
  table [("level", text logging.level), ("format", text logging.format.name)]

/-- The settings of the refill. -/
def RefillConfig.toDocument (refill : RefillConfig) : Document :=
  table [("count", ofNat refill.count), ("window_secs", ofNat refill.windowSeconds)]

/-- The settings of the removal of buckets. -/
def SweepConfig.toDocument (sweeping : SweepConfig) : Document :=
  table [("enabled", flag sweeping.enabled), ("ttl_secs", ofNat sweeping.ttlSeconds),
    ("interval_secs", ofNat sweeping.intervalSeconds)]

/-- The settings of the throttle. -/
def LimiterConfig.toDocument (limiter : LimiterConfig) : Document :=
  table [("refill_rate", limiter.refill.toDocument), ("request_cost", ofNat limiter.requestCost),
    ("gc", limiter.sweeping.toDocument)]

/-- One limit. -/
def Limit.toDocument (limit : Limit) : Document :=
  table [("dimension", text limit.dimension), ("capacity", ofNat limit.capacity),
    ("description", ofText? limit.description)]

/-- The texts on the two lists. -/
def SeedRules.toDocument (rules : SeedRules) : Document :=
  table [("white", texts rules.white), ("black", texts rules.black)]

/-- A configuration with all its settings. -/
def Config.toDocument (config : Config) : Document :=
  table [("server", config.server.toDocument), ("logging", config.logging.toDocument),
    ("limiter", config.limiter.toDocument),
    ("limits", .list (config.limits.map Limit.toDocument)), ("rules", config.rules.toDocument)]

end LoginThrottle
