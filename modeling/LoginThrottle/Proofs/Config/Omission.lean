import LoginThrottle.Proofs.Config.Loaded

/-!
# Settings that are left out

A configuration that is written as a document is read back.  Where settings are left out of the
document, however deep within it, the defaults of their sections take their places.

## Main Definitions

* `Document.Omission`: the keys that are left out, by the paths to them
* `Document.without`: a document without these keys
* `Config.defaulting`: a configuration with the defaults in the places of settings

## Main Statements

* `Config.read_without`: proper configurations are read with the defaults in these places
* `Config.reads_back`: so are configurations that were loaded, and whole documents give them back

## Design Notes

An omission is asked for the path to each key, so one and the same omission says what is left out
of a document and which settings have their defaults.  Each section looks at the part of it that
is within the section.
-/

namespace LoginThrottle

namespace Document

/-! ### Leaving keys out -/

/-- A step from a document to one within it. -/
inductive Step
  | key (name : String)
  | index (position : Nat)
  deriving DecidableEq, Repr

/-- Whether the key at the end of a path is left out. -/
def Omission := List Step → Bool

namespace Omission

/-- Whether a table is left without a name. -/
def drops (omission : Omission) (name : String) : Bool :=
  omission [.key name]

/-- What is left out behind a step. -/
def within (omission : Omission) (step : Step) : Omission :=
  fun path => omission (step :: path)

/-- The value of a setting, its default if it is left out. -/
def pick {Value : Type} (omission : Omission) (name : String) (default value : Value) : Value :=
  if omission.drops name then default else value

/-- The omission of nothing. -/
def nothing : Omission := fun _ => false

end Omission

mutual

/-- A document without the keys that are left out. -/
def without (omission : Omission) : Document → Document
  | table entries => table (withoutEntries omission entries)
  | list elements => list (withoutElements omission 0 elements)
  | null => null
  | flag value => flag value
  | number mantissa places => number mantissa places
  | text value => text value

/-- The entries of a table that are not left out. -/
def withoutEntries (omission : Omission) : List (String × Document) → List (String × Document)
  | [] => []
  | (name, document) :: rest =>
    if omission.drops name then withoutEntries omission rest
    else (name, document.without (omission.within (.key name))) :: withoutEntries omission rest

/-- The elements of a list from a position on, without the keys that are left out of them. -/
def withoutElements (omission : Omission) (position : Nat) : List Document → List Document
  | [] => []
  | document :: rest =>
    document.without (omission.within (.index position)) ::
      withoutElements omission (position + 1) rest

end

variable {omission : Omission}

theorem lookup_withoutEntries (omission : Omission) (name : String)
    (entries : List (String × Document)) :
    lookup name (withoutEntries omission entries) =
      if omission.drops name then none
      else (lookup name entries).map (without (omission.within (.key name))) := by
  induction entries with
  | nil => simp [withoutEntries, lookup]
  | cons entry rest inductionHypothesis =>
      obtain ⟨other, document⟩ := entry
      rw [withoutEntries]
      by_cases same : other = name
      · subst same
        split
        · next dropped => rw [inductionHypothesis, if_pos dropped]
        · simp [lookup]
      · have apart (held : Document) (others : List (String × Document)) :
            lookup name ((other, held) :: others) = lookup name others := by
          simp [lookup, same]
        rw [apart]
        split
        · exact inductionHypothesis
        · rw [apart, inductionHypothesis]

/-- What a document still holds under a name. -/
theorem entry?_without (omission : Omission) (name : String) (document : Document) :
    entry? name (document.without omission) =
      if omission.drops name then none
      else (document.entry? name).map (without (omission.within (.key name))) := by
  cases document with
  | table entries =>
      rw [without]
      exact lookup_withoutEntries omission name entries
  | _ => simp [without, entry?]

/-! ### Single settings -/

/-- The settings of a table from which keys are left out. -/
def left (document : Document) (omission : Omission) : Settings Document :=
  fun name => entry? name (document.without omission)

variable {document inner : Document} {name : String} {Value : Type}
  {read : Document → Option Value} {value : Value}

/-- A table from which keys are left out is still a table. -/
theorem settings?_without {entries : List (String × Document)}
    (tabular : document = table entries) (names : List String) :
    form.settings? names (document.without omission) = some (document.left omission) := by
  rw [tabular]
  rfl

/-- A setting is read, or its default is taken if it is left out. -/
theorem get_left (entry : document.entry? name = some inner)
    (reads : read (inner.without (omission.within (.key name))) = some value) (default : Value) :
    (document.left omission).get name read default = some (omission.pick name default value) := by
  rw [Settings.get, left, entry?_without, entry, Omission.pick]
  cases omission.drops name with
  | true => rfl
  | false => exact reads

/-- A setting that is not left out is read. -/
theorem require_left (kept : omission.drops name = false)
    (entry : document.entry? name = some inner)
    (reads : read (inner.without (omission.within (.key name))) = some value) :
    (document.left omission).require name read = some value := by
  rw [Settings.require, left, entry?_without, entry, kept]
  exact reads

theorem get_left_count {value : Nat} (entry : document.entry? name = some (ofNat value))
    (fits : value ≤ largestCount) (default : Nat) :
    (document.left omission).get name form.count? default =
      some (omission.pick name default value) :=
  get_left entry (if_pos fits) default

theorem get_left_text {value : String} (entry : document.entry? name = some (text value))
    (default : String) :
    (document.left omission).get name form.text? default =
      some (omission.pick name default value) := by
  refine get_left entry ?_ default
  rfl

theorem get_left_flag {value : Bool} (entry : document.entry? name = some (flag value))
    (default : Bool) :
    (document.left omission).get name form.flag? default =
      some (omission.pick name default value) := by
  refine get_left entry ?_ default
  rfl

theorem get_left_address {address : SocketAddress}
    (entry : document.entry? name = some (text address.render)) (proper : address.IsProper)
    (default : SocketAddress) :
    (document.left omission).get name form.address? default =
      some (omission.pick name default address) :=
  get_left entry (SocketAddress.read?_render proper) default

/-- Nothing can be left out of texts in a list. -/
theorem mapM_texts (omission : Omission) (position : Nat) (values : List String) :
    (withoutElements omission position (values.map text)).mapM form.text? = some values := by
  induction values generalizing position with
  | nil => rfl
  | cons value rest inductionHypothesis =>
      rw [List.map_cons, withoutElements, List.mapM_cons, inductionHypothesis]
      rfl

theorem get_left_texts {values : List String} (entry : document.entry? name = some (texts values))
    (default : List String) :
    (document.left omission).get name (form.listOf form.text?) default =
      some (omission.pick name default values) :=
  get_left entry (mapM_texts _ 0 values) default

/-! ### Nothing left out -/

mutual

theorem without_nothing : ∀ document : Document, document.without .nothing = document
  | table entries => congrArg table (withoutEntries_nothing entries)
  | list elements => congrArg list (withoutElements_nothing 0 elements)
  | null => rfl
  | flag _ => rfl
  | number _ _ => rfl
  | text _ => rfl

theorem withoutEntries_nothing : ∀ entries, withoutEntries .nothing entries = entries
  | [] => rfl
  | (name, document) :: rest => by
      have kept : withoutEntries .nothing ((name, document) :: rest) =
          (name, document.without .nothing) :: withoutEntries .nothing rest := rfl
      rw [kept, without_nothing document, withoutEntries_nothing rest]

theorem withoutElements_nothing :
    ∀ position elements, withoutElements .nothing position elements = elements
  | _, [] => rfl
  | position, document :: rest => by
      have kept : withoutElements .nothing position (document :: rest) =
          document.without .nothing :: withoutElements .nothing (position + 1) rest := rfl
      rw [kept, without_nothing document, withoutElements_nothing (position + 1) rest]

end

end Document

open Document

/-! ### Defaults in the places of settings -/

/-- The settings of the servers, with defaults in the places of those that are left out. -/
def ServerConfig.defaulting (omission : Omission) (server : ServerConfig) : ServerConfig :=
  let default : ServerConfig := {}
  { grpcAddress := omission.pick "grpc_addr" default.grpcAddress server.grpcAddress
    requestTimeoutSeconds :=
      omission.pick "request_timeout_secs" default.requestTimeoutSeconds
        server.requestTimeoutSeconds
    httpAddress := omission.pick "http_addr" default.httpAddress server.httpAddress }

/-- The settings of the log, with defaults. -/
def LoggingConfig.defaulting (omission : Omission) (logging : LoggingConfig) : LoggingConfig :=
  let default : LoggingConfig := {}
  { level := omission.pick "level" default.level logging.level
    format := omission.pick "format" default.format logging.format }

/-- The settings of the refill, with defaults. -/
def RefillConfig.defaulting (omission : Omission) (refill : RefillConfig) : RefillConfig :=
  let default : RefillConfig := {}
  { count := omission.pick "count" default.count refill.count
    windowSeconds := omission.pick "window_secs" default.windowSeconds refill.windowSeconds }

/-- The settings of the removal of buckets, with defaults. -/
def SweepConfig.defaulting (omission : Omission) (sweeping : SweepConfig) : SweepConfig :=
  let default : SweepConfig := {}
  { enabled := omission.pick "enabled" default.enabled sweeping.enabled
    ttlSeconds := omission.pick "ttl_secs" default.ttlSeconds sweeping.ttlSeconds
    intervalSeconds := omission.pick "interval_secs" default.intervalSeconds
      sweeping.intervalSeconds }

/-- The settings of the throttle, with defaults at both levels. -/
def LimiterConfig.defaulting (omission : Omission) (limiter : LimiterConfig) : LimiterConfig :=
  let default : LimiterConfig := {}
  { refill := omission.pick "refill_rate" default.refill
      (limiter.refill.defaulting (omission.within (.key "refill_rate")))
    requestCost := omission.pick "request_cost" default.requestCost limiter.requestCost
    sweeping := omission.pick "gc" default.sweeping
      (limiter.sweeping.defaulting (omission.within (.key "gc"))) }

/-- A limit, without a description if that is left out. -/
def Limit.defaulting (omission : Omission) (limit : Limit) : Limit :=
  { limit with description := omission.pick "description" none limit.description }

/-- The texts on the two lists, with defaults. -/
def SeedRules.defaulting (omission : Omission) (rules : SeedRules) : SeedRules :=
  let default : SeedRules := {}
  { white := omission.pick "white" default.white rules.white
    black := omission.pick "black" default.black rules.black }

/-- A configuration with the defaults in the places of all settings that are left out, of whole
sections, of single settings and of what belongs to a limit. -/
def Config.defaulting (omission : Omission) (config : Config) : Config :=
  let default : Config := {}
  { server := omission.pick "server" default.server
      (config.server.defaulting (omission.within (.key "server")))
    logging := omission.pick "logging" default.logging
      (config.logging.defaulting (omission.within (.key "logging")))
    limiter := omission.pick "limiter" default.limiter
      (config.limiter.defaulting (omission.within (.key "limiter")))
    limits := omission.pick "limits" default.limits
      (config.limits.mapIdx fun position limit =>
        limit.defaulting ((omission.within (.key "limits")).within (.index position)))
    rules := omission.pick "rules" default.rules
      (config.rules.defaulting (omission.within (.key "rules"))) }

/-! ### Sections that are read back -/

theorem ServerConfig.read_without {server : ServerConfig} (proper : server.IsProper)
    (omission : Omission) :
    ServerConfig.read form (server.toDocument.without omission) =
      some (server.defaulting omission) := by
  have grpc := @get_left_address omission server.toDocument "grpc_addr" server.grpcAddress
    rfl proper.grpcAddress
  have timeout := @get_left_count omission server.toDocument "request_timeout_secs"
    server.requestTimeoutSeconds rfl proper.requestTimeoutSeconds
  have http := @get_left_address omission server.toDocument "http_addr" server.httpAddress
    rfl proper.httpAddress
  have opened := @settings?_without omission server.toDocument _ rfl
  simp only [ServerConfig.read, opened, Option.bind_eq_bind, Option.bind_some, grpc, timeout, http]
  rfl

theorem LogFormat.read_name (format : LogFormat) :
    LogFormat.read form (Document.text format.name) = some format := by
  cases format <;> rfl

theorem LoggingConfig.read_without (logging : LoggingConfig) (omission : Omission) :
    LoggingConfig.read form (logging.toDocument.without omission) =
      some (logging.defaulting omission) := by
  have level := @get_left_text omission logging.toDocument "level" logging.level
    rfl
  have format := @get_left omission logging.toDocument (text logging.format.name) "format"
    LogFormat (LogFormat.read form) logging.format rfl
    (LogFormat.read_name logging.format)
  have opened := @settings?_without omission logging.toDocument _ rfl
  simp only [LoggingConfig.read, opened, Option.bind_eq_bind, Option.bind_some, level, format]
  rfl

theorem RefillConfig.read_without {refill : RefillConfig} (proper : refill.IsProper)
    (omission : Omission) :
    RefillConfig.read form (refill.toDocument.without omission) =
      some (refill.defaulting omission) := by
  have count := @get_left_count omission refill.toDocument "count" refill.count
    rfl proper.count
  have window := @get_left_count omission refill.toDocument "window_secs" refill.windowSeconds
    rfl proper.windowSeconds
  have opened := @settings?_without omission refill.toDocument _ rfl
  simp only [RefillConfig.read, opened, Option.bind_eq_bind, Option.bind_some, count, window]
  rfl

theorem SweepConfig.read_without {sweeping : SweepConfig} (proper : sweeping.IsProper)
    (omission : Omission) :
    SweepConfig.read form (sweeping.toDocument.without omission) =
      some (sweeping.defaulting omission) := by
  have enabled := @get_left_flag omission sweeping.toDocument "enabled" sweeping.enabled
    rfl
  have ttl := @get_left_count omission sweeping.toDocument "ttl_secs" sweeping.ttlSeconds
    rfl proper.ttlSeconds
  have interval := @get_left_count omission sweeping.toDocument "interval_secs"
    sweeping.intervalSeconds rfl proper.intervalSeconds
  have opened := @settings?_without omission sweeping.toDocument _ rfl
  simp only [SweepConfig.read, opened, Option.bind_eq_bind, Option.bind_some, enabled, ttl,
    interval]
  rfl

theorem LimiterConfig.read_without {limiter : LimiterConfig} (proper : limiter.IsProper)
    (omission : Omission) :
    LimiterConfig.read form (limiter.toDocument.without omission) =
      some (limiter.defaulting omission) := by
  have refill := @get_left omission limiter.toDocument limiter.refill.toDocument "refill_rate"
    RefillConfig (RefillConfig.read form) _ rfl
    (RefillConfig.read_without proper.refill _)
  have cost := @get_left_count omission limiter.toDocument "request_cost" limiter.requestCost
    rfl proper.requestCost
  have sweeping := @get_left omission limiter.toDocument limiter.sweeping.toDocument "gc"
    SweepConfig (SweepConfig.read form) _ rfl
    (SweepConfig.read_without proper.sweeping _)
  have opened := @settings?_without omission limiter.toDocument _ rfl
  simp only [LimiterConfig.read, opened, Option.bind_eq_bind, Option.bind_some, refill, cost,
    sweeping]
  rfl

theorem SeedRules.read_without (rules : SeedRules) (omission : Omission) :
    SeedRules.read form (rules.toDocument.without omission) =
      some (rules.defaulting omission) := by
  have white := @get_left_texts omission rules.toDocument "white" rules.white
    rfl
  have black := @get_left_texts omission rules.toDocument "black" rules.black
    rfl
  have opened := @settings?_without omission rules.toDocument _ rfl
  simp only [SeedRules.read, opened, Option.bind_eq_bind, Option.bind_some, white, black]
  rfl

/-! ### Limits that are read back -/

theorem Limit.read_description (omission : Omission) (description : Option String) :
    form.optional form.text? ((ofText? description).without omission) = some description := by
  cases description <;> rfl

/-- A limit is read back if its dimension and its capacity are there. -/
theorem Limit.read_without {limit : Limit} (fits : limit.capacity ≤ largestCount)
    {omission : Omission} (named : omission.drops "dimension" = false)
    (sized : omission.drops "capacity" = false) :
    Limit.read form (limit.toDocument.without omission) = some (limit.defaulting omission) := by
  have dimension := @require_left omission limit.toDocument (text limit.dimension) "dimension"
    String form.text? limit.dimension named rfl rfl
  have capacity := @require_left omission limit.toDocument (ofNat limit.capacity) "capacity"
    Nat form.count? limit.capacity sized rfl (if_pos fits)
  have description := @get_left omission limit.toDocument (ofText? limit.description)
    "description" (Option String) (form.optional form.text?) limit.description
    rfl (Limit.read_description _ limit.description)
  have opened := @settings?_without omission limit.toDocument _ rfl
  simp only [Limit.read, opened, Option.bind_eq_bind, Option.bind_some, dimension, capacity,
    description]
  rfl

/-- Limits in a list are read back, each without what is left out of it. -/
theorem Limit.mapM_read_without {limits : List Limit}
    (fits : ∀ limit ∈ limits, limit.capacity ≤ largestCount) {omission : Omission}
    (kept : ∀ position, (omission.within (.index position)).drops "dimension" = false ∧
      (omission.within (.index position)).drops "capacity" = false) (start : Nat) :
    (withoutElements omission start (limits.map Limit.toDocument)).mapM (Limit.read form) =
      some (limits.mapIdx fun position limit =>
        limit.defaulting (omission.within (.index (start + position)))) := by
  induction limits generalizing start with
  | nil => rfl
  | cons limit rest inductionHypothesis =>
      have fitsLater other member := fits other (List.mem_cons_of_mem limit member)
      have later : (fun (position : Nat) (limit : Limit) =>
          limit.defaulting (omission.within (.index (start + 1 + position)))) =
            fun position limit =>
              limit.defaulting (omission.within (.index (start + (position + 1)))) := by
        ext position limit
        rw [Nat.add_assoc, Nat.add_comm 1 position]
      rw [List.map_cons, withoutElements, List.mapM_cons,
        Limit.read_without (fits limit List.mem_cons_self) (kept start).1 (kept start).2,
        inductionHypothesis fitsLater, List.mapIdx_cons, later]
      rfl

/-! ### Whole configurations -/

/-- No limit is left without its dimension or its capacity, which have no defaults. -/
def Document.Omission.KeepsRequired (omission : Omission) : Prop :=
  ∀ position, ∀ name ∈ ["dimension", "capacity"],
    omission [.key "limits", .index position, .key name] = false

/-- A proper configuration is read with defaults in the places of what is left out. -/
theorem Config.read_without {config : Config} (proper : config.IsProper) {omission : Omission}
    (kept : omission.KeepsRequired) :
    Config.ofDocument? (config.toDocument.without omission) =
      some (config.defaulting omission) := by
  have server := @get_left omission config.toDocument config.server.toDocument "server"
    ServerConfig (ServerConfig.read form) _ rfl
    (ServerConfig.read_without proper.server _)
  have logging := @get_left omission config.toDocument config.logging.toDocument "logging"
    LoggingConfig (LoggingConfig.read form) _ rfl
    (LoggingConfig.read_without config.logging _)
  have limiter := @get_left omission config.toDocument config.limiter.toDocument "limiter"
    LimiterConfig (LimiterConfig.read form) _ rfl
    (LimiterConfig.read_without proper.limiter _)
  have limitsRead := @Limit.mapM_read_without config.limits proper.limits
    (omission.within (.key "limits"))
    (fun position => ⟨kept position _ (by simp), kept position _ (by simp)⟩) 0
  simp only [Nat.zero_add] at limitsRead
  have limits := @get_left omission config.toDocument
    (.list (config.limits.map Limit.toDocument)) "limits" (List Limit)
    (form.listOf (Limit.read form)) _ rfl limitsRead
  have rules := @get_left omission config.toDocument config.rules.toDocument "rules"
    SeedRules (SeedRules.read form) _ rfl
    (SeedRules.read_without config.rules _)
  have opened := @settings?_without omission config.toDocument _ rfl
  simp only [Config.ofDocument?, Config.read, opened, Option.bind_eq_bind, Option.bind_some,
    server, logging, limiter, limits, rules]
  rfl

theorem Config.defaulting_nothing (config : Config) : config.defaulting .nothing = config := by
  have limits : (config.limits.mapIdx fun position limit => limit.defaulting
      ((Omission.nothing.within (.key "limits")).within (.index position))) = config.limits := by
    refine List.ext_getElem? fun position => ?_
    rw [List.getElem?_mapIdx]
    exact Option.map_id'
  rw [Config.defaulting, limits]
  rfl

/-- A configuration that was loaded and is written as a document is read back.  From the document
without any keys that have defaults, at any depth, the configuration is read with the defaults of
the sections in these places, with the default limits if there are none, and with limits that
have no descriptions if these are left out. -/
theorem Config.reads_back {config : Config} (loaded : config.Loaded) :
    Config.ofDocument? config.toDocument = some config ∧
      ∀ omission : Omission, omission.KeepsRequired →
        Config.ofDocument? (config.toDocument.without omission) =
          some (config.defaulting omission) := by
  have proper := loaded.isProper
  refine ⟨?_, fun omission kept => Config.read_without proper kept⟩
  have whole := Config.read_without proper (fun _ _ _ => rfl : Omission.nothing.KeepsRequired)
  rwa [without_nothing, Config.defaulting_nothing] at whole

/-- A text that says where a server listens, when buckets are removed and what the limits are. -/
def terseText : String :=
  "server:\n  grpc_addr: \"[fe80::1%3]:9000\"\n" ++
    "limiter:\n  gc:\n    enabled: false\n    ttl_secs: 7\n" ++
    "limits:\n  - dimension: login\n    capacity: 3\n    description: per login\n" ++
    "  - dimension: ip\n    capacity: 50\n"

/-- What that text says. -/
def terse : Config where
  server := { grpcAddress := ⟨.v6 0xfe800000000000000000000000000001#128, 9000, 3⟩ }
  limiter := { sweeping := { enabled := false, ttlSeconds := 7 } }
  limits := [⟨"login", 3, some "per login"⟩, .plain "ip" 50]

/-- The omission of settings at several depths. -/
def terser : Omission := fun path =>
  [[.key "logging"], [.key "server", .key "grpc_addr"],
    [.key "limiter", .key "gc", .key "ttl_secs"],
    [.key "limits", .index 0, .key "description"]].contains path

/-- The defaults come back where settings were left out, and the others stay. -/
theorem terser_reads_back :
    terse.Loaded ∧ terser.KeepsRequired ∧
      Config.ofDocument? terse.toDocument = some terse ∧
      Config.ofDocument? (terse.toDocument.without terser) =
        some { limiter := { sweeping := { enabled := false } },
               limits := [.plain "login" 3, .plain "ip" 50] } := by
  have loaded : terse.Loaded := .ofYaml terseText (by decide +kernel)
  have kept : terser.KeepsRequired := by
    intro position name member
    have required : name = "dimension" ∨ name = "capacity" := by simpa using member
    rcases required with rfl | rfl <;> simp [terser]
  obtain ⟨whole, partly⟩ := Config.reads_back loaded
  refine ⟨loaded, kept, whole, (partly terser kept).trans ?_⟩
  decide +kernel

end LoginThrottle
