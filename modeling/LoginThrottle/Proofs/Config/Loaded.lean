import LoginThrottle.Config.Document
import LoginThrottle.Config.File
import LoginThrottle.Config.Yaml
import LoginThrottle.Proofs.Config
import LoginThrottle.Proofs.Net.SocketAddress

/-!
# Configurations that were loaded

Every number of a configuration that was loaded fits 64 bits, and its servers listen at addresses
that can be spelled, in whichever notation it was written.

## Main Definitions

* `Form.Bounded`: a notation has no counts that are too large
* `Config.IsProper`, and the same for its sections: what every configuration in memory is like
* `Config.Loaded`: a configuration that was loaded from one of the sources

## Main Statements

* `Config.isProper_of_read`: what is read from a bounded notation is proper
* `Config.Loaded.isProper`: what was loaded is proper
-/

namespace LoginThrottle

variable {Node Value : Type} {form : Form Node} {node : Node}

/-! ### Notations -/

/-- No count that is read is too large. -/
def Form.Bounded (form : Form Node) : Prop :=
  ∀ node count, form.count? node = some count → count ≤ largestCount

theorem Document.bounded_form : Document.form.Bounded := by
  intro document count found
  change document.count? = some count at found
  unfold Document.count? at found
  split at found
  · split at found
    · next fits => exact Option.some.inj found ▸ fits
    · cases found
  · cases found

/-- No numeral of a count spells one that is too large. -/
theorem NumeralStyle.le_of_readWhole? {style : NumeralStyle}
    (bound_eq : style.bound = largestCount + 1) {text : List Char} {count : Nat}
    (found : style.readWhole? text = some count) : count ≤ largestCount := by
  have small := lt_of_readWhole? found
  omega

theorem Setting.le_of_countOf? {text : String} {count : Nat} (found : countOf? text = some count) :
    count ≤ largestCount := by
  unfold countOf? at found
  simp only at found
  split at found
  · exact Option.some.inj found ▸ (by decide)
  · split at found
    · exact Option.some.inj found ▸ (by decide)
    · split at found
      · exact NumeralStyle.le_of_readWhole? rfl found
      · exact NumeralStyle.le_of_readWhole? rfl found

theorem Setting.bounded_form : Setting.form.Bounded := by
  intro setting count found
  change setting.count? = some count at found
  cases setting with
  | whole value =>
      rw [Setting.count?] at found
      split at found
      · next fits =>
          obtain rfl := Option.some.inj found
          omega
      · cases found
  | real value =>
      obtain rfl := Option.some.inj found
      unfold Binary64.roundToCount
      split
      · exact Nat.zero_le _
      · exact Nat.zero_le _
      · exact Nat.le_refl _
      · split
        · exact Nat.zero_le _
        · exact Nat.min_le_left _ _
  | flag value =>
      obtain rfl := Option.some.inj found
      cases value <;> decide
  | text value => exact le_of_countOf? found
  | nothing => cases found
  | list elements => cases found
  | table entries => cases found

theorem Yaml.Node.bounded_form (root : Yaml.Node) : root.form.Bounded := by
  intro node count found
  obtain ⟨text, -, spelled⟩ := Option.bind_eq_some_iff.1 found
  unfold Yaml.Node.countOf? at spelled
  simp only at spelled
  split at spelled
  · exact NumeralStyle.le_of_readWhole? rfl spelled
  · exact NumeralStyle.le_of_readWhole? rfl spelled
  · exact NumeralStyle.le_of_readWhole? rfl spelled
  · exact NumeralStyle.le_of_readWhole? rfl spelled

/-! ### Settings -/

/-- What holds of everything that may be read for a setting and of its default holds of its
value. -/
theorem Settings.get_preserves (Holds : Value → Prop) {settings : Settings Node} {name : String}
    {read : Node → Option Value} {default value : Value}
    (found : settings.get name read default = some value)
    (reads : ∀ node value, read node = some value → Holds value) (usual : Holds default) :
    Holds value := by
  unfold Settings.get at found
  split at found
  · exact Option.some.inj found ▸ usual
  · next node _ => exact reads node value found

theorem Settings.count_le (bounded : form.Bounded) {settings : Settings Node} {name : String}
    {default count : Nat} (found : settings.get name form.count? default = some count)
    (usual : default ≤ largestCount) : count ≤ largestCount :=
  get_preserves (fun count => count ≤ largestCount) found bounded usual

theorem Settings.address_isProper {settings : Settings Node} {name : String}
    {default address : SocketAddress}
    (found : settings.get name form.address? default = some address) (usual : default.IsProper) :
    address.IsProper := by
  refine get_preserves SocketAddress.IsProper found (fun node address read => ?_) usual
  obtain ⟨text, -, spelled⟩ := Option.bind_eq_some_iff.1 read
  exact SocketAddress.isProper_of_read? spelled

/-- Each value of a list was read from one of its elements. -/
theorem Form.exists_of_mem_listOf {read : Node → Option Value} {values : List Value}
    (found : form.listOf read node = some values) {value : Value} (member : value ∈ values) :
    ∃ inner, read inner = some value := by
  obtain ⟨elements, -, read_eq⟩ := Option.bind_eq_some_iff.1 found
  clear found
  induction elements generalizing values with
  | nil =>
      obtain rfl := Option.some.inj read_eq
      cases member
  | cons element rest inductionHypothesis =>
      simp only [List.mapM_cons, Option.bind_eq_bind, Option.bind_eq_some_iff, Option.pure_def,
        Option.some.injEq] at read_eq
      obtain ⟨first, firstRead, others, othersRead, rfl⟩ := read_eq
      rcases List.mem_cons.1 member with rfl | later
      · exact ⟨element, firstRead⟩
      · exact inductionHypothesis later othersRead

/-! ### Sections -/

/-- Both servers have addresses that can be spelled, and the time fits 64 bits. -/
structure ServerConfig.IsProper (server : ServerConfig) : Prop where
  grpcAddress : server.grpcAddress.IsProper
  requestTimeoutSeconds : server.requestTimeoutSeconds ≤ largestCount
  httpAddress : server.httpAddress.IsProper

/-- Both numbers of a refill fit 64 bits. -/
structure RefillConfig.IsProper (refill : RefillConfig) : Prop where
  count : refill.count ≤ largestCount
  windowSeconds : refill.windowSeconds ≤ largestCount

/-- Both times of the removal of buckets fit 64 bits. -/
structure SweepConfig.IsProper (sweeping : SweepConfig) : Prop where
  ttlSeconds : sweeping.ttlSeconds ≤ largestCount
  intervalSeconds : sweeping.intervalSeconds ≤ largestCount

/-- The numbers of a throttle fit 64 bits. -/
structure LimiterConfig.IsProper (limiter : LimiterConfig) : Prop where
  refill : limiter.refill.IsProper
  requestCost : limiter.requestCost ≤ largestCount
  sweeping : limiter.sweeping.IsProper

/-- The addresses of a configuration can be spelled, and its numbers fit 64 bits. -/
structure Config.IsProper (config : Config) : Prop where
  server : config.server.IsProper
  limiter : config.limiter.IsProper
  limits : ∀ limit ∈ config.limits, limit.capacity ≤ largestCount

theorem isProper_loopback {port : Nat} (small : port < 0x10000) : (loopback port).IsProper :=
  ⟨small, (by decide : 0 < 0x100000000), fun _ _ => rfl⟩

theorem Config.isProper_default : ({} : Config).IsProper where
  server := ⟨isProper_loopback (by decide), by decide, isProper_loopback (by decide)⟩
  limiter := ⟨⟨by decide, by decide⟩, by decide, ⟨by decide, by decide⟩⟩
  limits := by decide

theorem ServerConfig.isProper_of_read (bounded : form.Bounded) {server : ServerConfig}
    (found : ServerConfig.read form node = some server) : server.IsProper := by
  simp only [ServerConfig.read, Option.bind_eq_bind, Option.bind_eq_some_iff, Option.pure_def,
    Option.some.injEq] at found
  obtain ⟨settings, -, grpc, grpcFound, timeout, timeoutFound, http, httpFound, rfl⟩ := found
  have usual := Config.isProper_default.server
  exact ⟨Settings.address_isProper grpcFound usual.grpcAddress,
    Settings.count_le bounded timeoutFound usual.requestTimeoutSeconds,
    Settings.address_isProper httpFound usual.httpAddress⟩

theorem RefillConfig.isProper_of_read (bounded : form.Bounded) {refill : RefillConfig}
    (found : RefillConfig.read form node = some refill) : refill.IsProper := by
  simp only [RefillConfig.read, Option.bind_eq_bind, Option.bind_eq_some_iff, Option.pure_def,
    Option.some.injEq] at found
  obtain ⟨settings, -, count, countFound, window, windowFound, rfl⟩ := found
  have usual := Config.isProper_default.limiter.refill
  exact ⟨Settings.count_le bounded countFound usual.count,
    Settings.count_le bounded windowFound usual.windowSeconds⟩

theorem SweepConfig.isProper_of_read (bounded : form.Bounded) {sweeping : SweepConfig}
    (found : SweepConfig.read form node = some sweeping) : sweeping.IsProper := by
  simp only [SweepConfig.read, Option.bind_eq_bind, Option.bind_eq_some_iff, Option.pure_def,
    Option.some.injEq] at found
  obtain ⟨settings, -, enabled, -, ttl, ttlFound, interval, intervalFound, rfl⟩ := found
  have usual := Config.isProper_default.limiter.sweeping
  exact ⟨Settings.count_le bounded ttlFound usual.ttlSeconds,
    Settings.count_le bounded intervalFound usual.intervalSeconds⟩

theorem LimiterConfig.isProper_of_read (bounded : form.Bounded) {limiter : LimiterConfig}
    (found : LimiterConfig.read form node = some limiter) : limiter.IsProper := by
  simp only [LimiterConfig.read, Option.bind_eq_bind, Option.bind_eq_some_iff, Option.pure_def,
    Option.some.injEq] at found
  obtain ⟨settings, -, refill, refillFound, cost, costFound, sweeping, sweepFound, rfl⟩ := found
  have usual := Config.isProper_default.limiter
  exact ⟨Settings.get_preserves RefillConfig.IsProper refillFound
      (fun _ _ => RefillConfig.isProper_of_read bounded) usual.refill,
    Settings.count_le bounded costFound usual.requestCost,
    Settings.get_preserves SweepConfig.IsProper sweepFound
      (fun _ _ => SweepConfig.isProper_of_read bounded) usual.sweeping⟩

theorem Limit.capacity_le_of_read (bounded : form.Bounded) {limit : Limit}
    (found : Limit.read form node = some limit) : limit.capacity ≤ largestCount := by
  simp only [Limit.read, Option.bind_eq_bind, Option.bind_eq_some_iff, Option.pure_def,
    Option.some.injEq] at found
  obtain ⟨settings, -, dimension, -, capacity, capacityFound, description, -, rfl⟩ := found
  obtain ⟨inner, -, read⟩ := Option.bind_eq_some_iff.1 capacityFound
  exact bounded inner capacity read

/-- What is read from a bounded notation is proper. -/
theorem Config.isProper_of_read (bounded : form.Bounded) {config : Config}
    (found : Config.read form node = some config) : config.IsProper := by
  simp only [Config.read, Option.bind_eq_bind, Option.bind_eq_some_iff, Option.pure_def,
    Option.some.injEq] at found
  obtain ⟨settings, -, server, serverFound, logging, -, limiter, limiterFound, limits, limitsFound,
    rules, -, rfl⟩ := found
  have usual := Config.isProper_default
  refine ⟨Settings.get_preserves ServerConfig.IsProper serverFound
      (fun _ _ => ServerConfig.isProper_of_read bounded) usual.server,
    Settings.get_preserves LimiterConfig.IsProper limiterFound
      (fun _ _ => LimiterConfig.isProper_of_read bounded) usual.limiter,
    Settings.get_preserves (fun limits : List Limit => ∀ limit ∈ limits,
      limit.capacity ≤ largestCount) limitsFound ?_ usual.limits⟩
  intro inner limits read limit member
  obtain ⟨element, limitRead⟩ := Form.exists_of_mem_listOf read member
  exact Limit.capacity_le_of_read bounded limitRead

/-! ### Sources -/

/-- A configuration that was loaded: from a text, from a file and an environment, or from a
document. -/
inductive Config.Loaded (config : Config) : Prop
  | ofYaml (text : String) (loaded : Config.ofYaml text = .ok config)
  | ofFile (file : Option String) (environment : List (String × String))
      (loaded : Config.ofFile file environment = .ok config)
  | ofDocument (document : Document) (loaded : Config.ofDocument? document = some config)

/-- What was loaded is proper. -/
theorem Config.Loaded.isProper {config : Config} (loaded : config.Loaded) : config.IsProper := by
  cases loaded with
  | ofYaml text loaded =>
      unfold Config.ofYaml at loaded
      split at loaded
      · cases loaded
      · next read =>
          obtain ⟨-, rfl⟩ := (validate_eq_ok_iff _ _).1 loaded
          obtain ⟨root, -, found⟩ := Option.bind_eq_some_iff.1 read
          exact isProper_of_read (Yaml.Node.bounded_form _) found
  | ofFile file environment loaded =>
      unfold Config.ofFile at loaded
      split at loaded
      · cases loaded
      · next read =>
          obtain ⟨-, rfl⟩ := (validate_eq_ok_iff _ _).1 loaded
          obtain ⟨text, -, opened⟩ := Option.bind_eq_some_iff.1 read
          obtain ⟨root, -, found⟩ := Option.bind_eq_some_iff.1 opened
          exact isProper_of_read Setting.bounded_form found
  | ofDocument document loaded => exact isProper_of_read Document.bounded_form loaded

end LoginThrottle
