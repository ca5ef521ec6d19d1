import LoginThrottle.Config.Document

/-!
# Sections without settings

Settings have default values, and sections have defaults as a whole.  The two agree, so it makes
no difference whether a section is missing or has no settings.

## Main Definitions

* `Form.Blank`: a section in which nothing is set
* `Form.ReadsDefault`: whatever section is read has its default

## Main Statements

* `Form.Blank.readsDefault`: sections in which nothing is set have their defaults
* `Config.read_of_blank_sections`: so has a configuration of such sections
-/

namespace LoginThrottle

variable {Node Value : Type} {form : Form Node} {node : Node}

/-- A section in which nothing is set, whatever could be set in it. -/
def Form.Blank (form : Form Node) (node : Node) : Prop :=
  ∀ names, form.settings? names node = some fun _ => none

/-- Whichever section is read from a node, it has its default. -/
structure Form.ReadsDefault (form : Form Node) (node : Node) : Prop where
  server : ServerConfig.read form node = some {}
  logging : LoggingConfig.read form node = some {}
  refill : RefillConfig.read form node = some {}
  sweeping : SweepConfig.read form node = some {}
  limiter : LimiterConfig.read form node = some {}
  rules : SeedRules.read form node = some {}
  config : Config.read form node = some {}

/-- The default values of its settings make up the default of a section. -/
theorem Form.Blank.readsDefault (blank : form.Blank node) : form.ReadsDefault node where
  server := by simp [ServerConfig.read, blank _, Settings.get]
  logging := by simp [LoggingConfig.read, blank _, Settings.get]
  refill := by simp [RefillConfig.read, blank _, Settings.get]
  sweeping := by simp [SweepConfig.read, blank _, Settings.get]
  limiter := by simp [LimiterConfig.read, blank _, Settings.get]
  rules := by simp [SeedRules.read, blank _, Settings.get]
  config := by simp [Config.read, blank _, Settings.get]

/-- A setting has its default if it is missing, and also if that is what is read for it. -/
theorem Settings.get_eq_default {settings : Settings Node} {name : String}
    {read : Node → Option Value} {default : Value}
    (reads : ∀ inner, settings name = some inner → read inner = some default) :
    settings.get name read default = some default := by
  unfold Settings.get
  split
  · rfl
  · next inner found => exact reads inner found

/-- A configuration without limits has its default if nothing is set in the sections that it
has. -/
theorem Config.read_of_blank_sections {sections : Settings Node}
    (opened : ∀ names, form.settings? names node = some sections)
    (blank : ∀ name inner, sections name = some inner → form.Blank inner)
    (unlimited : sections "limits" = none) : Config.read form node = some {} := by
  have reads (name : String) {inner : Node} (found : sections name = some inner) :
      form.ReadsDefault inner := (blank name inner found).readsDefault
  have server := Settings.get_eq_default fun _ found => (reads "server" found).server
  have logging := Settings.get_eq_default fun _ found => (reads "logging" found).logging
  have limiter := Settings.get_eq_default fun _ found => (reads "limiter" found).limiter
  have rules := Settings.get_eq_default fun _ found => (reads "rules" found).rules
  have limits : sections.get "limits" (form.listOf (Limit.read form)) defaultLimits =
      some defaultLimits := by
    rw [Settings.get, unlimited]
  simp only [Config.read, opened, Option.bind_eq_bind, Option.bind_some, server, logging, limiter,
    limits, rules]
  rfl

example :
    Config.ofDocument? (.table [("logging", .table []), ("limiter", .table [])]) = some {} := by
  decide +kernel

end LoginThrottle
