/-!
# Documents

A document is data without a purpose of its own: texts, numbers and flags in lists and
tables.

## Main Definitions

* `Document`: the data
* `Document.entry?`: what a table holds under a name
-/

namespace LoginThrottle

/-- Data in lists and tables. -/
inductive Document
  | null
  | flag (value : Bool)
  /-- A decimal number: `mantissa` with its last `places` digits behind the point. -/
  | number (mantissa : Int) (places : Nat)
  | text (value : String)
  | list (elements : List Document)
  | table (entries : List (String × Document))
  deriving Repr, Inhabited

namespace Document

/-- A whole number that is not negative. -/
def ofNat (value : Nat) : Document :=
  number value 0

/-- A list of texts. -/
def texts (values : List String) : Document :=
  list (values.map text)

/-- A text or nothing. -/
def ofText? : Option String → Document
  | some value => text value
  | none => null

/-- What a list of entries holds under a name. -/
def lookup (name : String) (entries : List (String × Document)) : Option Document :=
  (entries.find? fun entry => entry.1 == name).map Prod.snd

/-- What a table holds under a name. -/
def entry? (name : String) : Document → Option Document
  | table entries => lookup name entries
  | _ => none

end Document

end LoginThrottle
