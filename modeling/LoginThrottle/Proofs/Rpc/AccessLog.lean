import LoginThrottle.Proofs.Net.SocketAddress
import LoginThrottle.Proofs.Rpc.RequestId
import Mathlib.Data.List.DropRight

/-!
# Callers in the access log

The access log names the caller by its address, if the transport knows it, and else by the first
entry of a list that those who forward the call have sent along.  A list that is missing, empty
or not readable is passed over, but a list that begins with a blank entry is not.

## Main Definitions

* `Call.IsCore`: what is left of a text without the blanks around it
* `Call.IsFirstEntry`: the core of what stands before the first comma

## Main Statements

* `Call.isCore_iff`, `Call.isFirstEntry_iff`: trimming finds the core, and a list has exactly one
  first entry
* `Station.access_names_caller`: whom the access log names, and when it names nobody
* `Station.blank_entry_hides_caller`: a list whose first entry is blank

## Design Notes

Whether a value is empty is looked at before the list is taken apart, and not again when its first
entry has been found.  The name of a program is taken as it is, so it is never empty.
-/

namespace LoginThrottle

open Metadata

namespace Call

/-! ### First entries -/

/-- Whether a character may stand around an entry without belonging to it. -/
def isBlank (character : Char) : Bool :=
  character = ' ' || character = '\t'

/-- What is left of a text without the blanks around it. -/
def IsCore (text core : List Char) : Prop :=
  ∃ before after, text = before ++ core ++ after ∧ before.all isBlank ∧ after.all isBlank ∧
    (∀ first ∈ core.head?, ¬ isBlank first) ∧ ∀ last ∈ core.getLast?, ¬ isBlank last

theorem trim_eq (text : List Char) :
    trim text = (text.dropWhile isBlank).rdropWhile isBlank := rfl

/-- What is left of a text begins where its front ends. -/
theorem eq_false_of_head?_dropWhile {passes : Char → Bool} {text : List Char} {next : Char}
    (begins : next ∈ (text.dropWhile passes).head?) : passes next = false := by
  have stopped := List.head?_dropWhile_not passes text
  rwa [Option.mem_def.1 begins] at stopped

/-- Trimming finds a core. -/
theorem isCore_trim (text : List Char) : IsCore text (trim text) := by
  have split : text = text.takeWhile isBlank ++ text.dropWhile isBlank :=
    List.takeWhile_append_dropWhile.symm
  have splitAgain : text.dropWhile isBlank =
      trim text ++ (text.dropWhile isBlank).rtakeWhile isBlank :=
    List.rdropWhile_append_rtakeWhile.symm
  refine ⟨text.takeWhile isBlank, (text.dropWhile isBlank).rtakeWhile isBlank, ?_, ?_, ?_, ?_, ?_⟩
  · rw [List.append_assoc, ← splitAgain, ← split]
  · exact List.all_eq_true.2 fun character => List.mem_takeWhile_imp
  · exact List.all_eq_true.2 fun character => List.mem_rtakeWhile_imp
  · intro first begins
    -- The blanks at the end were dropped later, so the core begins like what was left before.
    have beginsToo : first ∈ (text.dropWhile isBlank).head? := by
      rw [splitAgain, List.head?_append, Option.mem_def.1 begins]
      rfl
    exact Bool.eq_false_iff.1 (eq_false_of_head?_dropWhile beginsToo)
  · intro last ends
    rw [trim_eq, List.rdropWhile, List.getLast?_reverse] at ends
    exact Bool.eq_false_iff.1 (eq_false_of_head?_dropWhile ends)

theorem dropWhile_of_head? {text : List Char} (bare : ∀ first ∈ text.head?, ¬ isBlank first) :
    text.dropWhile isBlank = text := by
  cases text with
  | nil => rfl
  | cons first rest => exact List.dropWhile_cons_of_neg (bare first rfl)

/-- Trimming finds no other core. -/
theorem trim_of_isCore {text core : List Char} (isCore : IsCore text core) : trim text = core := by
  obtain ⟨before, after, rfl, leading, trailing, begins, ends⟩ := isCore
  rw [List.all_eq_true] at leading trailing
  rw [trim_eq, List.append_assoc, List.dropWhile_append_of_pos leading]
  -- Around an empty core the blanks before and after it make one run.
  cases core with
  | nil =>
      have gone : after.dropWhile isBlank = [] := List.dropWhile_eq_nil_iff.2 trailing
      rw [List.nil_append, gone, List.rdropWhile_nil]
  | cons first rest =>
      have kept : (first :: rest ++ after).dropWhile isBlank = first :: rest ++ after :=
        List.dropWhile_cons_of_neg (begins first rfl)
      have trailingToo : ∀ character ∈ after.reverse, isBlank character = true :=
        fun character member => trailing character (List.mem_reverse.1 member)
      rw [kept, List.rdropWhile, List.reverse_append, List.dropWhile_append_of_pos trailingToo,
        dropWhile_of_head?, List.reverse_reverse]
      rwa [List.head?_reverse]

theorem isCore_iff {text core : List Char} : IsCore text core ↔ core = trim text :=
  ⟨fun isCore => (trim_of_isCore isCore).symm, fun same => same ▸ isCore_trim text⟩

/-- The first entry of a list with commas: the core of what stands before the first of them. -/
def IsFirstEntry (text entry : String) : Prop :=
  ∃ field rest, text.toList = field ++ rest ∧ ',' ∉ field ∧ (∀ next ∈ rest.head?, next = ',') ∧
    IsCore field entry.toList

/-- A list has exactly one first entry. -/
theorem isFirstEntry_iff {text entry : String} :
    IsFirstEntry text entry ↔ entry = firstEntry text := by
  constructor
  · rintro ⟨field, rest, split, noComma, comma, isCore⟩
    have whole : text.toList.takeWhile (· ≠ ',') = field := by
      have others : ∀ character ∈ field, decide (character ≠ ',') = true :=
        fun character member => decide_eq_true fun same => noComma (same ▸ member)
      rw [split, List.takeWhile_append_of_pos others]
      cases rest with
      | nil => simp
      | cons next rest => simp [comma next rfl]
    rw [firstEntry, whole, ← isCore_iff.1 isCore, String.ofList_toList]
  · rintro rfl
    refine ⟨text.toList.takeWhile (· ≠ ','), text.toList.dropWhile (· ≠ ','),
      List.takeWhile_append_dropWhile.symm, ?_, ?_, ?_⟩
    · intro member
      simpa using List.mem_takeWhile_imp member
    · intro next begins
      simpa using eq_false_of_head?_dropWhile begins
    · rw [isCore_iff, firstEntry, String.toList_ofList]

example : firstEntry "\t 10.0.0.9\t, 10.0.0.7" = "10.0.0.9" := by
  decide +kernel

/-! ### Callers -/

/-- The key under which those who forward a call name the caller. -/
def forwardedKey : String := "x-forwarded-for"

/-- The key under which a program names itself. -/
def agentKey : String := "user-agent"

variable (call : Call)

/-- The caller is the address that the transport knows, or the first entry of a list that was sent
along, or unknown. -/
theorem peer_cases :
    (∃ address, call.remote = some address ∧ call.peer = address.render) ∨
    (call.remote = none ∧ ∃ first later, call.metadata.valuesOf forwardedKey = first :: later ∧
      IsReadable first ∧ IsFirstEntry (textOf first) call.peer) ∨
    call.remote = none ∧
      (∀ first later, call.metadata.valuesOf forwardedKey = first :: later → ¬ IsReadable first) ∧
      call.peer = unknownName := by
  cases remote : call.remote with
  | some address => exact .inl ⟨address, rfl, by rw [peer, remote]⟩
  | none =>
      have peer_eq : call.peer =
          ((call.metadata.text? forwardedKey).map firstEntry).getD unknownName := by
        rw [peer, remote]
        rfl
      rcases call.metadata.text?_cases forwardedKey with
        ⟨first, later, sent, readable, found⟩ | ⟨unreadable, missing⟩
      · rw [found] at peer_eq
        exact .inr (.inl ⟨rfl, first, later, sent, readable, isFirstEntry_iff.2 peer_eq⟩)
      · rw [missing] at peer_eq
        exact .inr (.inr ⟨rfl, unreadable, peer_eq⟩)

/-- The program is the first name that was sent, unless there is none or it is not readable. -/
theorem userAgent_cases :
    (∃ first later, call.metadata.valuesOf agentKey = first :: later ∧ IsReadable first ∧
      call.userAgent = textOf first) ∨
    (∀ first later, call.metadata.valuesOf agentKey = first :: later → ¬ IsReadable first) ∧
      call.userAgent = unknownName :=
  call.metadata.getD_text?_cases agentKey unknownName

/-- A caller has no name exactly if the transport knows no address and a list that was sent along
has a blank first entry. -/
theorem peer_eq_empty_iff :
    call.peer = "" ↔ call.remote = none ∧
      ∃ first later, call.metadata.valuesOf forwardedKey = first :: later ∧ IsReadable first ∧
        IsFirstEntry (textOf first) "" := by
  rcases call.peer_cases with ⟨address, known, named⟩ |
      ⟨unknown, first, later, sent, readable, named⟩ | ⟨unknown, unreadable, named⟩
  · refine iff_of_false (fun empty => ?_) fun ⟨unknown, _⟩ => ?_
    · exact address.render_ne_empty (named.symm.trans empty)
    · cases known.symm.trans unknown
  · constructor
    · intro empty
      exact ⟨unknown, first, later, sent, readable, empty ▸ named⟩
    · rintro ⟨-, other, others, sentToo, -, blank⟩
      obtain rfl := (List.cons.inj (sent.symm.trans sentToo)).1
      rw [isFirstEntry_iff.1 named, ← isFirstEntry_iff.1 blank]
  · refine iff_of_false (fun empty => ?_) fun ⟨_, first, later, sent, readable, _⟩ => ?_
    · exact absurd (named.symm.trans empty) (by decide)
    · exact unreadable first later sent readable

end Call

open Call

/-- **The access log names the caller unless a list begins with a blank entry.**  Whatever a call
asks for and however it ends, its caller is the address that the transport knows.  If it knows
none, it is the first entry of the first list that was sent along, if that list is readable, and
else it is unknown.  So the name is empty exactly if the transport knows no address and a readable
list has a blank first entry.  The name of the program is the first one that was sent, if that is
readable, and else it is unknown, and it is never empty. -/
theorem Station.access_names_caller (station : Station) (fresh : String) (call : Call) :
    let access := (station.answerCall fresh call).1.access
    let lists := call.metadata.valuesOf forwardedKey
    let agents := call.metadata.valuesOf agentKey
    ((∃ address, call.remote = some address ∧ access.peer = address.render) ∨
      (call.remote = none ∧ ∃ first later, lists = first :: later ∧ IsReadable first ∧
        IsFirstEntry (textOf first) access.peer) ∨
      call.remote = none ∧ (∀ first later, lists = first :: later → ¬ IsReadable first) ∧
        access.peer = "unknown") ∧
    (access.peer = "" ↔ call.remote = none ∧ ∃ first later, lists = first :: later ∧
      IsReadable first ∧ IsFirstEntry (textOf first) "") ∧
    ((∃ first later, agents = first :: later ∧ IsReadable first ∧
        access.userAgent = textOf first) ∨
      (∀ first later, agents = first :: later → ¬ IsReadable first) ∧
        access.userAgent = "unknown") ∧
    access.userAgent ≠ "" := by
  intro access lists agents
  refine ⟨call.peer_cases, call.peer_eq_empty_iff, call.userAgent_cases, fun empty => ?_⟩
  rcases call.userAgent_cases with ⟨first, later, -, readable, named⟩ | ⟨-, named⟩
  · exact textOf_ne_empty readable (named.symm.trans empty)
  · exact absurd (named.symm.trans empty) (by decide)

/-- A list names one address behind a blank entry.  The call is answered, but the access log names
nobody, not even an unknown caller. -/
theorem Station.blank_entry_hides_caller :
    let station : Station := .new ⟨.new .never, .new (.reliable [.plain "ip" 3, .plain "login" 3,
      .plain "password" 3]) ⟨1, ⟨5⟩⟩⟩
    let list := " , 10.0.0.9".toUTF8.data.toList
    let call : Call :=
      ⟨.check "10.0.0.1" "root" "secret", ⟨[("x-forwarded-for", list)]⟩, none⟩
    (station.answerCall "0b2f4c1e-7d3a-4e5f-9a6b-1c2d3e4f5a6b" call).1.access =
      ⟨.limitCheck, .ok, "", "unknown"⟩ := by
  decide +kernel

end LoginThrottle
