import LoginThrottle.Proofs.Text.ByteOrder
import LoginThrottle.Rpc.Exchange
import Mathlib.Data.List.Forall2

/-!
# Request ids

The request id of a call is read from a value when the call begins and written as a value when
it ends.  What is read has a stricter rule than what is written, and each character that is read
stands for one byte.  So no id is lost on the way, and the caller gets back the bytes that it
sent.

## Main Definitions

* `Metadata.valuesOf`: all values under a key
* `Metadata.IsReadable`: the values that count as a text
* `IsGenerated`: the form of ids that are made for callers without one

## Main Statements

* `Metadata.valueOf?_textOf`: a text that was read is written as the bytes that it was read from
* `Metadata.valuesOf_replyMetadata`, `Metadata.text?_replyMetadata`: what is sent back under a
  request id
* `Station.answered_under_one_id`: every call is answered under exactly one request id

## Design Notes

The generator of ids is not part of the development.  Of its ids nothing is known but their form.
-/

namespace LoginThrottle

open Call (requestIdKey)

namespace Metadata

variable {bytes : List UInt8}

/-! ### Values under a key -/

/-- All values under a key, in the order in which they were sent. -/
def valuesOf (metadata : Metadata) (key : String) : List (List UInt8) :=
  (metadata.entries.filter fun entry => normalize entry.1 == key).map Prod.snd

theorem first?_eq_head? (metadata : Metadata) (key : String) :
    metadata.first? key = (metadata.valuesOf key).head? := by
  rw [first?, valuesOf, List.head?_map, List.head?_filter]

theorem valuesOf_insert (metadata : Metadata) {key : String} (normal : normalize key = key)
    (value : List UInt8) : (metadata.insert key value).valuesOf key = [value] := by
  simp [insert, valuesOf, normal, List.filter_filter]

/-! ### Texts as values -/

/-- A value that counts as a text: it is not empty and consists of visible characters, spaces and
tabs. -/
def IsReadable (value : List UInt8) : Prop :=
  value ≠ [] ∧ value.all isTextByte

instance (value : List UInt8) : Decidable (IsReadable value) := by
  unfold IsReadable
  infer_instance

theorem text?_eq (metadata : Metadata) (key : String) :
    metadata.text? key =
      (metadata.valuesOf key).head?.bind fun value =>
        if IsReadable value then some (textOf value) else none := by
  rw [text?, first?_eq_head?]
  cases metadata.valuesOf key with
  | nil => rfl
  | cons value later =>
      cases value with
      | nil => rfl
      | cons byte rest => simp [IsReadable]

/-- The text under a key is the first value there, unless there is none or the first one is not
readable. -/
theorem text?_cases (metadata : Metadata) (key : String) :
    (∃ first later, metadata.valuesOf key = first :: later ∧ IsReadable first ∧
      metadata.text? key = some (textOf first)) ∨
    (∀ first later, metadata.valuesOf key = first :: later → ¬ IsReadable first) ∧
      metadata.text? key = none := by
  rw [text?_eq]
  cases metadata.valuesOf key with
  | nil => exact .inr ⟨nofun, rfl⟩
  | cons first later =>
      by_cases readable : IsReadable first
      · exact .inl ⟨first, later, rfl, readable, by simp [readable]⟩
      · refine .inr ⟨fun other rest sent => ?_, by simp [readable]⟩
        rwa [← (List.cons.inj sent).1]

/-- The same where something else stands in for a text that is missing. -/
theorem getD_text?_cases (metadata : Metadata) (key fallback : String) :
    (∃ first later, metadata.valuesOf key = first :: later ∧ IsReadable first ∧
      (metadata.text? key).getD fallback = textOf first) ∨
    (∀ first later, metadata.valuesOf key = first :: later → ¬ IsReadable first) ∧
      (metadata.text? key).getD fallback = fallback := by
  rcases metadata.text?_cases key with ⟨first, later, sent, readable, found⟩ | ⟨foreign, missing⟩
  · exact .inl ⟨first, later, sent, readable, by rw [found, Option.getD_some]⟩
  · exact .inr ⟨foreign, by rw [missing, Option.getD_none]⟩

theorem textOf_ne_empty (readable : IsReadable bytes) : textOf bytes ≠ "" := by
  rw [textOf, Ne, String.ofList_eq_empty_iff, List.map_eq_nil_iff]
  exact readable.1

theorem toNat_lt_of_isTextByte {byte : UInt8} (text : isTextByte byte) : byte.toNat < 128 := by
  simp only [isTextByte, Bool.or_eq_true, Bool.and_eq_true, decide_eq_true_eq] at text
  rcases text with rfl | ⟨-, below⟩
  · decide
  · exact Nat.lt_of_lt_of_le (UInt8.lt_iff_toNat_lt.1 below) (by decide)

/-- A byte that is read may also be written. -/
theorem isValueByte_of_isTextByte {byte : UInt8} (text : isTextByte byte) : isValueByte byte := by
  simp only [isTextByte, isValueByte, Bool.or_eq_true, Bool.and_eq_true,
    decide_eq_true_eq] at text ⊢
  exact text.imp_right fun ⟨above, below⟩ => ⟨above, UInt8.ne_of_lt below⟩

/-- A character below 128 travels as a byte of the same number. -/
theorem utf8EncodeChar_ofNat {byte : UInt8} (small : byte.toNat < 128) :
    String.utf8EncodeChar (Char.ofNat byte.toNat) = [byte] := by
  have number : (Char.ofNat byte.toNat).val.toNat = byte.toNat := by
    rw [Char.ofNat, dif_pos (.inl (by omega))]
    rfl
  rw [String.utf8EncodeChar]
  simp only [number]
  rw [if_pos (by omega), UInt8.ofNat_toNat]

/-- A text that was read is made of the bytes that it was read from. -/
theorem toUTF8_textOf (readable : IsReadable bytes) :
    (textOf bytes).toUTF8.data.toList = bytes := by
  rw [toList_toUTF8, textOf, String.toList_ofList, List.flatMap_map]
  -- Characters from 128 on would take two bytes, but none of them is read.
  have each (byte : UInt8) (member : byte ∈ bytes) :
      String.utf8EncodeChar (Char.ofNat byte.toNat) = [byte] :=
    utf8EncodeChar_ofNat (toNat_lt_of_isTextByte (List.all_eq_true.1 readable.2 byte member))
  rw [List.flatMap_congr each, List.flatMap_singleton']

/-- A text that was read is written as the bytes that it was read from. -/
theorem valueOf?_textOf (readable : IsReadable bytes) : valueOf? (textOf bytes) = some bytes := by
  rw [valueOf?, toUTF8_textOf readable]
  exact if_pos (List.all_eq_true.2 fun byte member =>
    isValueByte_of_isTextByte (List.all_eq_true.1 readable.2 byte member))

/-! ### What is sent back under a request id -/

theorem normalize_requestIdKey : normalize requestIdKey = requestIdKey := by
  rw [normalize, ← String.toList_inj, String.toList_map]
  decide

theorem valuesOf_replyMetadata (readable : IsReadable bytes) :
    (replyMetadata (textOf bytes)).valuesOf requestIdKey = [bytes] := by
  rw [replyMetadata, valueOf?_textOf readable]
  exact valuesOf_insert .empty normalize_requestIdKey bytes

theorem text?_replyMetadata (readable : IsReadable bytes) :
    (replyMetadata (textOf bytes)).text? requestIdKey = some (textOf bytes) := by
  rw [text?_eq, valuesOf_replyMetadata readable]
  exact if_pos readable

end Metadata

open Metadata

/-! ### Generated ids -/

/-- The form of generated ids.  An x stands for any digit, and a y for one of four digits. -/
def generatedForm : String := "xxxxxxxx-xxxx-4xxx-yxxx-xxxxxxxxxxxx"

/-- Whether a character may stand where a form has the given one. -/
def fitsForm : Char → Char → Bool
  | 'x', character => character.isDigit || ('a' ≤ character && character ≤ 'f')
  | 'y', character => character ∈ ['8', '9', 'a', 'b']
  | form, character => form == character

/-- A text of the form of generated ids. -/
def IsGenerated (id : String) : Prop :=
  List.Forall₂ (fun form character => fitsForm form character) generatedForm.toList id.toList

instance (id : String) : Decidable (IsGenerated id) := by
  unfold IsGenerated
  infer_instance

/-- Whether a character is visible or a space. -/
def isPrintable (character : Char) : Bool :=
  32 ≤ character.toNat && character.toNat < 127

theorem isPrintable_iff {character : Char} :
    isPrintable character ↔ 32 ≤ character.toNat ∧ character.toNat < 127 := by
  rw [isPrintable, Bool.and_eq_true, decide_eq_true_iff, decide_eq_true_iff]

theorem isPrintable_of_fitsForm {form character : Char} (printable : isPrintable form)
    (fits : fitsForm form character) : isPrintable character := by
  unfold fitsForm at fits
  split at fits
  · rw [Bool.or_eq_true, Char.isDigit_iff_toNat, Bool.and_eq_true, decide_eq_true_iff,
      decide_eq_true_iff] at fits
    rw [isPrintable_iff]
    rcases fits with ⟨above, below⟩ | ⟨above, below⟩
    · exact ⟨Nat.le_trans (by decide) above, Nat.lt_of_le_of_lt below (by decide)⟩
    · exact ⟨Nat.le_trans (by decide) above, Nat.lt_of_le_of_lt below (by decide)⟩
  · have four : ['8', '9', 'a', 'b'].all isPrintable := by decide
    exact List.all_eq_true.1 four character (of_decide_eq_true fits)
  · rwa [← eq_of_beq fits]

theorem all_isPrintable_of_forall₂ {forms characters : List Char}
    (fits : List.Forall₂ (fun form character => fitsForm form character) forms characters)
    (printable : forms.all isPrintable) : characters.all isPrintable := by
  induction fits with
  | nil => rfl
  | cons fit fits inductionHypothesis =>
      rw [List.all_cons, Bool.and_eq_true] at printable ⊢
      exact ⟨isPrintable_of_fitsForm printable.1 fit, inductionHypothesis printable.2⟩

theorem toNat_ofNat_of_isPrintable {character : Char} (printable : isPrintable character) :
    (UInt8.ofNat character.toNat).toNat = character.toNat :=
  UInt8.toNat_ofNat_of_lt' (Nat.lt_trans (isPrintable_iff.1 printable).2 (by decide))

theorem isTextByte_of_isPrintable {character : Char} (printable : isPrintable character) :
    isTextByte (UInt8.ofNat character.toNat) := by
  simp only [isTextByte, Bool.or_eq_true, Bool.and_eq_true, decide_eq_true_eq,
    UInt8.le_iff_toNat_le, UInt8.lt_iff_toNat_lt, toNat_ofNat_of_isPrintable printable]
  exact .inr (isPrintable_iff.1 printable)

/-- A text of printable characters could have been read. -/
theorem exists_readable_of_all_isPrintable {text : String} (nonempty : text ≠ "")
    (printable : text.toList.all isPrintable) : ∃ bytes, IsReadable bytes ∧ text = textOf bytes := by
  rw [List.all_eq_true] at printable
  refine ⟨text.toList.map fun character => UInt8.ofNat character.toNat, ⟨?_, ?_⟩, ?_⟩
  · rw [Ne, List.map_eq_nil_iff, String.toList_eq_nil_iff]
    exact nonempty
  · rw [List.all_map, List.all_eq_true]
    exact fun character member => isTextByte_of_isPrintable (printable character member)
  · have each (character : Char) (member : character ∈ text.toList) :
        Char.ofNat (UInt8.ofNat character.toNat).toNat = character := by
      rw [toNat_ofNat_of_isPrintable (printable character member), Char.ofNat_toNat]
    rw [textOf, List.map_map, Function.comp_def, List.map_congr_left each, List.map_id',
      String.ofList_toList]

/-- A generated id could have been read. -/
theorem IsGenerated.exists_readable {id : String} (generated : IsGenerated id) :
    ∃ bytes, IsReadable bytes ∧ id = textOf bytes := by
  refine exists_readable_of_all_isPrintable ?_ (all_isPrintable_of_forall₂ generated (by decide))
  rintro rfl
  cases generated

/-! ### Calls -/

/-- The request id of a call is the first value that the caller sent, unless it did not send any
or the first one is not readable. -/
theorem Call.requestId_cases (call : Call) (fresh : String) :
    (∃ first later, call.metadata.valuesOf requestIdKey = first :: later ∧ IsReadable first ∧
      call.requestId fresh = textOf first) ∨
    (∀ first later, call.metadata.valuesOf requestIdKey = first :: later → ¬ IsReadable first) ∧
      call.requestId fresh = fresh :=
  call.metadata.getD_text?_cases requestIdKey fresh

/-- Either id, the caller's own or a generated one, is a text that could have been read. -/
theorem Call.exists_readable_requestId (call : Call) {fresh : String}
    (generated : IsGenerated fresh) :
    ∃ bytes, IsReadable bytes ∧ call.requestId fresh = textOf bytes := by
  rcases call.requestId_cases fresh with ⟨first, later, -, readable, own⟩ | ⟨-, made⟩
  · exact ⟨first, readable, own⟩
  · rw [made]
    exact generated.exists_readable

/-- The reply to a request carries the id that is sent back. -/
theorem CallReport.requestId_reply (report : CallReport) :
    report.reply.requestId = report.sentId? := by
  rw [CallReport.reply]
  cases report.result with
  | ok reply => rfl
  | error rejection => rfl

/-- **Every call is answered under exactly one request id.**  Whatever a call asks for and however
it ends, what is sent back carries one request id, which is not empty and is the id that is
recorded.  It is the first value that the caller sent, byte for byte, if that value is readable,
and else a generated id. -/
theorem Station.answered_under_one_id (station : Station) (call : Call) {fresh : String}
    (generated : IsGenerated fresh) :
    let report := (station.answerCall fresh call).1
    let sent := call.metadata.valuesOf requestIdKey
    let answered := report.metadata.valuesOf requestIdKey
    report.requestId ≠ "" ∧ answered = [report.requestId.toUTF8.data.toList] ∧
      report.reply.requestId = some report.requestId ∧
      (∀ first later, sent = first :: later → IsReadable first → answered = [first]) ∧
      ((∀ first later, sent = first :: later → ¬ IsReadable first) →
        report.requestId = fresh) := by
  intro report sent answered
  have requestId_eq : report.requestId = call.requestId fresh := rfl
  have metadata_eq : report.metadata = replyMetadata report.requestId := rfl
  obtain ⟨bytes, readable, spelled⟩ := call.exists_readable_requestId generated
  rw [← requestId_eq] at spelled
  have written : report.requestId.toUTF8.data.toList = bytes := by
    rw [spelled, toUTF8_textOf readable]
  have answered_eq : answered = [report.requestId.toUTF8.data.toList] := by
    rw [written, ← valuesOf_replyMetadata readable, ← spelled, ← metadata_eq]
  refine ⟨fun empty => ?_, answered_eq, ?_, fun first later found own => ?_, fun foreign => ?_⟩
  · rw [empty] at written
    exact readable.1 written.symm
  · rw [report.requestId_reply, CallReport.sentId?, metadata_eq, spelled,
      text?_replyMetadata readable]
  · rcases call.requestId_cases fresh with ⟨other, others, foundToo, -, named⟩ | ⟨foreign, -⟩
    · obtain rfl := (List.cons.inj (found.symm.trans foundToo)).1
      rw [answered_eq, requestId_eq, named, toUTF8_textOf own]
    · exact absurd own (foreign first later found)
  · rcases call.requestId_cases fresh with ⟨first, later, found, readable, -⟩ | ⟨-, made⟩
    · exact absurd readable (foreign first later found)
    · rw [requestId_eq, made]

/-- Two callers send two values each, one of which is not readable.  The one that comes first
decides. -/
theorem Station.first_value_decides :
    let station : Station := .new ⟨.new .never, .new (.reliable [.plain "login" 3]) ⟨1, ⟨5⟩⟩⟩
    let call (values : List (List UInt8)) : Call :=
      ⟨.check "10.0.0.1" "" "secret", ⟨values.map ("X-Request-Id", ·)⟩, none⟩
    let report (values : List (List UInt8)) :=
      (station.answerCall "0b2f4c1e-7d3a-4e5f-9a6b-1c2d3e4f5a6b" (call values)).1
    IsGenerated "0b2f4c1e-7d3a-4e5f-9a6b-1c2d3e4f5a6b" ∧
      (report [[113, 9, 55], [113, 255]]).metadata.valuesOf requestIdKey = [[113, 9, 55]] ∧
      (report [[113, 255], [113, 9, 55]]).requestId = "0b2f4c1e-7d3a-4e5f-9a6b-1c2d3e4f5a6b" := by
  intro station call report
  have generated : IsGenerated "0b2f4c1e-7d3a-4e5f-9a6b-1c2d3e4f5a6b" := by decide +kernel
  have key : normalize "X-Request-Id" = requestIdKey := by decide +kernel
  have sent (values : List (List UInt8)) :
      (call values).metadata.valuesOf requestIdKey = values := by
    simp [call, valuesOf, key, List.filter_map, Function.comp_def]
  obtain ⟨-, -, -, own, -⟩ :=
    answered_under_one_id station (call [[113, 9, 55], [113, 255]]) generated
  obtain ⟨-, -, -, -, made⟩ :=
    answered_under_one_id station (call [[113, 255], [113, 9, 55]]) generated
  refine ⟨generated, own _ _ (sent _) (by decide), made fun first later found => ?_⟩
  obtain rfl := (List.cons.inj ((sent _).symm.trans found)).1
  decide

end LoginThrottle
