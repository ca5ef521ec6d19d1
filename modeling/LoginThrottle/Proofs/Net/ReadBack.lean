import LoginThrottle.Proofs.Net.Numeral
import LoginThrottle.Proofs.Net.Prefix
import LoginThrottle.Proofs.Net.Spelling

/-!
# Addresses that are read back

The preferred spelling of an address spells that address, whatever stands behind it, unless it
might belong to the address.  The groups of zeros that a spelling leaves out are the ones that the
reader puts in.

## Main Definitions

* `IpAddress.laterGroups`: groups as they stand behind another one
* `IpAddress.EndsAddress`: what does not belong to an address in front of it

## Main Statements

* `IpAddress.readOctets?_intercalate`, `IpAddress.readGroups_renderGroups`: numbers with marks
  between them are read back
* `IpAddress.exists_longestZeroRun`: where the zeros are that a spelling leaves out
* `IpAddress.readV4?_renderV4`, `IpAddress.readV6?_renderV6`: addresses are read back

## Design Notes

The reader looks for a dotted part in front of every group.  There is none unless a period stands
somewhere behind, so it is enough to know that there are no periods in the rest of the text.
-/

namespace LoginThrottle

namespace IpAddress

/-! ### Numbers from their parts -/

theorem packBits_octets (bits : BitVec 32) : packBits 32 256 (octets bits) = bits := by
  have small := bits.isLt
  refine BitVec.eq_of_toNat_eq ?_
  simp only [packBits, ofDigits, octets, List.map_cons, List.map_nil, List.foldl_cons,
    List.foldl_nil, Nat.shiftRight_eq_div_pow, BitVec.toNat_ofNat]
  omega

theorem packBits_groups (bits : BitVec 128) : packBits 128 65536 (groups bits) = bits := by
  have small := bits.isLt
  refine BitVec.eq_of_toNat_eq ?_
  simp only [packBits, ofDigits, groups, List.map_cons, List.map_nil, List.foldl_cons,
    List.foldl_nil, Nat.shiftRight_eq_div_pow, BitVec.toNat_ofNat]
  omega

theorem lt_of_mem_octets {bits : BitVec 32} {octet : Nat} (member : octet ∈ octets bits) :
    octet < 256 := by
  obtain ⟨shift, -, rfl⟩ := List.mem_map.1 member
  exact Nat.mod_lt _ (by decide)

theorem lt_of_mem_groups {bits : BitVec 128} {value : Nat} (member : value ∈ groups bits) :
    value < 65536 := by
  obtain ⟨shift, -, rfl⟩ := List.mem_map.1 member
  exact Nat.mod_lt _ (by decide)

/-! ### Addresses of 32 bits -/

/-- An octet is read back. -/
theorem read?_octet {value : Nat} (small : value < 256) {rest : List Char}
    (ends : EndsNumeral 10 rest) :
    (AddressSpelling.octet .plain).read? (Nat.toDigits 10 value ++ rest) = some (value, rest) := by
  refine NumeralStyle.read?_toDigits (by decide) (by decide) ?_ small ends
  rintro _ ⟨⟩
  exact (Nat.length_toDigits_le_iff (by decide) (by decide)).2 (Nat.lt_trans small (by decide))

/-- Octets with periods between them are read back. -/
theorem readOctets?_intercalate {values : List Nat} (small : ∀ value ∈ values, value < 256)
    {rest : List Char} (ends : EndsNumeral 10 rest) :
    readOctets? .plain values.length
        (['.'].intercalate (values.map (Nat.toDigits 10)) ++ rest) = some (values, rest) := by
  induction values with
  | nil => rfl
  | cons value later inductionHypothesis =>
      have smallNow := small value List.mem_cons_self
      have smallLater other member := small other (List.mem_cons_of_mem value member)
      cases later with
      | nil =>
          simp [readOctets?, read?_octet smallNow ends]
      | cons next others =>
          have behind : EndsNumeral 10 ('.' ::
              (['.'].intercalate ((next :: others).map (Nat.toDigits 10)) ++ rest)) :=
            endsNumeral_cons (by decide) _
          have text : ['.'].intercalate ((value :: next :: others).map (Nat.toDigits 10)) ++ rest =
              Nat.toDigits 10 value ++ '.' ::
                (['.'].intercalate ((next :: others).map (Nat.toDigits 10)) ++ rest) := by
            simp only [List.map_cons, List.intercalate_cons_cons, List.append_assoc,
              List.cons_append, List.nil_append]
          have more : ¬ (next :: others).length = 0 := Nat.succ_ne_zero _
          rw [text, List.length_cons, readOctets?, read?_octet smallNow behind]
          simp only [Option.bind_eq_bind, Option.bind_some, if_neg more, afterChar?, if_true,
            inductionHypothesis smallLater]
          rfl

theorem toList_renderV4 (bits : BitVec 32) :
    (renderV4 bits).toList = ['.'].intercalate ((octets bits).map (Nat.toDigits 10)) := by
  rw [renderV4, String.toList_intercalate, List.map_map]
  congr 1
  refine List.map_congr_left fun octet _ => ?_
  exact String.toList_ofList

/-- A 32-bit address is read back. -/
theorem readV4?_renderV4 (bits : BitVec 32) {rest : List Char} (ends : EndsNumeral 10 rest) :
    readV4? .plain ((renderV4 bits).toList ++ rest) = some (bits, rest) := by
  have four : readOctets? .plain 4
      (['.'].intercalate ((octets bits).map (Nat.toDigits 10)) ++ rest) =
        some (octets bits, rest) :=
    @readOctets?_intercalate (octets bits) (fun _ member => lt_of_mem_octets member) rest ends
  rw [toList_renderV4, readV4?, four]
  simp [packBits_octets]

/-! ### One group -/

theorem eq_cons_of_afterChar? {expected : Char} {text rest : List Char}
    (found : afterChar? expected text = some rest) : text = expected :: rest := by
  cases text with
  | nil => cases found
  | cons character behind =>
      rw [afterChar?] at found
      split at found
      · next same => rw [same, Option.some.inj found]
      · cases found

/-- A text without an octet at its front is no 32-bit address. -/
theorem readV4?_of_endsNumeral {text : List Char} (ends : EndsNumeral 10 text) :
    readV4? .plain text = none := by
  have missing : (AddressSpelling.octet .plain).read? text = none :=
    NumeralStyle.read?_of_endsNumeral ends
  rw [readV4?, readOctets?, missing]
  rfl

/-- Neither is a text without a period. -/
theorem readV4?_of_undotted {text : List Char} (undotted : '.' ∉ text) :
    readV4? .plain text = none := by
  rw [readV4?, readOctets?]
  cases first : (AddressSpelling.octet .plain).read? text with
  | none => rfl
  | some found =>
      obtain ⟨octet, behind⟩ := found
      have missing : afterChar? '.' behind = none := by
        by_contra dotted
        obtain ⟨rest, separated⟩ := Option.ne_none_iff_exists'.1 dotted
        obtain ⟨front, rfl, -⟩ := NumeralStyle.read?_skipsTo first
        refine undotted (List.mem_append_right front ?_)
        rw [eq_cons_of_afterChar? separated]
        exact List.mem_cons_self
      simp [missing]

theorem dotted_of_undotted {text : List Char} (undotted : '.' ∉ text) (first : Bool) :
    (afterSeparator? first text).bind (readV4? .plain) = none := by
  cases separated : afterSeparator? first text with
  | none => rfl
  | some behind =>
      obtain ⟨front, rfl, -⟩ := afterSeparator?_skipsTo separated
      exact readV4?_of_undotted fun dotted => undotted (List.mem_append_right front dotted)

/-- A group is read back. -/
theorem read?_group {value : Nat} (small : value < 65536) {rest : List Char}
    (ends : EndsNumeral 16 rest) :
    AddressSpelling.group.read? (Nat.toDigits 16 value ++ rest) = some (value, rest) := by
  refine NumeralStyle.read?_toDigits (by decide) (by decide) ?_ small ends
  rintro _ ⟨⟩
  exact (Nat.length_toDigits_le_iff (by decide) (by decide)).2 small

/-- No group begins with a colon. -/
theorem read?_group_colon (behind : List Char) :
    AddressSpelling.group.read? (':' :: behind) = none :=
  NumeralStyle.read?_of_endsNumeral (endsNumeral_cons (by decide) behind)

variable {first : Bool} {text rest : List Char} {limit : Nat}

/-- A group that has no dotted part in its place is read. -/
theorem readGroups_of_group (limit : Nat) {behind : List Char} {value : Nat}
    (whole : (afterSeparator? first text).bind (readV4? .plain) = none)
    (separated : afterSeparator? first text = some behind)
    (found : AddressSpelling.group.read? behind = some (value, rest)) :
    readGroups .plain (limit + 1) first text =
      { readGroups .plain limit false rest with
        values := value :: (readGroups .plain limit false rest).values } := by
  rw [readGroups, whole, ite_self, separated, Option.bind_some, found]

/-- The groups end where neither a dotted part nor a group follows. -/
theorem readGroups_of_none (limit : Nat)
    (whole : (afterSeparator? first text).bind (readV4? .plain) = none)
    (missing : (afterSeparator? first text).bind AddressSpelling.group.read? = none) :
    readGroups .plain limit first text = ⟨[], false, text⟩ := by
  cases limit with
  | zero => rfl
  | succ limit => rw [readGroups, whole, ite_self, missing]

/-! ### Groups in a row -/

/-- Groups as they stand behind another one, each with a colon in front of it. -/
def laterGroups (values : List Nat) : List Char :=
  values.flatMap fun value => ':' :: Nat.toDigits 16 value

theorem toList_renderGroups_cons (value : Nat) (values : List Nat) :
    (renderGroups (value :: values)).toList = Nat.toDigits 16 value ++ laterGroups values := by
  have written (value : Nat) : (renderHex value).toList = Nat.toDigits 16 value :=
    String.toList_ofList
  rw [renderGroups, String.toList_intercalate]
  induction values generalizing value with
  | nil => simp [laterGroups, written]
  | cons next others inductionHypothesis =>
      have later := inductionHypothesis next
      simp only [List.map_cons, List.intercalate_cons_cons] at later ⊢
      rw [later, written]
      simp [laterGroups]

theorem undotted_toDigits (value : Nat) : '.' ∉ Nat.toDigits 16 value :=
  notMem_toDigits (by decide) (by decide) (by decide) value

theorem undotted_laterGroups (values : List Nat) : '.' ∉ laterGroups values := by
  intro dotted
  obtain ⟨value, -, member⟩ := List.mem_flatMap.1 dotted
  rcases List.mem_cons.1 member with colon | digit
  · exact absurd colon (by decide)
  · exact undotted_toDigits value digit

theorem undotted_renderGroups (values : List Nat) : '.' ∉ (renderGroups values).toList := by
  cases values with
  | nil => exact List.not_mem_nil
  | cons value values =>
      rw [toList_renderGroups_cons, List.mem_append, not_or]
      exact ⟨undotted_toDigits value, undotted_laterGroups values⟩

theorem endsNumeral_laterGroups (values : List Nat) (ends : EndsNumeral 16 rest) :
    EndsNumeral 16 (laterGroups values ++ rest) := by
  cases values with
  | nil => exact ends
  | cons value values => exact endsNumeral_cons (by decide) _

/-- No other group follows behind some groups, or there is no room for it. -/
def Stops (limit : Nat) (values : List Nat) (rest : List Char) : Prop :=
  values.length = limit ∨ (afterChar? ':' rest).bind AddressSpelling.group.read? = none

/-- Groups behind another one are read back. -/
theorem readGroups_laterGroups {values : List Nat} (fits : values.length ≤ limit)
    (small : ∀ value ∈ values, value < 65536) (undotted : '.' ∉ rest)
    (ends : EndsNumeral 16 rest) (stops : Stops limit values rest) :
    readGroups .plain limit false (laterGroups values ++ rest) = ⟨values, false, rest⟩ := by
  induction values generalizing limit with
  | nil =>
      rcases stops with rfl | missing
      · rfl
      · exact readGroups_of_none limit (dotted_of_undotted undotted false) missing
  | cons value later inductionHypothesis =>
      obtain ⟨more, rfl⟩ := Nat.exists_eq_add_of_le' (Nat.lt_of_lt_of_le (Nat.succ_pos _) fits)
      have undottedText : '.' ∉ laterGroups (value :: later) ++ rest := by
        rw [List.mem_append, not_or]
        exact ⟨undotted_laterGroups _, undotted⟩
      have separated : afterSeparator? false (laterGroups (value :: later) ++ rest) =
          some (Nat.toDigits 16 value ++ (laterGroups later ++ rest)) := by
        simp [afterSeparator?, afterChar?, laterGroups]
      have found := read?_group (small value List.mem_cons_self)
        (endsNumeral_laterGroups later ends)
      have stopsLater : Stops more later rest := stops.imp_left Nat.succ.inj
      rw [readGroups_of_group more (dotted_of_undotted undottedText false) separated found,
        inductionHypothesis (Nat.le_of_succ_le_succ fits)
          (fun other member => small other (List.mem_cons_of_mem value member)) stopsLater]

/-- Groups at the front of a text are read back. -/
theorem readGroups_renderGroups {values : List Nat} (fits : values.length ≤ limit)
    (small : ∀ value ∈ values, value < 65536) (undotted : '.' ∉ rest)
    (ends : EndsNumeral 16 rest) (stops : Stops limit values rest) :
    readGroups .plain limit true ((renderGroups values).toList ++ rest) =
      ⟨values, false, rest⟩ := by
  have undottedText : '.' ∉ (renderGroups values).toList ++ rest := by
    rw [List.mem_append, not_or]
    exact ⟨undotted_renderGroups values, undotted⟩
  cases values with
  | nil =>
      exact readGroups_of_none limit (dotted_of_undotted undottedText true)
        (NumeralStyle.read?_of_endsNumeral ends)
  | cons value later =>
      obtain ⟨more, rfl⟩ := Nat.exists_eq_add_of_le' (Nat.lt_of_lt_of_le (Nat.succ_pos _) fits)
      have separated : afterSeparator? true ((renderGroups (value :: later)).toList ++ rest) =
          some (Nat.toDigits 16 value ++ (laterGroups later ++ rest)) := by
        rw [toList_renderGroups_cons, List.append_assoc]
        rfl
      have found := read?_group (small value List.mem_cons_self)
        (endsNumeral_laterGroups later ends)
      rw [readGroups_of_group more (dotted_of_undotted undottedText true) separated found,
        readGroups_laterGroups (Nat.le_of_succ_le_succ fits)
          (fun other member => small other (List.mem_cons_of_mem value member)) undotted ends
          (stops.imp_left Nat.succ.inj)]

/-! ### Runs of zeros -/

theorem exists_zeroRun (values : List Nat) :
    ∃ behind, values = List.replicate (zeroRun values) 0 ++ behind := by
  induction values with
  | nil => exact ⟨[], rfl⟩
  | cons value rest inductionHypothesis =>
      cases value with
      | zero =>
          obtain ⟨behind, same⟩ := inductionHypothesis
          exact ⟨behind, congrArg (List.cons 0) same⟩
      | succ more => exact ⟨(more + 1) :: rest, rfl⟩

/-- The longest run of zeros lies where it is said to. -/
theorem exists_longestZeroRun (start : Nat) (values : List Nat) :
    ∃ front behind,
      values = front ++ List.replicate (longestZeroRun start values).2 0 ++ behind ∧
        (longestZeroRun start values).1 = start + front.length := by
  induction values generalizing start with
  | nil => exact ⟨[], [], rfl, rfl⟩
  | cons value rest inductionHypothesis =>
      rw [longestZeroRun]
      split
      · obtain ⟨front, behind, same, place⟩ := inductionHypothesis (start + 1)
        refine ⟨value :: front, behind, congrArg (List.cons value) same, ?_⟩
        rw [place, List.length_cons]
        omega
      · obtain ⟨behind, same⟩ := exists_zeroRun (value :: rest)
        exact ⟨[], behind, same, rfl⟩

/-! ### Addresses of 128 bits -/

/-- An address with all its groups is read. -/
theorem readV6?_of_all {values : List Nat}
    (read : readGroups .plain groupCount true text = ⟨values, false, rest⟩)
    (all : values.length = groupCount) :
    readV6? .plain text = some (packBits 128 65536 values, rest) := by
  rw [readV6?, read]
  exact if_pos all

/-- An address with a gap is read: the groups that are missing are zeros. -/
theorem readV6?_of_gap {front : List Nat} {behind : List Char} {tail : Groups}
    (head : readGroups .plain groupCount true text = ⟨front, false, ':' :: ':' :: behind⟩)
    (few : front.length < groupCount)
    (read : readGroups .plain (groupCount - front.length - 1) true behind = tail) :
    readV6? .plain text =
      some (packBits 128 65536 (front ++
        List.replicate (groupCount - front.length - tail.values.length) 0 ++ tail.values),
          tail.rest) := by
  subst read
  rw [readV6?, head]
  exact if_neg (Nat.ne_of_lt few)

theorem readGroups_colon (limit : Nat) (behind : List Char) :
    readGroups .plain limit true (':' :: behind) = ⟨[], false, ':' :: behind⟩ :=
  readGroups_of_none limit (readV4?_of_endsNumeral (endsNumeral_cons (by decide) behind))
    (read?_group_colon behind)

/-- The spelling of an address that stands for a 32-bit address is read back. -/
theorem readV6?_mapped (short : BitVec 32) (ends : EndsNumeral 10 rest) :
    readV6? .plain ("::ffff:".toList ++ ((renderV4 short).toList ++ rest)) =
      some (mapV4 short, rest) := by
  have shortRead := readV4?_renderV4 short ends
  generalize (renderV4 short).toList ++ rest = behind at shortRead ⊢
  have dotted : readGroups .plain 6 false (':' :: behind) =
      ⟨[short.toNat / 65536, short.toNat % 65536], true, rest⟩ := by
    rw [readGroups]
    simp [afterSeparator?, afterChar?, shortRead]
  have tail : readGroups .plain 7 true ("ffff:".toList ++ behind) =
      ⟨[0xffff, short.toNat / 65536, short.toNat % 65536], true, rest⟩ := by
    have found : AddressSpelling.group.read? (Nat.toDigits 16 0xffff ++ ':' :: behind) =
        some (0xffff, ':' :: behind) :=
      read?_group (by decide) (endsNumeral_cons (by decide) behind)
    have whole : (afterSeparator? true ("ffff:".toList ++ behind)).bind (readV4? .plain) = none :=
      readV4?_of_endsNumeral (endsNumeral_cons (by decide) _)
    rw [readGroups_of_group 6 whole rfl found, dotted]
  have packed : packBits 128 65536 [0, 0, 0, 0, 0, 0xffff, short.toNat / 65536,
      short.toNat % 65536] = mapV4 short := by
    have small := short.isLt
    refine BitVec.eq_of_toNat_eq ?_
    rw [toNat_mapV4]
    simp only [packBits, ofDigits, List.foldl_cons, List.foldl_nil, BitVec.toNat_ofNat]
    omega
  refine (readV6?_of_gap (readGroups_colon groupCount _) (by decide) tail).trans ?_
  exact congrArg (fun bits => some (bits, rest)) packed

/-- Nothing at the front of a text might belong to a 128-bit address in front of it. -/
structure EndsAddress (rest : List Char) : Prop where
  undotted : '.' ∉ rest
  digitless : EndsNumeral 16 rest
  apart : afterChar? ':' rest = none

theorem EndsAddress.stops (ends : EndsAddress rest) (limit : Nat) (values : List Nat) :
    Stops limit values rest :=
  .inr (by rw [ends.apart, Option.bind_none])

/-- A run of at least two zeros that is left out is put in again. -/
theorem readV6?_renderGroups {front behind : List Nat} {length : Nat} (long : 1 < length)
    (small : ∀ value ∈ front ++ List.replicate length 0 ++ behind, value < 65536)
    (eight : (front ++ List.replicate length 0 ++ behind).length = groupCount)
    (ends : EndsAddress rest) :
    readV6? .plain ((renderGroups front).toList ++
        ':' :: ':' :: ((renderGroups behind).toList ++ rest)) =
      some (packBits 128 65536 (front ++ List.replicate length 0 ++ behind), rest) := by
  rw [List.length_append, List.length_append, List.length_replicate] at eight
  have undottedBehind : '.' ∉ ':' :: ':' :: ((renderGroups behind).toList ++ rest) := by
    simp [undotted_renderGroups, ends.undotted]
  have stops : Stops groupCount front (':' :: ':' :: ((renderGroups behind).toList ++ rest)) :=
    .inr (read?_group_colon ((renderGroups behind).toList ++ rest))
  have head := readGroups_renderGroups (by omega)
    (fun value member => small value (List.mem_append_left _ (List.mem_append_left _ member)))
    undottedBehind (endsNumeral_cons (by decide) _) stops
  have tail : readGroups .plain (groupCount - front.length - 1) true
      ((renderGroups behind).toList ++ rest) = ⟨behind, false, rest⟩ :=
    readGroups_renderGroups (by omega)
      (fun value member => small value (List.mem_append_right _ member)) ends.undotted
      ends.digitless (ends.stops _ _)
  have missing : groupCount - front.length - behind.length = length := by omega
  rw [readV6?_of_gap head (by omega) tail, missing]

/-- The spelling of a 128-bit address is read back. -/
theorem readV6?_renderV6 (bits : BitVec 128) (ends : EndsAddress rest) :
    readV6? .plain ((renderV6 bits).toList ++ rest) = some (bits, rest) := by
  cases mapped : mapped? bits with
  | some short =>
      have text : (renderV6 bits).toList ++ rest =
          "::ffff:".toList ++ ((renderV4 short).toList ++ rest) := by
        simp only [renderV6, mapped, String.toList_append, List.append_assoc]
      rw [text, readV6?_mapped short (ends.digitless.mono (by decide)), mapV4_of_mapped? mapped]
  | none =>
      have packed := packBits_groups bits
      have small : ∀ value ∈ groups bits, value < 65536 := fun _ member => lt_of_mem_groups member
      have eight : (groups bits).length = groupCount := rfl
      simp only [renderV6, mapped]
      generalize groups bits = values at packed small eight
      obtain ⟨front, behind, same, place⟩ := exists_longestZeroRun 0 values
      generalize longestZeroRun 0 values = run at same place
      obtain ⟨start, length⟩ := run
      simp only [Nat.zero_add] at same place ⊢
      subst place
      split
      · next long =>
          subst same
          have text : (renderGroups ((front ++ List.replicate length 0 ++ behind).take
                front.length) ++ "::" ++
              renderGroups ((front ++ List.replicate length 0 ++ behind).drop
                (front.length + length))).toList ++ rest =
              (renderGroups front).toList ++
                ':' :: ':' :: ((renderGroups behind).toList ++ rest) := by
            have front_eq : (front ++ List.replicate length 0 ++ behind).take front.length =
                front := by
              rw [List.append_assoc, List.take_left]
            have behind_eq : (front ++ List.replicate length 0 ++ behind).drop
                (front.length + length) = behind :=
              List.drop_left' (by simp)
            rw [front_eq, behind_eq]
            simp
          rw [text, readV6?_renderGroups long small eight ends, packed]
      · have read := readGroups_renderGroups (Nat.le_of_eq eight) small ends.undotted
          ends.digitless (.inl eight)
        rw [readV6?_of_all read eight, packed]

end IpAddress

end LoginThrottle
