import HsmSimulator.Core.Integers
import HsmSimulator.Core.Paths
import HsmSimulator.Library.Formats
import HsmSimulator.Storage.Metadata

/-!
# The metadata codec

The syntax of a metadata file, and that the reader accepts exactly the files of that
syntax.  What the writer makes of records within the limits of the reader is such a file,
and it reads back as the same records.  Beyond the limits it reads back as the same
records or not at all.
-/

namespace HsmSimulator

namespace Metadata

open Formats

/-! ## Syntax -/

/-- A record as it stands in a file, with its policies in their order. -/
structure RecordText where
  objectClass : Nat
  label : Bytes
  id : Bytes
  policies : List (Nat × Bool)
  deriving DecidableEq

/-- A metadata file. -/
structure FileText where
  version : Nat
  records : List RecordText
  deriving DecidableEq

/-- Policies within the limits: only the second format has any. -/
structure PoliciesValid (version : Nat) (policies : List (Nat × Bool)) : Prop where
  count : policies.length ≤ 32
  types : ∀ policy ∈ policies, policy.1 < 2 ^ 32
  distinct : (policies.map Prod.fst).Nodup
  legacy : version ≠ policyFormat → policies = []

namespace RecordText

structure Valid (version : Nat) (text : RecordText) : Prop where
  objectClass : 1 ≤ text.objectClass ∧ text.objectClass ≤ 4
  label : text.label.length ≤ 65536
  id : text.id.length ≤ 65536
  policies : PoliciesValid version text.policies

/-- The record of the text, under its class. -/
def meaning (text : RecordText) : Nat × Attributes :=
  (text.objectClass, ⟨text.label, text.id, (∅ : OrderedMap Nat Bool).insertAll text.policies⟩)

end RecordText

/-- A string with its length. -/
def renderString (value : Bytes) : Bytes := writeUint32 value.length ++ value

/-- The policies of a record; the first format leaves them out. -/
def renderPolicies (version : Nat) (policies : List (Nat × Bool)) : Bytes :=
  if version = policyFormat then writeUint32 policies.length ++ writePolicies policies else []

def RecordText.render (version : Nat) (text : RecordText) : Bytes :=
  writeUint32 text.objectClass ++ renderString text.label ++ renderString text.id ++
    renderPolicies version text.policies

namespace FileText

structure Valid (text : FileText) : Prop where
  version : text.version = legacyFormat ∨ text.version = policyFormat
  count : text.records.length ≤ 4
  records : ∀ record ∈ text.records, record.Valid text.version
  distinct : (text.records.map RecordText.objectClass).Nodup

def meaning (text : FileText) : Records :=
  (∅ : Records).insertAll (text.records.map RecordText.meaning)

def render (text : FileText) : Bytes :=
  writeUint32 text.version ++ writeUint32 text.records.length ++
    text.records.flatMap (RecordText.render text.version)

end FileText

/-! ## Words, strings and policies -/

def wordFormat : Format UInt8 Nat := fun value encoding =>
  value < 2 ^ 32 ∧ encoding = writeUint32 value

theorem reads_word : Reads readUint32 wordFormat := by
  intro input value rest
  constructor
  · intro taken
    unfold readUint32 at taken
    split at taken
    · rename_i a b c d rest
      cases taken
      have bound : bigEndianValue [a, b, c, d] < 256 ^ 4 := bigEndianValue_lt [a, b, c, d]
      have encoded : writeUint32 (bigEndianValue [a, b, c, d]) = [a, b, c, d] :=
        bigEndianBytes_value [a, b, c, d]
      exact ⟨[a, b, c, d], ⟨by omega, encoded.symm⟩, rfl⟩
    · contradiction
  · rintro ⟨encoding, ⟨bound, rfl⟩, rfl⟩
    have value_eq := bigEndianValue_bytes 4 value
    rw [Nat.mod_eq_of_lt (by omega)] at value_eq
    change some (bigEndianValue (bigEndianBytes 4 value), rest) = _
    rw [value_eq]

def stringFormat : Format UInt8 Bytes := fun value encoding =>
  value.length ≤ 65536 ∧ encoding = renderString value

theorem readString_eq (input : Bytes) :
    readString input = (readUint32 input).bind fun result =>
      if 65536 < result.1 then none else readBlock result.1 result.2 := by
  unfold readString
  cases readUint32 input with
  | none => rfl
  | some result =>
      change (if 65536 < result.1 ∨ result.2.length < result.1 then none
        else some (result.2.take result.1, result.2.drop result.1)) =
          if 65536 < result.1 then none else readBlock result.1 result.2
      unfold readBlock
      by_cases large : 65536 < result.1
      · simp [large]
      · simp [large]

theorem reads_string : Reads readString stringFormat := by
  have parts := reads_word.andThen fun count =>
    @Reads.guard UInt8 Bytes (readBlock count) (Block count) (65536 < count) _ (Reads.block count)
  intro input value rest
  rw [readString_eq]
  refine (parts.congr ?_) input value rest
  intro value encoding
  constructor
  · rintro ⟨count, front, back, ⟨_, rfl⟩, ⟨small, rfl, rfl⟩, rfl⟩
    exact ⟨not_lt.mp small, rfl⟩
  · rintro ⟨small, rfl⟩
    exact ⟨value.length, writeUint32 value.length, value, ⟨by omega, rfl⟩,
      ⟨not_lt.mpr small, rfl, rfl⟩, rfl⟩

/-- One policy: its type, and 0 or 1. -/
def readPair : Reader UInt8 (Nat × Bool) := fun input =>
  (readUint32 input).bind fun type => (readUint32 type.2).bind fun value =>
    if 1 < value.1 then none else some ((type.1, decide (value.1 ≠ 0)), value.2)

def renderPair (policy : Nat × Bool) : Bytes :=
  writeUint32 policy.1 ++ writeUint32 (if policy.2 then 1 else 0)

def pairFormat : Format UInt8 (Nat × Bool) :=
  Rendered (fun policy => policy.1 < 2 ^ 32) id renderPair

theorem reads_pair : Reads readPair pairFormat := by
  have parts := reads_word.andThen fun type => reads_word.andThen fun value =>
    @Reads.guard UInt8 (Nat × Bool) _ _ (1 < value) _ (Reads.nothing (type, decide (value ≠ 0)))
  refine parts.congr ?_
  intro policy encoding
  constructor
  · rintro ⟨type, front, _, ⟨bound, rfl⟩, ⟨value, middle, _, ⟨_, rfl⟩, ⟨small, rfl, rfl⟩, rfl⟩, rfl⟩
    refine ⟨(type, decide (value ≠ 0)), bound, rfl, ?_⟩
    have isBit : value = 0 ∨ value = 1 := by omega
    rcases isBit with rfl | rfl <;> simp [renderPair]
  · rintro ⟨⟨type, set⟩, bound, rfl, rfl⟩
    refine ⟨type, _, _, ⟨bound, rfl⟩, ⟨if set then 1 else 0, _, [], ⟨?_, rfl⟩, ⟨?_, ?_, rfl⟩, rfl⟩,
      ?_⟩
    · cases set <;> decide
    · cases set <;> decide
    · cases set <;> rfl
    · simp [renderPair]

/-- The reader of policies adds pairs with new types to the policies read so far. -/
theorem readPolicies_eq (count : Nat) (policy : OrderedMap Nat Bool) (input : Bytes) :
    readPolicies count policy input =
      readInto readPair OrderedMap.insertNew count policy input := by
  induction count generalizing policy input with
  | zero => rfl
  | succ count ih =>
      simp only [readPolicies, readInto, readPair, OrderedMap.insertNew, Option.bind_eq_bind]
      cases readUint32 input with
      | none => rfl
      | some type =>
          simp only [Option.bind_some]
          cases readUint32 type.2 with
          | none => rfl
          | some value =>
              simp only [Option.bind_some]
              by_cases large : 1 < value.1
              · simp [large]
              · by_cases stored : (policy.get? type.1).isSome = true
                · simp [large, stored]
                · simp [large, stored, ih]

theorem writePolicies_eq (policies : List (Nat × Bool)) :
    writePolicies policies = policies.flatMap renderPair :=
  rfl

/-- The policies of a record as they are added up. -/
theorem into_pairs_iff {count : Nat} {policy : OrderedMap Nat Bool} {encoding : Bytes} :
    Into pairFormat OrderedMap.insertNew count ∅ policy encoding ↔
      ∃ policies : List (Nat × Bool), policies.length = count ∧
        (∀ entry ∈ policies, entry.1 < 2 ^ 32) ∧ (policies.map Prod.fst).Nodup ∧
        (∅ : OrderedMap Nat Bool).insertAll policies = policy ∧
        writePolicies policies = encoding := by
  simp only [Into, pairFormat, each_rendered_iff, OrderedMap.foldlM_insertNew_eq_some_iff,
    OrderedMap.get?_empty, implies_true, true_and, List.map_id, writePolicies_eq]
  constructor
  · rintro ⟨_, length, ⟨distinct, sum⟩, policies, bounds, rfl, rendered⟩
    exact ⟨policies, length, bounds, distinct, sum, rendered⟩
  · rintro ⟨policies, length, bounds, distinct, sum, rendered⟩
    exact ⟨policies, length, ⟨distinct, sum⟩, policies, bounds, rfl, rendered⟩

def policiesFormat (version : Nat) : Format UInt8 (OrderedMap Nat Bool) :=
  Rendered (PoliciesValid version) (∅ : OrderedMap Nat Bool).insertAll (renderPolicies version)

theorem reads_policies (version : Nat) : Reads (readPolicy version) (policiesFormat version) := by
  by_cases hasPolicies : version = policyFormat
  · have parts := reads_word.andThen fun count =>
      @Reads.guard UInt8 (OrderedMap Nat Bool) _ _ (32 < count) _
        (reads_pair.into OrderedMap.insertNew count ∅)
    intro input value rest
    have same : readPolicy version input = (readUint32 input).bind fun result =>
        if 32 < result.1 then none
        else readInto readPair OrderedMap.insertNew result.1 ∅ result.2 := by
      simp only [readPolicy, if_pos hasPolicies, Option.bind_eq_bind]
      cases readUint32 input with
      | none => rfl
      | some result => simp only [Option.bind_some, readPolicies_eq]
    rw [same]
    refine (parts.congr ?_) input value rest
    intro policy encoding
    constructor
    · rintro ⟨count, front, back, ⟨_, rfl⟩, ⟨small, entries⟩, rfl⟩
      rcases into_pairs_iff.mp entries with ⟨policies, rfl, bounds, distinct, rfl, rfl⟩
      refine ⟨policies, ⟨not_lt.mp small, bounds, distinct, ?_⟩, rfl, ?_⟩
      · intro notPolicies
        exact absurd hasPolicies notPolicies
      · rw [renderPolicies, if_pos hasPolicies]
    · rintro ⟨policies, valid, rfl, rfl⟩
      have small := valid.count
      refine ⟨policies.length, _, writePolicies policies, ⟨by omega, rfl⟩,
        ⟨not_lt.mpr small, ?_⟩, ?_⟩
      · exact into_pairs_iff.mpr ⟨policies, rfl, valid.types, valid.distinct, rfl, rfl⟩
      · rw [renderPolicies, if_pos hasPolicies]
  · intro input value rest
    have same : readPolicy version input = some (∅, input) := if_neg hasPolicies
    rw [same]
    refine ((Reads.nothing (∅ : OrderedMap Nat Bool)).congr ?_) input value rest
    intro policy encoding
    constructor
    · rintro ⟨rfl, rfl⟩
      exact ⟨[], ⟨Nat.zero_le _, by simp, List.nodup_nil, fun _ => rfl⟩, rfl, if_neg hasPolicies⟩
    · rintro ⟨policies, valid, rfl, rfl⟩
      rcases valid.legacy hasPolicies with rfl
      exact ⟨rfl, if_neg hasPolicies⟩

/-! ## Records and files -/

def recordFormat (version : Nat) : Format UInt8 (Nat × Attributes) :=
  Rendered (RecordText.Valid version) RecordText.meaning (RecordText.render version)

theorem reads_record (version : Nat) : Reads (readRecord version) (recordFormat version) := by
  have parts := reads_word.andThen fun cls =>
    @Reads.guard UInt8 (Nat × Attributes) _ _ (cls < 1 ∨ 4 < cls) _
      (reads_string.andThen fun label => reads_string.andThen fun id =>
        (reads_policies version).andThen fun policy => Reads.nothing (cls, ⟨label, id, policy⟩))
  intro input value rest
  refine (parts.congr ?_) input value rest
  intro record encoding
  constructor
  · rintro ⟨cls, _, _, ⟨_, rfl⟩, ⟨inRange, label, _, _, ⟨labelShort, rfl⟩,
      ⟨id, _, _, ⟨idShort, rfl⟩, ⟨_, _, _, ⟨policies, valid, rfl, rfl⟩, ⟨rfl, rfl⟩, rfl⟩, rfl⟩,
      rfl⟩,
      rfl⟩
    push Not at inRange
    refine ⟨⟨cls, label, id, policies⟩, ⟨inRange, labelShort, idShort, valid⟩, rfl, ?_⟩
    simp [RecordText.render]
  · rintro ⟨⟨cls, label, id, policies⟩, ⟨inRange, labelShort, idShort, valid⟩, rfl, rfl⟩
    dsimp only at inRange labelShort idShort valid
    refine ⟨cls, _, _, ⟨by omega, rfl⟩, ⟨by omega, label, _, _, ⟨labelShort, rfl⟩,
      ⟨id, _, _, ⟨idShort, rfl⟩, ⟨_, _, [], ⟨policies, valid, rfl, rfl⟩, ⟨rfl, rfl⟩, rfl⟩, rfl⟩,
      rfl⟩,
      ?_⟩
    simp [RecordText.render]

theorem readRecords_eq (version count : Nat) (records : Records) (input : Bytes) :
    readRecords version count records input =
      readInto (readRecord version) OrderedMap.insertNew count records input := by
  induction count generalizing records input with
  | zero => rfl
  | succ count ih =>
      simp only [readRecords, readInto, OrderedMap.insertNew, Option.bind_eq_bind]
      cases readRecord version input with
      | none => rfl
      | some result =>
          simp only [Option.bind_some]
          by_cases stored : (records.get? result.1.1).isSome = true
          · simp [stored]
          · simp [stored, ih]

/-- The records of a file as they are added up. -/
theorem into_records_iff {version count : Nat} {records : Records} {encoding : Bytes} :
    Into (recordFormat version) OrderedMap.insertNew count ∅ records encoding ↔
      ∃ texts : List RecordText, texts.length = count ∧
        (∀ text ∈ texts, text.Valid version) ∧
        (texts.map RecordText.objectClass).Nodup ∧
        (∅ : Records).insertAll (texts.map RecordText.meaning) = records ∧
        texts.flatMap (RecordText.render version) = encoding := by
  have classes (texts : List RecordText) :
      (texts.map RecordText.meaning).map Prod.fst = texts.map RecordText.objectClass := by
    rw [List.map_map]
    rfl
  simp only [Into, recordFormat, each_rendered_iff, OrderedMap.foldlM_insertNew_eq_some_iff,
    OrderedMap.get?_empty, implies_true, true_and]
  constructor
  · rintro ⟨_, length, ⟨distinct, sum⟩, texts, valid, rfl, rendered⟩
    rw [classes] at distinct
    exact ⟨texts, by simpa using length, valid, distinct, sum, rendered⟩
  · rintro ⟨texts, length, valid, distinct, sum, rendered⟩
    rw [← classes] at distinct
    exact ⟨_, by simpa using length, ⟨distinct, sum⟩, texts, valid, rfl, rendered⟩

/-- The reader of a file without its limit on the size. -/
def readFile : Reader UInt8 Records := fun input =>
  (readUint32 input).bind fun version =>
    if version.1 ≠ legacyFormat ∧ version.1 ≠ policyFormat then none
    else (readUint32 version.2).bind fun count =>
      if 4 < count.1 then none
      else readInto (readRecord version.1) OrderedMap.insertNew count.1 ∅ count.2

theorem decode_eq (content : Bytes) :
    decode content = if 1024 * 1024 < content.length then none
      else (readFile content).bind fun result =>
        if result.2 ≠ [] then none else some result.1 := by
  unfold decode readFile
  split
  · rfl
  · simp only [Option.bind_eq_bind]
    cases readUint32 content with
    | none => rfl
    | some version =>
        simp only [Option.bind_some]
        split
        · rfl
        · cases readUint32 version.2 with
          | none => rfl
          | some count =>
              simp only [Option.bind_some, readRecords_eq]
              split
              · rfl
              · rfl

theorem reads_file :
    Reads readFile (Rendered FileText.Valid FileText.meaning FileText.render) := by
  have parts := reads_word.andThen fun version =>
    @Reads.guard UInt8 Records _ _ (version ≠ legacyFormat ∧ version ≠ policyFormat) _
      (reads_word.andThen fun count =>
        @Reads.guard UInt8 Records _ _ (4 < count) _
          ((reads_record version).into OrderedMap.insertNew count ∅))
  refine parts.congr ?_
  intro records encoding
  constructor
  · rintro ⟨version, _, _, ⟨_, rfl⟩, ⟨known, count, _, _, ⟨_, rfl⟩, ⟨few, entries⟩, rfl⟩, rfl⟩
    rcases into_records_iff.mp entries with ⟨texts, rfl, valid, distinct, rfl, rfl⟩
    refine ⟨⟨version, texts⟩, ⟨?_, not_lt.mp few, valid, distinct⟩, rfl, ?_⟩
    · by_contra unknown
      exact known (not_or.mp unknown)
    · simp [FileText.render]
  · rintro ⟨⟨version, texts⟩, ⟨known, few, valid, distinct⟩, rfl, rfl⟩
    dsimp only at known few valid distinct
    have wide : version < 2 ^ 32 := by
      rcases known with rfl | rfl
      · decide
      · decide
    refine ⟨version, _, _, ⟨wide, rfl⟩, ⟨not_and_or.mpr (by simpa using known), texts.length, _, _,
      ⟨by omega, rfl⟩,
      ⟨not_lt.mpr few, into_records_iff.mpr ⟨texts, rfl, valid, distinct, rfl, rfl⟩⟩,
      rfl⟩, ?_⟩
    simp [FileText.render]

/-- The reader accepts exactly the files of the syntax. -/
theorem decode_eq_some_iff {content : Bytes} {records : Records} :
    decode content = some records ↔
      content.length ≤ 1024 * 1024 ∧
        ∃ text : FileText, text.Valid ∧ text.meaning = records ∧ text.render = content := by
  rw [decode_eq]
  split
  · rename_i large
    constructor
    · intro taken
      contradiction
    · rintro ⟨small, _⟩
      omega
  · rename_i small
    have whole := @Reads.whole _ _ _ _ reads_file content records
    simp only [Option.bind_eq_some_iff]
    constructor
    · rintro ⟨⟨taken, rest⟩, isRead, atEnd⟩
      split at atEnd
      · contradiction
      · rename_i nothing
        simp only [ne_eq, not_not] at nothing
        cases atEnd
        rw [nothing] at isRead
        exact ⟨not_lt.mp small, whole.mp isRead⟩
    · rintro ⟨_, encoded⟩
      exact ⟨(records, []), whole.mpr encoded, rfl⟩

/-! ## Records within the limits -/

/-- What the reader takes: the policy types are 32-bit words in the source. -/
structure WithinLimits (records : Records) : Prop where
  count : records.size ≤ 4
  classes : ∀ cls entry, records.get? cls = some entry → 1 ≤ cls ∧ cls ≤ 4
  labels : ∀ cls entry, records.get? cls = some entry → entry.label.length ≤ 65536
  ids : ∀ cls entry, records.get? cls = some entry → entry.id.length ≤ 65536
  policies : ∀ cls entry, records.get? cls = some entry → entry.policy.size ≤ 32
  types : ∀ cls entry, records.get? cls = some entry →
    ∀ type ∈ entry.policy.keys, type < 2 ^ 32

/-- The text the writer makes of a record. -/
def recordText (cls : Nat) (entry : Attributes) : RecordText :=
  ⟨cls, entry.label, entry.id, entry.policy.entries⟩

/-- The text the writer makes of records. -/
def textOf (records : Records) : FileText :=
  ⟨policyFormat, records.entries.map fun entry => recordText entry.1 entry.2⟩

theorem meaning_recordText (cls : Nat) (entry : Attributes) :
    (recordText cls entry).meaning = (cls, entry) := by
  simp [recordText, RecordText.meaning, OrderedMap.insertAll_entries]

theorem meaning_textOf (records : Records) : (textOf records).meaning = records := by
  have entries : (textOf records).records.map RecordText.meaning = records.entries := by
    simp only [textOf, List.map_map, Function.comp_def, meaning_recordText, List.map_id']
  rw [FileText.meaning, entries, OrderedMap.insertAll_entries]

theorem nodup_textOf (records : Records) :
    ((textOf records).records.map RecordText.objectClass).Nodup := by
  have classes : (textOf records).records.map RecordText.objectClass = records.keys := by
    simp only [textOf, List.map_map]
    rfl
  rw [classes]
  exact OrderedMap.keys_nodup records

theorem WithinLimits.textOf_valid {records : Records} (limits : WithinLimits records) :
    (textOf records).Valid := by
  refine ⟨Or.inr rfl, ?_, ?_, ?_⟩
  · simpa [textOf, OrderedMap.size] using limits.count
  · intro text member
    rcases List.mem_map.mp member with ⟨⟨cls, entry⟩, listed, rfl⟩
    have stored : records.get? cls = some entry := OrderedMap.get?_eq_some_iff.mpr listed
    refine ⟨limits.classes cls entry stored, limits.labels cls entry stored,
      limits.ids cls entry stored, ⟨limits.policies cls entry stored, ?_,
        OrderedMap.keys_nodup entry.policy, fun other => absurd rfl other⟩⟩
    intro policy listed
    exact limits.types cls entry stored policy.1 (List.mem_map_of_mem listed)
  · exact nodup_textOf records

/-- What an accepted file holds is within the limits. -/
theorem FileText.Valid.withinLimits {text : FileText} (valid : text.Valid) :
    WithinLimits text.meaning := by
  have distinct : ((text.records.map RecordText.meaning).map Prod.fst).Nodup := by
    rw [List.map_map]
    exact valid.distinct
  have listed {cls : Nat} {entry : Attributes} (stored : text.meaning.get? cls = some entry) :
      ∃ record ∈ text.records, record.meaning = (cls, entry) := by
    rw [FileText.meaning, OrderedMap.get?_insertAll distinct] at stored
    rcases stored with member | ⟨_, absurdly⟩
    · exact List.mem_map.mp member
    · contradiction
  have pairs {record : RecordText} (member : record ∈ text.records) :
      ((∅ : OrderedMap Nat Bool).insertAll record.policies).entries.Perm record.policies :=
    OrderedMap.entries_insertAll_perm (valid.records record member).policies.distinct
  constructor
  · have same := (OrderedMap.entries_insertAll_perm distinct).length_eq
    rw [List.length_map] at same
    have few := valid.count
    simp only [OrderedMap.size, FileText.meaning]
    omega
  · intro cls entry stored
    rcases listed stored with ⟨record, member, same⟩
    cases same
    exact (valid.records record member).objectClass
  · intro cls entry stored
    rcases listed stored with ⟨record, member, same⟩
    cases same
    exact (valid.records record member).label
  · intro cls entry stored
    rcases listed stored with ⟨record, member, same⟩
    cases same
    exact (valid.records record member).id
  · intro cls entry stored
    rcases listed stored with ⟨record, member, same⟩
    cases same
    rw [OrderedMap.size, (pairs member).length_eq]
    exact (valid.records record member).policies.count
  · intro cls entry stored type isKey
    rcases listed stored with ⟨record, member, same⟩
    cases same
    rcases List.mem_map.mp isKey with ⟨policy, inMap, rfl⟩
    exact (valid.records record member).policies.types policy ((pairs member).mem_iff.mp inMap)

/-! ## Writing -/

theorem writeRecord_eq {cls : Nat} {entry : Attributes} (label : entry.label.length ≤ 65536)
    (id : entry.id.length ≤ 65536) :
    writeRecord cls entry = .done ((recordText cls entry).render policyFormat) := by
  simp [writeRecord, writeString, label.not_gt, id.not_gt, Written.done, Written.andThen,
    recordText, RecordText.render, renderString, renderPolicies, OrderedMap.size]

theorem writeRecords_eq {entries : List (Nat × Attributes)}
    (short : ∀ entry ∈ entries, entry.2.label.length ≤ 65536 ∧ entry.2.id.length ≤ 65536) :
    writeRecords entries =
      .done ((entries.map fun entry => recordText entry.1 entry.2).flatMap
        (RecordText.render policyFormat)) := by
  induction entries with
  | nil => rfl
  | cons head rest ih =>
      rcases head with ⟨cls, entry⟩
      rcases List.forall_mem_cons.mp short with ⟨first, others⟩
      rw [writeRecords, writeRecord_eq first.1 first.2, ih others]
      rfl

/-- Only the lengths of the strings matter to the writer. -/
theorem encode_eq {records : Records}
    (short : ∀ cls entry, records.get? cls = some entry →
      entry.label.length ≤ 65536 ∧ entry.id.length ≤ 65536) :
    encode records = .done (textOf records).render := by
  have entries : ∀ entry ∈ records.entries,
      entry.2.label.length ≤ 65536 ∧ entry.2.id.length ≤ 65536 := by
    rintro ⟨cls, entry⟩ listed
    exact short cls entry (OrderedMap.get?_eq_some_iff.mpr listed)
  rw [encode, writeRecords_eq entries]
  simp [Written.done, Written.andThen, FileText.render, textOf, OrderedMap.size]

theorem WithinLimits.encode_eq {records : Records} (limits : WithinLimits records) :
    encode records = .done (textOf records).render :=
  Metadata.encode_eq fun cls entry stored =>
    ⟨limits.labels cls entry stored, limits.ids cls entry stored⟩

@[simp]
theorem Written.complete_andThen (first second : Written) :
    (first.andThen second).complete = true ↔ first.complete = true ∧ second.complete = true := by
  unfold Written.andThen
  cases done : first.complete
  · simp [done]
  · simp

@[simp]
theorem Written.complete_done (bytes : Bytes) : (Written.done bytes).complete = true :=
  rfl

theorem complete_writeString (value : Bytes) :
    (writeString value).complete = true ↔ value.length ≤ 65536 := by
  unfold writeString
  split
  · rename_i long
    simp [long]
  · rename_i short
    simpa using short

theorem complete_writeRecords (entries : List (Nat × Attributes)) :
    (writeRecords entries).complete = true ↔
      ∀ entry ∈ entries, entry.2.label.length ≤ 65536 ∧ entry.2.id.length ≤ 65536 := by
  induction entries with
  | nil => simp [writeRecords]
  | cons head rest ih =>
      rcases head with ⟨cls, entry⟩
      simp [writeRecords, writeRecord, complete_writeString, ih]

/-- The writer comes to its end exactly where no string is too long. -/
theorem complete_encode {records : Records} : (encode records).complete = true ↔
    ∀ cls entry, records.get? cls = some entry →
      entry.label.length ≤ 65536 ∧ entry.id.length ≤ 65536 := by
  simp only [encode, Written.complete_andThen, Written.complete_done, true_and,
    complete_writeRecords, OrderedMap.get?_eq_some_iff, Prod.forall]

/-! ## Sizes -/

theorem length_writeUint32 (n : Nat) : (writeUint32 n).length = 4 :=
  length_bigEndianBytes 4 n

theorem length_writePolicies (policies : List (Nat × Bool)) :
    (writePolicies policies).length = 8 * policies.length := by
  induction policies with
  | nil => rfl
  | cons policy rest ih =>
      rw [writePolicies, List.flatMap_cons, ← writePolicies, List.length_append, ih]
      simp only [List.length_append, length_writeUint32, List.length_cons]
      omega

theorem RecordText.Valid.length_render {version : Nat} {text : RecordText}
    (valid : text.Valid version) : (text.render version).length ≤ 131344 := by
  have label := valid.label
  have id := valid.id
  have policies : (renderPolicies version text.policies).length ≤ 260 := by
    have count := valid.policies.count
    unfold renderPolicies
    split
    · rw [List.length_append, length_writeUint32, length_writePolicies]
      omega
    · exact Nat.zero_le _
  simp only [RecordText.render, renderString, List.length_append, length_writeUint32]
  omega

/-- The limits on the parts keep every file below the limit on the whole. -/
theorem FileText.Valid.length_render {text : FileText} (valid : text.Valid) :
    text.render.length ≤ 1024 * 1024 := by
  have total (records : List RecordText) (each : ∀ record ∈ records, record.Valid text.version) :
      (records.flatMap (RecordText.render text.version)).length ≤ 131344 * records.length := by
    induction records with
    | nil => exact Nat.zero_le _
    | cons record rest ih =>
        rcases List.forall_mem_cons.mp each with ⟨first, others⟩
        have head := first.length_render
        have tail := ih others
        rw [List.flatMap_cons, List.length_append, List.length_cons]
        omega
  have records := total text.records valid.records
  have count := valid.count
  simp only [FileText.render, List.length_append, length_writeUint32]
  omega

theorem FileText.Valid.decode_render {text : FileText} (valid : text.Valid) :
    decode text.render = some text.meaning :=
  decode_eq_some_iff.mpr ⟨valid.length_render, text, valid, rfl, rfl⟩

/-- What the writer makes of records within the limits reads back as them. -/
theorem WithinLimits.decode_encode {records : Records} (limits : WithinLimits records) :
    decode (encode records).bytes = some records := by
  have taken := limits.textOf_valid.decode_render
  rw [meaning_textOf] at taken
  rw [limits.encode_eq]
  exact taken

/-! ## Records beyond the limits -/

/-- Policies whose count and types are 32-bit words. -/
structure PoliciesWide (policies : List (Nat × Bool)) : Prop where
  count : policies.length < 2 ^ 32
  types : ∀ policy ∈ policies, policy.1 < 2 ^ 32
  distinct : (policies.map Prod.fst).Nodup

structure RecordText.Wide (text : RecordText) : Prop where
  objectClass : text.objectClass < 2 ^ 32
  label : text.label.length ≤ 65536
  id : text.id.length ≤ 65536
  policies : PoliciesWide text.policies

/-- A file of the second format that need not be within the limits of the reader. -/
structure FileText.Wide (text : FileText) : Prop where
  version : text.version = policyFormat
  count : text.records.length < 2 ^ 32
  records : ∀ record ∈ text.records, record.Wide
  distinct : (text.records.map RecordText.objectClass).Nodup

theorem respects_policies : Respects (readPolicy policyFormat)
    (Rendered PoliciesWide (∅ : OrderedMap Nat Bool).insertAll (renderPolicies policyFormat)) := by
  have parts := reads_word.respects.andThen fun count =>
    (reads_pair.respects.into OrderedMap.insertNew count ∅).guard (32 < count)
  have same : readPolicy policyFormat = fun input => (readUint32 input).bind fun result =>
      if 32 < result.1 then none
      else readInto readPair OrderedMap.insertNew result.1 ∅ result.2 := by
    funext input
    simp only [readPolicy, if_pos, Option.bind_eq_bind]
    cases readUint32 input with
    | none => rfl
    | some result => simp only [Option.bind_some, readPolicies_eq]
  rw [same]
  refine parts.mono ?_
  rintro policy encoding ⟨policies, wide, rfl, rfl⟩
  refine ⟨policies.length, _, writePolicies policies, ⟨wide.count, rfl⟩, ?_, ?_⟩
  · exact into_pairs_iff.mpr ⟨policies, rfl, wide.types, wide.distinct, rfl, rfl⟩
  · rw [renderPolicies, if_pos rfl]

theorem respects_record : Respects (readRecord policyFormat)
    (Rendered RecordText.Wide RecordText.meaning (RecordText.render policyFormat)) := by
  have parts := reads_word.respects.andThen fun cls =>
    (reads_string.respects.andThen fun label => reads_string.respects.andThen fun id =>
      respects_policies.andThen fun policy =>
        (Reads.nothing (cls, (⟨label, id, policy⟩ : Attributes))).respects).guard
          (cls < 1 ∨ 4 < cls)
  refine parts.mono ?_
  rintro record encoding ⟨⟨cls, label, id, policies⟩, ⟨bound, labelShort, idShort, wide⟩, rfl, rfl⟩
  refine ⟨cls, _, _, ⟨bound, rfl⟩, ⟨label, _, _, ⟨labelShort, rfl⟩, ⟨id, _, _, ⟨idShort, rfl⟩,
    ⟨_, _, [], ⟨policies, wide, rfl, rfl⟩, ⟨rfl, rfl⟩, rfl⟩, rfl⟩, rfl⟩, ?_⟩
  simp [RecordText.render]

/-- The records of a file as they are added up. -/
theorem into_wide {texts : List RecordText} (wide : ∀ text ∈ texts, text.Wide)
    (distinct : (texts.map RecordText.objectClass).Nodup) :
    Into (Rendered RecordText.Wide RecordText.meaning (RecordText.render policyFormat))
      OrderedMap.insertNew texts.length ∅
      ((∅ : Records).insertAll (texts.map RecordText.meaning))
      (texts.flatMap (RecordText.render policyFormat)) := by
  refine ⟨texts.map RecordText.meaning, by simp, ?_, ?_⟩
  · rw [OrderedMap.foldlM_insertNew_eq_some_iff, List.map_map]
    exact ⟨distinct, fun _ _ => OrderedMap.get?_empty _, rfl⟩
  · exact each_rendered_iff.mpr ⟨texts, wide, rfl, rfl⟩

theorem respects_file :
    Respects readFile (Rendered FileText.Wide FileText.meaning FileText.render) := by
  have inner (version : Nat) : Respects (fun input => (readUint32 input).bind fun count =>
      if 4 < count.1 then none
      else readInto (readRecord version) OrderedMap.insertNew count.1 ∅ count.2)
      fun records encoding => version = policyFormat ∧ Then wordFormat (fun count =>
        Into (Rendered RecordText.Wide RecordText.meaning (RecordText.render policyFormat))
          OrderedMap.insertNew count ∅) records encoding := by
    rintro records encoding rest result ⟨rfl, encoded⟩
    have parts := reads_word.respects.andThen fun count =>
      (respects_record.into OrderedMap.insertNew count ∅).guard (4 < count)
    exact parts records encoding rest result encoded
  have parts := reads_word.respects.andThen fun version =>
    (inner version).guard (version ≠ legacyFormat ∧ version ≠ policyFormat)
  refine parts.mono ?_
  rintro records encoding ⟨⟨version, texts⟩, ⟨isVersion, few, wide, distinct⟩, rfl, rfl⟩
  dsimp only at isVersion few wide distinct
  subst isVersion
  refine ⟨policyFormat, _, _, ⟨by decide, rfl⟩, ⟨rfl, texts.length, _, _, ⟨few, rfl⟩,
    into_wide wide distinct, rfl⟩, ?_⟩
  simp [FileText.render]

/-- What the writer can put down in words. -/
structure Writable (records : Records) : Prop where
  count : records.size < 2 ^ 32
  classes : ∀ cls entry, records.get? cls = some entry → cls < 2 ^ 32
  complete : (encode records).complete = true
  policies : ∀ cls entry, records.get? cls = some entry → entry.policy.size < 2 ^ 32
  types : ∀ cls entry, records.get? cls = some entry →
    ∀ type ∈ entry.policy.keys, type < 2 ^ 32

theorem Writable.textOf_wide {records : Records} (writable : Writable records) :
    (textOf records).Wide := by
  have strings := complete_encode.mp writable.complete
  refine ⟨rfl, ?_, ?_, ?_⟩
  · simpa [textOf, OrderedMap.size] using writable.count
  · intro text member
    rcases List.mem_map.mp member with ⟨⟨cls, entry⟩, listed, rfl⟩
    have stored : records.get? cls = some entry := OrderedMap.get?_eq_some_iff.mpr listed
    refine ⟨writable.classes cls entry stored, (strings cls entry stored).1,
      (strings cls entry stored).2, writable.policies cls entry stored, ?_,
      OrderedMap.keys_nodup entry.policy⟩
    intro policy listed
    exact writable.types cls entry stored policy.1 (List.mem_map_of_mem listed)
  · exact nodup_textOf records

/-- Whatever reads back from what the writer puts down is what was written. -/
theorem Writable.decode_eq {records other : Records} (writable : Writable records)
    (decoded : decode (encode records).bytes = some other) : other = records := by
  rw [encode_eq (complete_encode.mp writable.complete), Metadata.decode_eq] at decoded
  split at decoded
  · contradiction
  · rcases Option.bind_eq_some_iff.mp decoded with ⟨result, isRead, atEnd⟩
    have taken := respects_file (textOf records).meaning (textOf records).render [] result
      ⟨textOf records, writable.textOf_wide, rfl, rfl⟩ (by rw [List.append_nil]; exact isRead)
    rw [taken, meaning_textOf] at atEnd
    simpa using atEnd.symm

/-! ## Order -/

/-- The same record, with its policies in another order. -/
structure SameRecord (first second : RecordText) : Prop where
  objectClass : first.objectClass = second.objectClass
  label : first.label = second.label
  id : first.id = second.id
  policies : first.policies.Perm second.policies

/-- The same file, with its records and their policies in another order. -/
structure SameUpToOrder (first second : FileText) : Prop where
  version : first.version = second.version
  records : ∃ middle, first.records.Perm middle ∧ List.Forall₂ SameRecord middle second.records

/-- A file of the second format differs from what is written again only in the order. -/
theorem FileText.Valid.sameUpToOrder {text : FileText} (valid : text.Valid)
    (policies : text.version = policyFormat) : SameUpToOrder text (textOf text.meaning) := by
  have distinct : ((text.records.map RecordText.meaning).map Prod.fst).Nodup := by
    rw [List.map_map]
    exact valid.distinct
  have written : (textOf text.meaning).records.Perm
      ((text.records.map RecordText.meaning).map fun entry => recordText entry.1 entry.2) :=
    (OrderedMap.entries_insertAll_perm distinct).map _
  have each (records : List RecordText) (all : ∀ record ∈ records, record.Valid text.version) :
      List.Forall₂ SameRecord records
        ((records.map RecordText.meaning).map fun entry => recordText entry.1 entry.2) := by
    induction records with
    | nil => exact .nil
    | cons record rest ih =>
        rcases List.forall_mem_cons.mp all with ⟨first, others⟩
        refine .cons ⟨rfl, rfl, rfl, ?_⟩ (ih others)
        exact (OrderedMap.entries_insertAll_perm first.policies.distinct).symm
  refine ⟨policies, ?_⟩
  have commuted : Relation.Comp List.Perm (List.Forall₂ SameRecord) text.records
      (textOf text.meaning).records := by
    rw [← List.forall₂_comp_perm_eq_perm_comp_forall₂]
    exact ⟨_, each text.records valid.records, written.symm⟩
  exact commuted

/-! ## The first format -/

/-- The same records in the second format. -/
def FileText.upgraded (text : FileText) : FileText := { text with version := policyFormat }

/-- A file of the first format has the records of the second format with no policies. -/
theorem FileText.Valid.upgraded {text : FileText} (valid : text.Valid)
    (legacy : text.version = legacyFormat) :
    text.upgraded.Valid ∧ ∀ record ∈ text.upgraded.records, record.policies = [] := by
  have noPolicies : ∀ record ∈ text.records, record.policies = [] := by
    intro record member
    refine (valid.records record member).policies.legacy ?_
    rw [legacy]
    decide
  refine ⟨⟨Or.inr rfl, valid.count, ?_, valid.distinct⟩, noPolicies⟩
  intro record member
  have old := valid.records record member
  refine ⟨old.objectClass, old.label, old.id, old.policies.count, old.policies.types,
    old.policies.distinct, ?_⟩
  intro _
  exact noPolicies record member

/-! ## Publication -/

theorem path_ne (key : Path) : path key ≠ key := by
  intro same
  have lengths := congrArg (fun path : Path => path.flatten.length) same
  simp only [path, Path.length_extend] at lengths
  simp [ascii] at lengths

theorem temporaryPath_ne_path (key : Path) :
    temporaryPath key ≠ path key := by
  intro same
  have lengths := congrArg (fun path : Path => path.flatten.length) same
  simp only [temporaryPath, Path.length_extend] at lengths
  simp [ascii] at lengths

theorem temporaryPath_ne (key : Path) : temporaryPath key ≠ key := by
  intro same
  have lengths := congrArg (fun path : Path => path.flatten.length) same
  simp only [temporaryPath, path, Path.length_extend] at lengths
  simp [ascii, Nat.add_assoc] at lengths

/-- A temporary file is not the metadata file of another key. -/
theorem temporaryPath_ne_metadata (key other : Path) : temporaryPath key ≠ path other := by
  intro same
  have names := congrArg (fun path : Path => path.filename.getLast?) same
  simp only [temporaryPath, path, Path.filename_extend, List.getLast?_append] at names
  revert names
  simp [ascii]

/-- Publishing metadata replaces the metadata file by the whole encoding, or changes
nothing, or leaves a temporary file that could not be removed. -/
theorem create_cases (disk : FileSystem) (oracle : Oracle) (key : Path)
    (records : Records) (replace : Bool) :
    (create disk oracle key records replace =
          (disk.writeFile (path key) (encode records).bytes, true) ∧
        (encode records).complete = true ∧
        (replace = false → disk.hasPath (path key) = false) ∧
        disk.hasPath (temporaryPath key) = false) ∨
      create disk oracle key records replace = (disk, false) ∨
      ∃ left, create disk oracle key records replace =
          (disk.writeFile (temporaryPath key) left, false) ∧
        oracle.removeFails (temporaryPath key) = true := by
  by_cases blocked : ((!replace && (oracle.statFails (path key) ||
      disk.hasPath (path key))) || (oracle.statFails (temporaryPath key) ||
      disk.hasPath (temporaryPath key))) = true
  · right
    left
    exact if_pos blocked
  · have written : create disk oracle key records replace =
        disk.publish oracle (temporaryPath key) (path key)
          (encode records).bytes (encode records).complete := if_neg blocked
    simp only [Bool.or_eq_true, Bool.and_eq_true, Bool.not_eq_true', not_or, not_and,
      Bool.not_eq_true] at blocked
    rcases blocked with ⟨fileFree, _, temporaryFree⟩
    rw [written]
    rcases FileSystem.publish_cases oracle (path key) temporaryFree
        (encode records).bytes (encode records).complete with
      ⟨published, complete, _, _⟩ | unchanged | left
    · left
      exact ⟨published, complete, fun fresh => (fileFree fresh).2, temporaryFree⟩
    · right
      left
      exact unchanged
    · right
      right
      exact left

/-- The metadata file of the key can be looked up and read. -/
structure Readable (oracle : Oracle) (key : Path) : Prop where
  stat : oracle.statFails (path key) = false
  opens : oracle.readFails (path key) = false

theorem Readable.read_eq {disk : FileSystem} {oracle : Oracle} {key : Path} {content : Bytes}
    (readable : Readable oracle key) (stored : disk.content (path key) = some content) :
    read disk oracle key = decode content := by
  have isThere : disk.hasPath (path key) = true := by
    rw [FileSystem.content] at stored
    simp [FileSystem.hasPath, stored]
  simp [read, readable.stat, readable.opens, isThere, stored]

/-- Published records within the limits of the reader read back as they are. -/
theorem Readable.read_create {disk next : FileSystem} {oracle later : Oracle} {key : Path}
    {records : Records} {replace : Bool} (readable : Readable later key)
    (limits : WithinLimits records)
    (published : create disk oracle key records replace = (next, true)) :
    read next later key = some records := by
  have written : next.content (path key) = some (encode records).bytes := by
    rcases create_cases disk oracle key records replace with
      ⟨outcome, _⟩ | unchanged | ⟨left, leftover, _⟩
    · rw [published] at outcome
      cases outcome
      rw [FileSystem.content_writeFile, if_pos rfl]
    · rw [published] at unchanged
      cases unchanged
    · rw [published] at leftover
      cases leftover
  rw [readable.read_eq written, limits.decode_encode]

/-- The codec is exact: what is written reads back, the reader accepts the files of the
syntax and no others, a file written again differs only in the order, and the first format
is the second one without policies. -/
theorem metadata_codec_exact :
    (∀ records, WithinLimits records → (encode records).complete = true ∧
      ∀ disk oracle key replace next later, Readable later key →
        create disk oracle key records replace = (next, true) →
          read next later key = some records) ∧
    (∀ disk oracle key content, Readable oracle key → disk.content (path key) = some content →
      ∀ records, read disk oracle key = some records ↔
        content.length ≤ 1024 * 1024 ∧
          ∃ text : FileText, text.Valid ∧ text.meaning = records ∧ text.render = content) ∧
    (∀ text : FileText, text.Valid → text.version = policyFormat →
      ∃ other : FileText, encode text.meaning = .done other.render ∧
        decode other.render = decode text.render ∧ SameUpToOrder text other) ∧
    (∀ text : FileText, text.Valid → text.version = legacyFormat →
      text.upgraded.Valid ∧ (∀ record ∈ text.upgraded.records, record.policies = []) ∧
        decode text.render = decode text.upgraded.render) := by
  refine ⟨?_, ?_, ?_, ?_⟩
  · intro records limits
    constructor
    · rw [limits.encode_eq]
      rfl
    · intro disk oracle key replace next later readable published
      exact readable.read_create limits published
  · intro disk oracle key content readable stored records
    rw [readable.read_eq stored]
    exact decode_eq_some_iff
  · intro text valid policies
    have limits := valid.withinLimits
    refine ⟨textOf text.meaning, limits.encode_eq, ?_, valid.sameUpToOrder policies⟩
    rw [limits.textOf_valid.decode_render, valid.decode_render, meaning_textOf]
  · intro text valid legacy
    rcases valid.upgraded legacy with ⟨upgraded, noPolicies⟩
    refine ⟨upgraded, noPolicies, ?_⟩
    rw [valid.decode_render, upgraded.decode_render]
    rfl

end Metadata

end HsmSimulator
