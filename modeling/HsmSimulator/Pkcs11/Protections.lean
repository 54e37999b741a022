import HsmSimulator.Pkcs11.Searches
import HsmSimulator.Pkcs11.Whereabouts

/-!
# Protections are permanent

An object that is sensitive stays sensitive, and one that is not extractable stays so,
through every call and across restarts: the ratchet of `SetAttributeValue` holds in memory,
the metadata file follows every change, and loading reads it back.
-/

namespace HsmSimulator

open Checks

/-- The two ways to protect a key. -/
inductive Protection
  | sensitive
  | unextractable

namespace Protection

/-- The policy that protects. -/
def type : Protection → Nat
  | sensitive => ckaSensitive
  | unextractable => ckaExtractable

/-- The value with which it protects. -/
def value : Protection → Bool
  | sensitive => true
  | unextractable => false

/-- The policy of the object has the protecting value. -/
def Protects (protection : Protection) (object : Object) : Prop :=
  policyValue object protection.type = protection.value

/-- The record has the protecting policy. -/
def InRecord (protection : Protection) (record : Metadata.Attributes) : Prop :=
  record.policy.get? protection.type = some protection.value

/-- Objects are not protected by default. -/
theorem protects_iff (protection : Protection) (object : Object) :
    protection.Protects object ↔ protection.InRecord object.record := by
  have unprotected : policyDefault object.objectClass object.keyType protection.type =
      !protection.value := by
    cases protection <;> rfl
  unfold Protects InRecord policyValue Object.record
  rw [unprotected]
  cases object.policy.get? protection.type with
  | none => cases protection <;> simp [value]
  | some stored => simp

theorem protects_of_keeps (protection : Protection) {before after : Object}
    (keeps : KeepsProtection before after) (protects : protection.Protects before) :
    protection.Protects after := by
  cases protection with
  | sensitive => exact keeps.sensitive protects
  | unextractable => exact keeps.extractable protects

end Protection

/-- The value of the key goes to no caller: reading writes nothing for it and no search by
value lists the key. -/
structure ValueHidden (host : Host) (state : State) (handle : Nat) : Prop where
  read : ∀ (oracle : Oracle) (sessionHandle : Nat) (queries : List AttributeQuery)
    (results : List AttributeResult),
    (step host state (.getAttributeValue sessionHandle handle (.entries queries),
      oracle)).2.output = .attributes results →
    ∀ entry ∈ queries.zip results, entry.1.type = ckaValue → entry.2.written = none
  searched : ∀ (oracle : Oracle) (sessionHandle : Nat) (attributes : Template)
    (session : Session),
    (∃ entry ∈ attributes.toList, entry.type = ckaValue) →
    (step host state (.findObjectsInit sessionHandle attributes, oracle)).2.rv = .ok →
    (step host state (.findObjectsInit sessionHandle attributes, oracle)).1.findSession
      sessionHandle = some session → handle ∉ session.searchMatches

/-- The key is never wrapped, and its wrapped length is not told. -/
def NeverWrapped (host : Host) (state : State) (handle : Nat) : Prop :=
  ∀ (oracle : Oracle) (sessionHandle : Nat) (mechanism : Option Mechanism) (wrappingHandle : Nat)
    (output : OutputBuffer) (hasLength : Bool),
    (step host state (.wrapKey sessionHandle mechanism wrappingHandle handle output hasLength,
      oracle)).2.rv ≠ .ok

section

variable {host : Host} {state : State} {handle : Nat} {object : Object} {protection : Protection}

theorem valueAttribute_protected (isSecret : object.objectClass = ckoSecretKey)
    (protects : protection.Protects object) :
    valueAttribute object = .unavailable .attributeSensitive := by
  have hidden : (policyValue object ckaSensitive || !policyValue object ckaExtractable) = true := by
    cases protection with
    | sensitive =>
        have sensitive : policyValue object ckaSensitive = true := protects
        simp [sensitive]
    | unextractable =>
        have unextractable : policyValue object ckaExtractable = false := protects
        simp [unextractable]
  rw [valueAttribute, if_pos isSecret, if_pos hidden]

theorem readAttribute_protected (openSsl : OpenSsl) (isSecret : object.objectClass = ckoSecretKey)
    (protects : protection.Protects object) {query : AttributeQuery}
    (isValue : query.type = ckaValue) :
    readAttribute openSsl object query =
      (⟨ckUnavailableInformation, none⟩, .attributeSensitive) := by
  have unavailable : attributeValue openSsl object ckaValue =
      .unavailable .attributeSensitive := by
    rw [← valueAttribute_protected isSecret protects]
    rfl
  rw [readAttribute, isValue, unavailable]

theorem valueHidden_of_protects (wellFormed : WellFormed state)
    (found : state.objects.get? handle = some object) (isSecret : object.objectClass = ckoSecretKey)
    (protects : protection.Protects object) : ValueHidden host state handle := by
  have isOpen := wellFormed.initialized_of_object found
  constructor
  · intro oracle sessionHandle queries results output entry member isValue
    rw [step_of_open isOpen] at output
    change (getAttributeValue host state sessionHandle handle (.entries queries)).output = _
      at output
    unfold getAttributeValue at output
    split at output
    · contradiction
    · rename_i readable passes
      have isObject := (readableObject_eq_ok_iff.mp passes).1
      rcases State.findObject_eq_some_iff.mp isObject with ⟨_, _, stored, _⟩
      rw [found] at stored
      cases stored
      simp only [readAttributes, Output.attributes.injEq] at output
      rw [← output, List.map_map, List.zip_map_right, List.mem_map] at member
      rcases member with ⟨pair, paired, rfl⟩
      have same : pair.1 = pair.2 := by
        rcases List.mem_iff_getElem.mp paired with ⟨index, below, rfl⟩
        simp
      change pair.1.type = ckaValue at isValue
      rw [same] at isValue
      simp [readAttribute_protected host.openSsl isSecret protects isValue]
  · intro oracle sessionHandle attributes session byValue isOk sessionFound listed
    rcases byValue with ⟨entry, member, isValue⟩
    have snapshot := snapshot_of_ok wellFormed isOk sessionFound
    have matching := (snapshot.exact handle).mp listed
    have has := matching.attributes entry member
    rcases stillVisible_iff.mp matching.visible with ⟨visible, isFound, access⟩
    rcases State.findObject_eq_some_iff.mp isFound with ⟨_, _, stored, _⟩
    rw [found] at stored
    cases stored
    rw [HasAttribute, getAttributeValue, readableObject_eq_ok_iff.mpr ⟨isFound, access⟩] at has
    have hidden := @readAttribute_protected _ _ host.openSsl isSecret protects
      ⟨entry.type, true, entry.value.length⟩ isValue
    simp [readAttributes, lastError, hidden] at has

theorem neverWrapped_of_protects (wellFormed : WellFormed state)
    (found : state.objects.get? handle = some object)
    (protects : Protection.unextractable.Protects object) : NeverWrapped host state handle := by
  intro oracle sessionHandle mechanism wrappingHandle output hasLength isOk
  have unextractable : policyValue object ckaExtractable = false := protects
  rw [step_of_open (wellFormed.initialized_of_object found)] at isOk
  change (wrapKey host oracle state sessionHandle mechanism wrappingHandle handle output
    hasLength).rv = .ok at isOk
  unfold wrapKey at isOk
  split at isOk
  · rename_i code fails
    have isError : code = .ok := isOk
    rw [isError] at fails
    simp [wrapInput, bind_eq_error_iff, requireUserLogin_ne_ok] at fails
  · rename_i wrappingKey raw passes
    simp only [wrapInput, bind_eq_ok_iff, fetch_eq_ok_iff, require_eq_ok_iff] at passes
    rcases passes with ⟨_, _, _, _, _, _, key, isKey, _, _, _, _, _, extractable, _⟩
    rcases State.findObject_eq_some_iff.mp isKey with ⟨_, _, stored, _⟩
    rw [found] at stored
    cases stored
    rw [unextractable] at extractable
    contradiction

theorem SessionPairsWhole.noHalfAt {input : Call × Oracle}
    (whole : SessionPairsWhole host state input) (path : Path) : NoHalfAt host path state input :=
  fun new key isNew noToken isKey digest noHalf =>
    (whole new key isNew noToken isKey digest noHalf).elim

/-- A protected object is held to its protection by its metadata. -/
theorem held_of_protects (order : TokenOrder state) (recorded : PoliciesRecorded state)
    (found : state.objects.get? handle = some object) (protects : protection.Protects object) :
    Held object.objectClass (fun _ => True) protection.InRecord state (.registered handle) := by
  have inRecord := (protection.protects_iff object).mp protects
  refine ⟨object, found, rfl, inRecord, ?_⟩
  intro token
  rcases order.wellFormed.tokenObject handle object found token with ⟨_, _, slot, _, keyPath⟩
  refine ⟨⟨⟨_, keyPath⟩, trivial, order.files.exist handle object found token, ?_⟩,
    order.files.unique.distinctRecords _⟩
  exact recorded handle object found token protection.type protection.value inRecord

/-- One call keeps the protection of the object that is followed. -/
theorem held_step {objectClass : Nat} {place after : Whereabouts} {input : Call × Oracle}
    (order : TokenOrder state) (whole : SessionPairsWhole host state input)
    (held : Held objectClass (fun _ => True) protection.InRecord state place)
    (followed : follow host (some place) state input = some after) :
    Held objectClass (fun _ => True) protection.InRecord (step host state input).1 after := by
  have next := order.step input whole
  refine held.step order.wellFormed next.words next.few ?_ (fun path _ => whole.noHalfAt path)
    followed
  intro handle object changed isPlace found changedFound inRecord
  have isOpen := order.wellFormed.initialized_of_object found
  have advance : ObjectsAdvance state (step host state input).1 :=
    (step_effect order.wellFormed input.1).objectsAdvance order.wellFormed isOpen
  rcases advance.entered handle changed changedFound with ⟨old, oldFound, same⟩ | fresh
  · rw [found] at oldFound
    cases oldFound
    rw [← protection.protects_iff] at inRecord ⊢
    exact protection.protects_of_keeps same.keeps inRecord
  · have below := (order.wellFormed.objectKey handle object found).2.2
    omega

end

theorem recordsStored_run (host : Host) (disk : FileSystem) (inputs : List (Call × Oracle))
    (whole : Runs.Along (step host) (SessionPairsWhole host) (.loaded disk) inputs) :
    TokenOrder (Runs.final (step host) (.loaded disk) inputs) ∧
      RecordsStored (Runs.final (step host) (.loaded disk) inputs) := by
  refine @Runs.invariant_along _ _ _ (step host) (SessionPairsWhole host)
    (fun state => TokenOrder state ∧ RecordsStored state) ?_ (.loaded disk) inputs
    ⟨tokenOrder_loaded disk, fun _ _ found => by contradiction⟩ whole
  intro state input valid whole
  have next := valid.1.step input whole
  exact ⟨next, valid.2.effect valid.1 next (step_token valid.1.wellFormed input.1)⟩

theorem policiesRecorded_run (host : Host) (disk : FileSystem) (inputs : List (Call × Oracle))
    (whole : Runs.Along (step host) (SessionPairsWhole host) (.loaded disk) inputs) :
    TokenOrder (Runs.final (step host) (.loaded disk) inputs) ∧
      PoliciesRecorded (Runs.final (step host) (.loaded disk) inputs) := by
  rcases recordsStored_run host disk inputs whole with ⟨order, published⟩
  exact ⟨order, published.policies⟩

/-- In every run in which every session key pair that is registered gets its public half:
an object that is protected at some point is protected wherever it is registered later, and
then its value and its wrapped form go to no caller. -/
theorem protection_permanent (host : Host) (disk : FileSystem) (before after : List (Call × Oracle))
    (whole : Runs.Along (step host) (SessionPairsWhole host) (.loaded disk) (before ++ after))
    (protection : Protection) (handle : Nat) (object : Object)
    (found : (Runs.final (step host) (.loaded disk) before).objects.get? handle = some object)
    (protects : protection.Protects object) (later : Nat)
    (followed : Runs.history (step host) (follow host) (some (.registered handle))
      (Runs.final (step host) (.loaded disk) before) after = some (.registered later)) :
    let state := Runs.final (step host) (.loaded disk) (before ++ after)
    ∃ kept, state.objects.get? later = some kept ∧ kept.objectClass = object.objectClass ∧
      protection.Protects kept ∧
      (object.objectClass = ckoSecretKey → ValueHidden host state later) ∧
      (protection = .unextractable → NeverWrapped host state later) := by
  intro state
  rw [Runs.along_append] at whole
  rcases policiesRecorded_run host disk before whole.1 with ⟨order, recorded⟩
  have start := held_of_protects order recorded found protects
  have invariant := @Runs.history_invariant _ _ _ _ (step host) (follow host)
    (SessionPairsWhole host) (fun state place => TokenOrder state ∧
      ∀ here, place = some here →
        Held object.objectClass (fun _ => True) protection.InRecord state here) ?_
    (Runs.final (step host) (.loaded disk) before) (some (.registered handle)) after
    ⟨order, fun here isHere => by cases isHere; exact start⟩ whole.2
  · rw [followed] at invariant
    have same : state = Runs.final (step host) (Runs.final (step host) (.loaded disk) before)
        after := Runs.final_append _ _ _ _
    rw [← same] at invariant
    rcases invariant with ⟨laterOrder, held⟩
    rcases held _ rfl with ⟨kept, keptFound, isClass, inRecord, _⟩
    have keptProtects := (protection.protects_iff kept).mpr inRecord
    refine ⟨kept, keptFound, isClass, keptProtects, ?_, ?_⟩
    · intro isSecret
      exact valueHidden_of_protects laterOrder.wellFormed keptFound (isClass.trans isSecret)
        keptProtects
    · rintro rfl
      exact neverWrapped_of_protects laterOrder.wellFormed keptFound keptProtects
  · intro state place input valid whole
    refine ⟨valid.1.step input whole, ?_⟩
    intro here isHere
    cases place with
    | none => contradiction
    | some before => exact held_step valid.1 whole (valid.2 before rfl) isHere

/-- A sensitive key of the token after a restart. -/
theorem protection_permanent_restart :
    let sensitive : Call := .setAttributeValue 1 1 (.entries [⟨ckaSensitive, .bytes [1]⟩])
    ∃ kept, (Runs.final (step .plain) (.loaded ⟨∅, ∅⟩) (plainRun
        [.cInitialize false, .openSession 1 6 true, aesKey 1, sensitive, .cFinalize false,
          .cInitialize false])).objects.get? 1 = some kept ∧
      policyValue kept ckaSensitive = true := by
  have protectedKey : ∃ object, (Runs.final (step .plain) (.loaded ⟨∅, ∅⟩) (plainRun
      [.cInitialize false, .openSession 1 6 true, aesKey 1, .setAttributeValue 1 1
        (.entries [⟨ckaSensitive, .bytes [1]⟩])])).objects.get? 1 = some object ∧
        policyValue object ckaSensitive = true := by
    decide
  rcases protectedKey with ⟨object, found, protects⟩
  rcases protection_permanent .plain ⟨∅, ∅⟩ (plainRun [.cInitialize false, .openSession 1 6 true,
      aesKey 1, .setAttributeValue 1 1 (.entries [⟨ckaSensitive, .bytes [1]⟩])])
    (plainRun [.cFinalize false, .cInitialize false])
    ((Runs.along_append _ _ _ _ _).mpr ⟨plainRun_along sessionPairsWhole_plain _ _,
      plainRun_along sessionPairsWhole_plain _ _⟩) .sensitive 1 object found
    protects 1 (by decide) with ⟨kept, keptFound, _, keptProtects, _⟩
  exact ⟨kept, keptFound, keptProtects⟩

/-- Halves of a session pair and of a token pair of one label, one of them made sensitive. -/
def sensitiveHalf (tableOrder : Order Nat) (handle : Nat) : List (Call × Oracle) :=
  halflessRun tableOrder [.cInitialize false, .openSession 1 6 true, sessionPair 1,
    .generateKeyPair 1 (some ⟨ckmRsaPkcsKeyPairGen, .null 0⟩) (.entries []) (.entries []) true,
    .setAttributeValue 1 handle (.entries [⟨ckaSensitive, .bytes [1]⟩])]

/-- Sensitivity of the object of a handle lasts over a restart. -/
def SensitiveLasts (tableOrder : Order Nat) (handle : Nat) : Prop :=
  let before := sensitiveHalf tableOrder handle
  let after := halflessRun tableOrder [.cFinalize false, .cInitialize false]
  let state := Runs.final (step .plain) (.loaded ⟨∅, ∅⟩) before
  ∀ (object : Object) (later : Nat), state.objects.get? handle = some object →
    Protection.sensitive.Protects object →
    Runs.history (step .plain) (follow .plain) (some (.registered handle)) state after =
      some (.registered later) →
    ∃ kept, (Runs.final (step .plain) (.loaded ⟨∅, ∅⟩) (before ++ after)).objects.get? later =
      some kept ∧ Protection.sensitive.Protects kept

/-- A half that is sensitive, and not at the next start. -/
theorem not_sensitiveLasts {tableOrder : Order Nat} {handle : Nat} (later : Nat)
    (sensitive : ∃ object, (Runs.final (step .plain) (.loaded ⟨∅, ∅⟩)
      (sensitiveHalf tableOrder handle)).objects.get? handle = some object ∧
        policyValue object ckaSensitive = true)
    (followed : Runs.history (step .plain) (follow .plain) (some (.registered handle))
      (Runs.final (step .plain) (.loaded ⟨∅, ∅⟩) (sensitiveHalf tableOrder handle))
      (halflessRun tableOrder [.cFinalize false, .cInitialize false]) = some (.registered later))
    (exposed : ∃ object, (Runs.final (step .plain) (.loaded ⟨∅, ∅⟩)
      (sensitiveHalf tableOrder handle ++
        halflessRun tableOrder [.cFinalize false, .cInitialize false])).objects.get? later =
          some object ∧ policyValue object ckaSensitive = false) :
    ¬SensitiveLasts tableOrder handle := by
  intro lasts
  rcases sensitive with ⟨object, found, protects⟩
  rcases exposed with ⟨other, otherFound, notSensitive⟩
  rcases lasts object later found protects followed with ⟨kept, keptFound, keptProtects⟩
  rw [otherFound] at keptFound
  cases keptFound
  have isSensitive : policyValue other ckaSensitive = true := keptProtects
  exact Bool.false_ne_true (notSensitive.symm.trans isSensitive)

/-- One record is published for both halves, that of the half the table lists first, and it is
the record both are loaded with at the next start. -/
theorem halves_lose_protection :
    ¬SensitiveLasts .stored 2 ∧ ¬SensitiveLasts .reversed 1 := by
  constructor
  · exact not_sensitiveLasts 1 (by decide) (by decide) (by decide)
  · exact not_sensitiveLasts 1 (by decide) (by decide) (by decide)

end HsmSimulator
