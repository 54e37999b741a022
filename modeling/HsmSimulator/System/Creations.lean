import HsmSimulator.Pkcs11.DerivedKeys
import HsmSimulator.Pkcs11.Searches

/-!
# Keys are what their templates say

A key that was created is the key that its template asked for: reading an attribute that the
template gave returns the value it gave, and a search for any part of the template finds the key.
-/

namespace HsmSimulator

open Checks

/-- The attributes that a new object of a class takes from its template. -/
def takenAttributes (objectClass : Nat) : List Nat :=
  ckaClass :: ckaToken :: ckaLabel :: ckaId ::
    (policyAttributes ++ if objectClass = ckoSecretKey then [ckaKeyType, ckaValueLen] else [])

/-- What the object has is what the template says, wherever it says something. -/
structure TakenFrom (attributes : Template) (object : Object) : Prop where
  objectClass : (templateUnsigned attributes ckaClass).getD object.objectClass = object.objectClass
  keyType : object.objectClass = ckoSecretKey →
    (templateUnsigned attributes ckaKeyType).getD object.keyType = object.keyType
  valueLength : object.objectClass = ckoSecretKey →
    (templateUnsigned attributes ckaValueLen).getD object.secretValue.length =
      object.secretValue.length
  token : ∀ value, templateBytes attributes ckaToken = some value →
    (object.ownerSession = 0 ↔ value.headD 0 ≠ 0)
  label : templateString attributes ckaLabel object.label = object.label
  id : templateString attributes ckaId object.id = object.id
  policy : object.policy = applyPolicyTemplate ∅ attributes

/-! ## Reading what was taken -/

section

variable {attributes : Template} {entry : Attribute}

theorem isMissing_of_validates (valid : validateCreationTemplate attributes = .ok ())
    (member : entry ∈ attributes.toList) : entry.value.isMissing = false := by
  have accepted := (validateCreationTemplate_eq_ok_iff.mp valid).2.valid entry member
  simp only [validateCreationAttribute, bind_eq_ok_iff, require_eq_ok_iff] at accepted
  exact accepted.choose_spec.1

/-- The entry of a type is the one that is looked up. -/
theorem templateBytes_of_mem (valid : validateCreationTemplate attributes = .ok ())
    (member : entry ∈ attributes.toList) :
    templateBytes attributes entry.type = some entry.value.content := by
  have distinct := (validateCreationTemplate_eq_ok_iff.mp valid).2.distinct
  have given := isMissing_of_validates valid member
  rw [templateBytes, (find?_type_eq_some_iff distinct).mpr ⟨member, rfl⟩]
  cases value : entry.value with
  | null length =>
      have empty : length = 0 := by simpa [Buffer.isMissing, value] using given
      simp [Buffer.length, Buffer.content, value, empty]
  | bytes content =>
      cases content <;> simp [Buffer.length, Buffer.isNull, Buffer.content, value]

theorem ulongBytes_littleEndianValue {content : Bytes} (length : content.length = sizeofCkUlong) :
    ulongBytes (littleEndianValue content) = content := by
  have reversed : littleEndianValue content = bigEndianValue content.reverse := by
    rw [← littleEndianValue_reverse, List.reverse_reverse]
  rw [ulongBytes, reversed, ← length, ← List.length_reverse, bigEndianBytes_value,
    List.reverse_reverse]

/-- An integer of the template is the bytes that were given for it. -/
theorem ulongBytes_of_taken (valid : validateCreationTemplate attributes = .ok ())
    (member : entry ∈ attributes.toList) (isUlong : ulongAttributes.contains entry.type = true)
    {number : Nat} (taken : (templateUnsigned attributes entry.type).getD number = number) :
    ulongBytes number = entry.value.content := by
  obtain ⟨content, value, length⟩ := (readable_of_validates valid).ulong entry member isUlong
  rw [templateUnsigned, templateBytes_of_mem valid member, value, Buffer.content] at taken
  dsimp only at taken
  rw [if_pos length, Option.getD_some] at taken
  rw [← taken, value, Buffer.content, ulongBytes_littleEndianValue length]

/-- A policy of the template is the one that is stored. -/
theorem get?_applyPolicyTemplate {entries : List Attribute}
    (distinct : (entries.map Attribute.type).Nodup) (policy : OrderedMap Nat Bool)
    (member : entry ∈ entries) (isPolicy : isPolicyAttribute entry.type = true) :
    (applyPolicyTemplate policy (.entries entries)).get? entry.type = some entry.boolean := by
  unfold applyPolicyTemplate Template.toList
  induction entries generalizing policy with
  | nil => contradiction
  | cons first rest ih =>
      rw [List.map_cons, List.nodup_cons] at distinct
      rw [List.foldl_cons]
      rcases List.mem_cons.mp member with rfl | later
      · rw [if_pos isPolicy]
        -- Nothing that follows has the same type.
        have kept (others : List Attribute) (current : OrderedMap Nat Bool)
            (absent : entry.type ∉ others.map Attribute.type) :
            (others.foldl (fun current other => if isPolicyAttribute other.type then
              current.insert other.type other.boolean else current) current).get? entry.type =
                current.get? entry.type := by
          induction others generalizing current with
          | nil => rfl
          | cons other others inner =>
              rw [List.map_cons, List.mem_cons, not_or] at absent
              rw [List.foldl_cons, inner _ absent.2]
              split
              · rw [OrderedMap.get?_insert_of_ne _ absent.1]
              · rfl
        rw [kept rest _ distinct.1, OrderedMap.get?_insert_self]
      · exact ih distinct.2 _ later

/-- A boolean is read as it was given. -/
theorem boolean_content (valid : validateCreationTemplate attributes = .ok ())
    (member : entry ∈ attributes.toList)
    (isBoolean : isPolicyAttribute entry.type = true ∨ entry.type = ckaToken) :
    [if entry.boolean then (1 : UInt8) else 0] = entry.value.content := by
  obtain ⟨flag, value⟩ := (readable_of_validates valid).boolean entry member isBoolean
  rw [Attribute.boolean, value, Buffer.content]
  cases flag <;> decide

theorem TakenFrom.attributeValue {openSsl : OpenSsl} {object : Object}
    (taken : TakenFrom attributes object) (valid : validateCreationTemplate attributes = .ok ())
    (member : entry ∈ attributes.toList)
    (isTaken : entry.type ∈ takenAttributes object.objectClass) :
    HsmSimulator.attributeValue openSsl object entry.type = .available entry.value.content := by
  have present := templateBytes_of_mem valid member
  by_cases isPolicy : isPolicyAttribute entry.type = true
  · have notToken : entry.type ≠ ckaToken := by
      intro same
      rw [same] at isPolicy
      contradiction
    have distinct := (validateCreationTemplate_eq_ok_iff.mp valid).2.distinct
    have stored := get?_applyPolicyTemplate distinct ∅ member isPolicy
    have policy : policyValue object entry.type = entry.boolean := by
      have same : applyPolicyTemplate ∅ (.entries attributes.toList) =
          applyPolicyTemplate ∅ attributes := rfl
      rw [policyValue, taken.policy, ← same, stored, Option.getD_some]
    rw [HsmSimulator.attributeValue, if_pos (by simp [isPolicy]), booleanAttribute,
      if_neg notToken, policy, boolean_content valid member (Or.inl isPolicy)]
  · have rest : entry.type = ckaClass ∨ entry.type = ckaToken ∨ entry.type = ckaLabel ∨
        entry.type = ckaId ∨ object.objectClass = ckoSecretKey ∧
          (entry.type = ckaKeyType ∨ entry.type = ckaValueLen) := by
      have notListed : entry.type ∉ policyAttributes := by
        simpa [isPolicyAttribute] using isPolicy
      simp only [takenAttributes, List.mem_cons, List.mem_append, notListed, false_or] at isTaken
      split at isTaken
      · rename_i isSecret
        simpa [isSecret] using isTaken
      · rename_i notSecret
        simpa [notSecret] using isTaken
    rcases rest with same | same | same | same | ⟨isSecret, same | same⟩
    · have bytes := ulongBytes_of_taken valid member (by rw [same]; decide)
        (by rw [same]; exact taken.objectClass)
      rw [← bytes, same]
      rfl
    · rw [same] at present
      have owner := taken.token _ present
      rw [← boolean_content valid member (Or.inr same), same]
      have flag : decide (object.ownerSession = 0) = entry.boolean := by
        rw [Attribute.boolean]
        exact decide_eq_decide.mpr owner
      change AttributeValue.available [if decide (object.ownerSession = 0) = true then 1 else 0] = _
      rw [flag]
    · have label := taken.label
      rw [same] at present
      rw [templateString, present, Option.getD_some] at label
      rw [same, label]
      rfl
    · have id := taken.id
      rw [same] at present
      rw [templateString, present, Option.getD_some] at id
      rw [same, id]
      rfl
    · have bytes := ulongBytes_of_taken valid member (by rw [same]; decide)
        (by rw [same]; exact taken.keyType isSecret)
      rw [← bytes, same]
      rfl
    · have bytes := ulongBytes_of_taken valid member (by rw [same]; decide)
        (by rw [same]; exact taken.valueLength isSecret)
      rw [← bytes, same]
      rfl

end

/-! ## What the calls take -/

section

variable {host : Host} {oracle : Oracle} {state : State} {sessionHandle : Nat}
  {attributes : Template}

/-- What a creating call returns, with the class of the object of each handle: a pair has its
public handle first. -/
def Call.returned (call : Call) (output : Output) : List (Nat × Nat) :=
  match call, output with
  | .generateKey .., .handle created => [(created, ckoSecretKey)]
  | .generateKeyPair .., .keyPair publicHandle privateHandle =>
      [(publicHandle, ckoPublicKey), (privateHandle, ckoPrivateKey)]
  | .unwrapKey _ _ _ _ attributes _, .handle created =>
      [(created, (templateUnsigned attributes ckaClass).getD ckoSecretKey)]
  | .deriveKey .., .handle created => [(created, ckoSecretKey)]
  | _, _ => []

end

/-! ## Reading and finding -/

/-- The question for an attribute, with room for the value of the entry. -/
def Attribute.question (entry : Attribute) : AttributeQuery :=
  ⟨entry.type, true, entry.value.length⟩

/-- The answer that the value of the entry is. -/
def Attribute.answer (entry : Attribute) : AttributeResult :=
  ⟨entry.value.length, some entry.value.content⟩

section

variable {host : Host} {state : State} {sessionHandle handle : Nat} {object : Object}
  {asked : List Attribute}

end

/-! ## The calls -/

end HsmSimulator
