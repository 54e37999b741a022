import HsmSimulator.Pkcs11.TokenEffects
import HsmSimulator.Storage.Reloading

/-!
# Policies of token objects

The policies of a token object come from its metadata file, from creation templates and
from changes of attributes.  What files have and templates keep holds of them along every
run: their types are 32-bit words, and but for at most 32 they are types the code knows.
-/

namespace HsmSimulator

/-- A property that the policies in files have and that templates keep. -/
structure StablePolicies (Good : OrderedMap Nat Bool → Prop) : Prop where
  empty : Good ∅
  insert : ∀ policy type value, Good policy → isPolicyAttribute type = true →
    Good (policy.insert type value)
  loaded : ∀ records cls record, Metadata.WithinLimits records →
    records.get? cls = some record → Good record.policy

/-- The token objects have policies of the kind. -/
def EveryPolicy (Good : OrderedMap Nat Bool → Prop) (state : State) : Prop :=
  ∀ handle object, state.objects.get? handle = some object → object.ownerSession = 0 →
    Good object.policy

/-- The types of policies are 32-bit words, as they are in a file. -/
def WordPolicies (policy : OrderedMap Nat Bool) : Prop := ∀ type ∈ policy.keys, type < 2 ^ 32

/-- At most as many policies as the reader takes are of types the code does not know. -/
def FewPolicies (policy : OrderedMap Nat Bool) : Prop :=
  ∃ others : List Nat, others.length ≤ 32 ∧
    ∀ type ∈ policy.keys, type ∈ others ∨ isPolicyAttribute type = true

/-- The policies of every token object can be written. -/
def TokenPolicies (state : State) : Prop :=
  ∀ handle object, state.objects.get? handle = some object → object.ownerSession = 0 →
    WordPolicies object.policy

/-! ## Files -/

theorem isPolicyAttribute_lt {type : Nat} (isPolicy : isPolicyAttribute type = true) :
    type < 2 ^ 32 := by
  have all : ∀ listed ∈ policyAttributes, listed < 2 ^ 32 := by decide
  exact all type (List.contains_iff_mem.mp isPolicy)

theorem mem_keys_insert {policy : OrderedMap Nat Bool} {type other : Nat} {value : Bool}
    (member : other ∈ (policy.insert type value).keys) : other = type ∨ other ∈ policy.keys := by
  rcases OrderedMap.mem_keys_iff.mp member with ⟨stored, found⟩
  rw [OrderedMap.get?_insert] at found
  split at found
  · rename_i same
    exact Or.inl same
  · exact Or.inr (OrderedMap.mem_keys_iff.mpr ⟨stored, found⟩)

theorem wordPolicies_stable : StablePolicies WordPolicies := by
  constructor
  · intro type member
    contradiction
  · intro policy type value words isPolicy other member
    rcases mem_keys_insert member with rfl | old
    · exact isPolicyAttribute_lt isPolicy
    · exact words other old
  · intro records cls record limits stored
    exact limits.types cls record stored

theorem fewPolicies_stable : StablePolicies FewPolicies := by
  constructor
  · exact ⟨[], Nat.zero_le _, fun type member => by contradiction⟩
  · rintro policy type value ⟨others, few, listed⟩ isPolicy
    refine ⟨others, few, fun other member => ?_⟩
    rcases mem_keys_insert member with rfl | old
    · exact Or.inr isPolicy
    · exact listed other old
  · intro records cls record limits stored
    refine ⟨record.policy.keys, ?_, fun type member => Or.inl member⟩
    have few := limits.policies cls record stored
    simpa [OrderedMap.size, OrderedMap.keys] using few

/-- There are at most as many policies as types they can have. -/
theorem size_le_of_types {policy : OrderedMap Nat Bool} {others : List Nat}
    (listed : ∀ type ∈ policy.keys, type ∈ others ∨ isPolicyAttribute type = true) :
    policy.size ≤ others.length + policyAttributes.length := by
  have subset : policy.keys ⊆ others ++ policyAttributes := by
    intro type member
    rcases listed type member with isOther | isPolicy
    · exact List.mem_append_left _ isOther
    · exact List.mem_append_right _ (List.contains_iff_mem.mp isPolicy)
  have length := ((OrderedMap.keys_nodup policy).subperm subset).length_le
  rw [List.length_append] at length
  simpa only [OrderedMap.size, OrderedMap.keys, List.length_map] using length

/-- With the types the code knows there are few policies. -/
theorem FewPolicies.size_lt {policy : OrderedMap Nat Bool} (few : FewPolicies policy) :
    policy.size < 2 ^ 32 := by
  rcases few with ⟨others, short, listed⟩
  have size := size_le_of_types listed
  have known : policyAttributes.length ≤ 32 := by decide
  omega

/-- A property of policies that those of a template keep. -/
theorem applyPolicyTemplate_induction {Good : OrderedMap Nat Bool → Prop}
    (insert : ∀ policy type value, Good policy → isPolicyAttribute type = true →
      Good (policy.insert type value))
    {policy : OrderedMap Nat Bool} (good : Good policy) (attributes : Template) :
    Good (applyPolicyTemplate policy attributes) := by
  unfold applyPolicyTemplate
  generalize attributes.toList = entries
  induction entries generalizing policy with
  | nil => exact good
  | cons entry rest ih =>
      rw [List.foldl_cons]
      split
      · rename_i isPolicy
        exact ih (insert _ _ entry.boolean good isPolicy)
      · exact ih good

/-- The policies of a template are as many as the reader takes. -/
theorem size_applyPolicyTemplate_le (attributes : Template) :
    (applyPolicyTemplate ∅ attributes).size ≤ 32 := by
  have known : ∀ type ∈ (applyPolicyTemplate ∅ attributes).keys,
      type ∈ [] ∨ isPolicyAttribute type = true := by
    refine @applyPolicyTemplate_induction
      (fun policy => ∀ type ∈ policy.keys, type ∈ [] ∨ isPolicyAttribute type = true) ?_ ∅ ?_
      attributes
    · intro policy type value listed isPolicy other member
      rcases mem_keys_insert member with rfl | old
      · exact Or.inr isPolicy
      · exact listed other old
    · intro type member
      contradiction
  have size := size_le_of_types known
  have few : policyAttributes.length ≤ 32 := by decide
  rw [List.length_nil, Nat.zero_add] at size
  exact size.trans few

/-! ## Runs -/

namespace StablePolicies

variable {Good : OrderedMap Nat Bool → Prop} (stable : StablePolicies Good)

include stable

theorem apply {policy : OrderedMap Nat Bool} (good : Good policy) (attributes : Template) :
    Good (applyPolicyTemplate policy attributes) :=
  applyPolicyTemplate_induction stable.insert good attributes

theorem withMetadata {disk : FileSystem} {oracle : Oracle} {key : Path} {object : Object}
    (good : Good object.policy) :
    Good (object.withMetadata ((Metadata.read disk oracle key).getD ∅)).policy := by
  unfold Object.withMetadata
  cases isRead : Metadata.read disk oracle key with
  | none => exact good
  | some records =>
      dsimp only [Option.getD_some]
      split
      · rename_i record stored
        exact stable.loaded records _ record (records_withinLimits (records_of_read isRead)) stored
      · exact good

section

variable {state : State} (policies : EveryPolicy Good state)

include policies

omit stable in
/-- Nothing but registered objects with such policies is new. -/
theorem extend {next : State} {news : List Object}
    (objects : ∀ handle object, next.objects.get? handle = some object →
      object.ownerSession = 0 → state.objects.get? handle = some object ∨ object ∈ news)
    (good : ∀ object ∈ news, Good object.policy) : EveryPolicy Good next := by
  intro handle object found token
  rcases objects handle object found token with old | isNew
  · exact policies handle object old token
  · exact good object isNew

omit stable in
theorem shrink {next : State}
    (objects : ∀ handle object, next.objects.get? handle = some object →
      object.ownerSession = 0 → state.objects.get? handle = some object) :
    EveryPolicy Good next :=
  extend policies (fun handle object found token => Or.inl (objects handle object found token))
    (List.forall_mem_nil _)

theorem effect {host : Host} {oracle : Oracle} {call : Call} {result : State × Response}
    (effect : TokenEffect host oracle state call result) : EveryPolicy Good result.1 := by
  cases effect with
  | kept same _ => exact shrink policies fun handle object found token =>
      (same.objects handle object token).mp found
  | pinWritten _ _ same _ => exact shrink policies fun handle object found token =>
      (same.objects handle object token).mp found
  | @altered _ handle attributes object changed _ change token _ _ =>
      rcases State.findObject_eq_some_iff.mp change.found with ⟨_, _, stored, _⟩
      refine @extend _ _ policies _ [changed] ?_ ?_
      · intro other sibling found _
        dsimp only at found
        rw [OrderedMap.get?_insert] at found
        split at found
        · cases found
          exact Or.inr (List.mem_singleton.mpr rfl)
        · exact Or.inl found
      · intro other member
        rw [List.mem_singleton.mp member]
        rcases change.relabelled with ⟨label, id, rfl⟩
        exact stable.apply (policies handle object stored token) attributes
  | metadataLeft _ _ _ => exact shrink policies fun _ _ found _ => found
  | destroyed _ _ _ => exact shrink policies fun _ _ found _ =>
      (OrderedMap.get?_eraseIf_eq_some_iff.mp found).1
  | @creation call _ _ _ new _ _ _ _ _ made creation =>
      have registered (handle : Nat) (object : Object)
          (found : (registerAll state.objects new.objects).get? handle = some object) :
          state.objects.get? handle = some object ∨ object ∈ new.objects := by
        rcases (get?_registerAll made.distinct handle object).mp found with ⟨isNew, _⟩ | ⟨_, old⟩
        · exact Or.inr isNew
        · exact Or.inl old
      have good : ∀ object ∈ new.objects, Good object.policy := by
        intro object member
        rw [made.policies object member]
        exact stable.apply stable.empty _
      cases creation with
      | refused _ _ => exact shrink policies fun _ _ found _ => found
      | broken _ _ _ _ _ => exact shrink policies fun _ _ found _ => found
      | withdrawn _ _ _ _ _ => exact shrink policies fun _ _ found _ =>
          (OrderedMap.get?_eraseIf_eq_some_iff.mp found).1
      | created _ _ _ _ _ _ _ _ _ _ =>
          exact extend policies (fun handle object found _ => registered handle object found) good
      | kept _ _ _ _ =>
          exact extend policies (fun handle object found _ => registered handle object found) good
      | @half _ object _ _ _ _ _ _ _ _ _ policy _ =>
          refine @extend _ _ policies _ [object] ?_ ?_
          · intro other sibling found _
            dsimp only at found
            rw [OrderedMap.get?_insert] at found
            split at found
            · cases found
              exact Or.inr (List.mem_singleton.mpr rfl)
            · exact Or.inl found
          · intro other member
            rw [List.mem_singleton.mp member, policy]
            exact stable.empty
  | finalized => exact shrink policies fun _ _ found _ => by contradiction
  | initializing _ initialization =>
      cases initialization with
      | failed _ _ objects _ _ _ _ _ =>
          exact shrink policies fun _ _ found _ => by rw [objects] at found; contradiction
      | succeeded _ discovered loaded =>
          intro handle object found _
          rcases (loaded.objects handle object).mp found with ⟨_, raw, listed, rfl, rfl⟩
          rcases mem_tokenObjects.mp (List.mem_of_getElem? listed) with
            ⟨slot, _, path, content, _, member⟩
          apply stable.withMetadata
          change Good raw.policy
          rw [(fileObjects_raw member).1.policy]
          exact stable.empty

end

/-- Token objects have policies of the kind along every run. -/
theorem run (host : Host) (disk : FileSystem) (inputs : List (Call × Oracle)) :
    EveryPolicy Good (Runs.final (step host) (.loaded disk) inputs) := by
  have invariant := @Runs.invariant_run _ _ _ (step host)
    (fun state => WellFormed state ∧ EveryPolicy Good state)
    (fun state input valid => ⟨valid.1.step input,
      stable.effect valid.2 (step_token valid.1 input.1)⟩)
    (.loaded disk) ⟨wellFormed_loaded disk, fun _ _ found => by contradiction⟩ inputs
  exact invariant.2

end StablePolicies

/-- The policies of token objects can be written along every run. -/
theorem TokenPolicies.run (host : Host) (disk : FileSystem) (inputs : List (Call × Oracle)) :
    TokenPolicies (Runs.final (step host) (.loaded disk) inputs) :=
  wordPolicies_stable.run host disk inputs

end HsmSimulator
