import HsmSimulator.Library.Paging
import HsmSimulator.Objects.AttributeReads
import HsmSimulator.Pkcs11.Operations

/-!
# Searches

A search takes a snapshot of the handles that match when it starts and pages through it,
showing the objects that are still there and accessible.  A history records the start of
a search and the chunks it gave out; the pending search of the session is the rest of the
snapshot.
-/

namespace HsmSimulator

open Checks Paging

/-! ## Matching -/

/-- Reading the attribute of an entry with room for its value gives its value. -/
def HasAttribute (host : Host) (state : State) (sessionHandle handle : Nat) (entry : Attribute) :
    Prop :=
  getAttributeValue host state sessionHandle handle
      (.entries [⟨entry.type, true, entry.value.length⟩]) =
    ⟨.ok, .attributes [⟨entry.value.length, some entry.value.content⟩], none⟩

/-- The object is accessible to the session and has every attribute of the template. -/
structure Matches (host : Host) (state : State) (sessionHandle : Nat) (attributes : Template)
    (handle : Nat) : Prop where
  visible : stillVisible state sessionHandle handle = true
  attributes : ∀ entry ∈ attributes.toList, HasAttribute host state sessionHandle handle entry

theorem stillVisible_iff {state : State} {sessionHandle handle : Nat} :
    stillVisible state sessionHandle handle = true ↔ state.Accessible sessionHandle handle := by
  unfold stillVisible State.Accessible
  cases found : state.findObject sessionHandle handle with
  | none => simp
  | some object =>
      cases access : state.objectAccessStatus sessionHandle object with
      | ok value => simp [access]
      | error code => simp [access]

theorem length_content {buffer : Buffer} (given : buffer.isMissing = false) :
    buffer.content.length = buffer.length := by
  cases buffer with
  | null length =>
      have zero : length = 0 := by simpa [Buffer.isMissing] using given
      rw [zero]
      rfl
  | bytes content => rfl

theorem attributeValue_ne_failed_ok (openSsl : OpenSsl) (object : Object) (type : Nat) :
    attributeValue openSsl object type ≠ .failed .ok := by
  intro failed
  have code := (attributeValue_code openSsl object type).1
  rw [failed] at code
  exact code rfl

/-- The two reads of a search and one read with room for the value agree. -/
theorem matchesEntry_iff {openSsl : OpenSsl} {object : Object} {entry : Attribute}
    (given : entry.value.isMissing = false) :
    matchesEntry openSsl object entry = true ↔
      readAttribute openSsl object ⟨entry.type, true, entry.value.length⟩ =
        (⟨entry.value.length, some entry.value.content⟩, .ok) := by
  have room := length_content given
  unfold matchesEntry readAttribute
  cases stored : attributeValue openSsl object entry.type with
  | unavailable code => simp [stored, ckUnavailableInformation]
  | failed code =>
      have fails : code ≠ .ok := by
        rintro rfl
        exact attributeValue_ne_failed_ok _ _ _ stored
      simp [fails]
  | available value =>
      by_cases same : value.length = entry.value.length
      · rw [← same]
        by_cases empty : value.length = 0
        · have noContent : entry.value.content = value := by
            rw [List.length_eq_zero_iff.mp empty, ← List.length_eq_zero_iff, room, ← same]
            exact empty
          simp [stored, writeAttribute, noContent, empty]
        · simp [stored, writeAttribute, empty]
      · by_cases short : entry.value.length < value.length
        · simp [writeAttribute, same, short]
        · simp [writeAttribute, same, short]

theorem readableObject_eq_ok_iff {state : State} {sessionHandle handle : Nat} {object : Object} :
    readableObject state sessionHandle handle = .ok object ↔
      state.findObject sessionHandle handle = some object ∧
        state.objectAccessStatus sessionHandle object = .ok () := by
  simp only [readableObject, bind_eq_ok_iff, fetch_eq_ok_iff, pure_eq_ok, Except.ok.injEq]
  constructor
  · rintro ⟨_, _, found, isFound, _, access, rfl⟩
    exact ⟨isFound, access⟩
  · rintro ⟨isFound, access⟩
    rcases State.findObject_eq_some_iff.mp isFound with ⟨session, sessionFound, _⟩
    exact ⟨session, sessionFound, object, isFound, (), access, rfl⟩

theorem hasAttribute_iff {host : Host} {state : State} {sessionHandle handle : Nat}
    {object : Object} {entry : Attribute}
    (readable : readableObject state sessionHandle handle = .ok object)
    (given : entry.value.isMissing = false) :
    HasAttribute host state sessionHandle handle entry ↔
      matchesEntry host.openSsl object entry = true := by
  rw [matchesEntry_iff given, HasAttribute, getAttributeValue, readable]
  simp only [readAttributes, List.map_cons, List.map_nil]
  generalize readAttribute host.openSsl object ⟨entry.type, true, entry.value.length⟩ = result
  rcases result with ⟨value, code⟩
  by_cases isOk : code = .ok
  · simp [lastError, isOk]
  · simp [lastError, isOk]

/-- What the search tests of an object is that it matches. -/
theorem matchesTemplate_iff {host : Host} {state : State} {sessionHandle handle : Nat}
    {session : Session} {attributes : Template} {object : Object}
    (sessionFound : state.findSession sessionHandle = some session)
    (found : state.objects.get? handle = some object)
    (given : ∀ entry ∈ attributes.toList, entry.value.isMissing = false) :
    matchesTemplate host state sessionHandle session attributes object = true ↔
      Matches host state sessionHandle attributes handle := by
  constructor
  · intro matching
    have accessible := matchesTemplate_accessible sessionFound found matching
    rcases accessible with ⟨other, isFound, access⟩
    rcases State.findObject_eq_some_iff.mp isFound with ⟨_, _, stored, _⟩
    rw [found] at stored
    cases stored
    simp only [matchesTemplate, Bool.and_eq_true, List.all_eq_true] at matching
    refine ⟨stillVisible_iff.mpr ⟨object, isFound, access⟩, ?_⟩
    intro entry member
    have readable := readableObject_eq_ok_iff.mpr ⟨isFound, access⟩
    exact (hasAttribute_iff readable (given entry member)).mpr (matching.2 entry member)
  · intro matching
    rcases stillVisible_iff.mp matching.visible with ⟨other, isFound, access⟩
    rcases State.findObject_eq_some_iff.mp isFound with ⟨owner, ownerFound, stored, sameSlot⟩
    rw [found] at stored
    cases stored
    rw [sessionFound] at ownerFound
    cases ownerFound
    simp only [matchesTemplate, sameSlot, access, decide_true, Bool.true_and, List.all_eq_true]
    intro entry member
    have readable := readableObject_eq_ok_iff.mpr ⟨isFound, access⟩
    exact (hasAttribute_iff readable (given entry member)).mp (matching.attributes entry member)

/-! ## The history of a search -/

/-- A successful `FindObjects`: the state it was made in, its capacity and its handles. -/
structure Chunk where
  state : State
  capacity : Nat
  handles : List Nat

/-- A search: the state in which it started, its template, and its chunks so far. -/
structure SearchLog where
  start : State
  template : Template
  chunks : List Chunk

/-- The handles of all chunks, in order. -/
def SearchLog.returned (log : SearchLog) : List Nat := log.chunks.flatMap Chunk.handles

/-- The last search of a session, also after its end. -/
def searchLog (host : Host) (sessionHandle : Nat) (log : Option SearchLog) (state : State)
    (input : Call × Oracle) : Option SearchLog :=
  let response := (step host state input).2
  if response.rv = .ok then
    match input.1, response.output with
    | .findObjectsInit handle attributes, _ =>
        if handle = sessionHandle then some ⟨state, attributes, []⟩ else log
    | .findObjects handle _ capacity _, .found handles =>
        if handle = sessionHandle then
          log.map fun log => { log with chunks := log.chunks ++ [⟨state, capacity, handles⟩] }
        else log
    | _, _ => log
  else log

/-- The chunk as a page: it shows what the session can see in its state. -/
def Chunk.page (sessionHandle : Nat) (chunk : Chunk) : Page Nat :=
  ⟨stillVisible chunk.state sessionHandle, chunk.capacity, chunk.handles⟩

/-- The handles that matched when the search started, in increasing order. -/
structure Snapshot (host : Host) (sessionHandle : Nat) (log : SearchLog) (matched : List Nat) :
    Prop where
  increasing : matched.Pairwise (· < ·)
  exact : ∀ handle, handle ∈ matched ↔ Matches host log.start sessionHandle log.template handle
  issued : ∀ handle ∈ matched, handle < log.start.nextObjectHandle

/-- The handle names the object it named when the search started. -/
def SameSince (log : SearchLog) (state : State) (handle : Nat) : Prop :=
  ∃ object found, log.start.objects.get? handle = some object ∧
    state.objects.get? handle = some found ∧ found.core = object.core

/-- The search has given out its snapshot up to the rest. -/
def Searched (host : Host) (sessionHandle : Nat) (log : SearchLog) (rest : List Nat) : Prop :=
  ∃ matched, Snapshot host sessionHandle log matched ∧
    Turned matched (log.chunks.map (Chunk.page sessionHandle)) rest ∧
    ∀ chunk ∈ log.chunks, ∀ handle ∈ chunk.handles, SameSince log chunk.state handle

/-- The last search of the session went through its snapshot; if it is pending, it is the
rest of the snapshot. -/
structure SearchLogged (host : Host) (sessionHandle : Nat) (state : State)
    (log : Option SearchLog) : Prop where
  searched : ∀ last, log = some last → ∃ rest, Searched host sessionHandle last rest
  pending : ∀ session, state.findSession sessionHandle = some session →
    session.searchActive = true → ∃ last, log = some last ∧
      Searched host sessionHandle last (session.searchMatches.drop session.searchOffset) ∧
      ObjectsAdvance last.start state

/-- What of a session is its search. -/
def Session.search (session : Session) : Bool × List Nat × Nat :=
  (session.searchActive, session.searchMatches, session.searchOffset)

/-- The search of the session is the one before, or there is none. -/
def SearchLeft (state : State) (handle : Nat) (after : Session) : Prop :=
  after.searchActive = false ∨
    ∃ before, state.findSession handle = some before ∧ after.search = before.search

section

variable {host : Host} {oracle : Oracle} {state : State}

theorem takeVisible_covers (shows : Nat → Bool) (capacity : Nat) (all : List Nat) :
    (Page.mk shows capacity (takeVisible shows capacity all).1).Covers
      (all.take (takeVisible shows capacity all).2)
      (all.drop (takeVisible shows capacity all).2) := by
  fun_induction takeVisible shows capacity all with
  | case1 all => exact ⟨rfl, Nat.le_refl 0, by simp⟩
  | case2 capacity => exact ⟨rfl, Nat.zero_le _, by simp⟩
  | case3 capacity handle rest isShown handles passed outcome ih =>
      rw [outcome] at ih
      refine ⟨?_, ?_, ?_⟩
      · have items := ih.items
        dsimp only at items
        simp [isShown, ← items]
      · simpa using ih.fits
      · simpa using ih.full
  | case4 capacity handle rest notShown handles passed outcome ih =>
      rw [outcome] at ih
      refine ⟨?_, ih.fits, ?_⟩
      · have items := ih.items
        dsimp only at items
        simp [notShown, ← items]
      · simpa using ih.full

/-! ## Other calls -/

theorem SearchLeft.of_eq {next : State} {handle : Nat} {after : Session}
    (same : next.findSession handle = state.findSession handle)
    (found : next.findSession handle = some after) : SearchLeft state handle after :=
  Or.inr ⟨after, same.symm.trans found, rfl⟩

/-- The record of the session is replaced by one with its search. -/
theorem SearchLeft.putSession {sessionHandle handle : Nat} {session changed after : Session}
    (sessionFound : state.findSession sessionHandle = some session)
    (found : (state.putSession sessionHandle changed).findSession handle = some after)
    (same : changed.search = session.search) :
    SearchLeft state handle after := by
  rw [State.findSession_putSession] at found
  split at found
  · rename_i isSession
    cases found
    subst isSession
    exact Or.inr ⟨session, sessionFound, same⟩
  · exact Or.inr ⟨after, found, rfl⟩

theorem OperationClosed.searchLeft {next : State} {sessionHandle handle : Nat} {after : Session}
    (closed : OperationClosed state next sessionHandle)
    (found : next.findSession handle = some after) : SearchLeft state handle after := by
  rcases closed with rfl | ⟨session, sessionFound, rfl⟩
  · exact .of_eq rfl found
  · exact .putSession sessionFound found rfl

theorem initializeSignature_searchLeft {sessionHandle keyHandle handle : Nat}
    {mechanism : Option Mechanism} {verify : Bool} {after : Session}
    (found : (initializeSignature host state sessionHandle mechanism keyHandle
      verify).1.findSession handle = some after) : SearchLeft state handle after := by
  unfold initializeSignature at found
  split at found
  · exact .of_eq rfl found
  · rename_i session operation passes
    exact .putSession (signatureOperation_recorded passes).1 found rfl

theorem appendSignatureData_searchLeft {sessionHandle handle : Nat} {data : Buffer}
    {verify : Bool} {after : Session}
    (found : (appendSignatureData state sessionHandle data verify).1.findSession handle =
      some after) : SearchLeft state handle after := by
  have outcome := @appendSignatureData_cases state sessionHandle data verify
  generalize appendSignatureData state sessionHandle data verify = result at outcome found
  cases outcome with
  | refused _ => exact .of_eq rfl found
  | ended sessionFound _ => exact .putSession sessionFound found rfl
  | appended sessionFound _ _ _ => exact .putSession sessionFound found rfl

/-- The calls of a search. -/
def Call.searches? : Call → Option Nat
  | .findObjectsInit sessionHandle _ => some sessionHandle
  | .findObjects sessionHandle .. => some sessionHandle
  | .findObjectsFinal sessionHandle => some sessionHandle
  | _ => none

/-- A call on a session leaves the records of the others alone. -/
theorem OperationKept.searchLeft {next : State} {sessionHandle handle : Nat} {after : Session}
    (kept : OperationKept state next sessionHandle) (other : sessionHandle ≠ handle)
    (found : next.findSession handle = some after) : SearchLeft state handle after := by
  rcases kept with rfl | ⟨session, changed, _, rfl, _⟩
  · exact .of_eq rfl found
  · rw [State.findSession_putSession, if_neg other.symm] at found
    exact Or.inr ⟨after, found, rfl⟩

/-- The search of a session changes by its own calls only, or it ends. -/
theorem service_searchLeft (wellFormed : WellFormed state) {call : Call} {handle : Nat}
    {after : Session} (other : call.searches? ≠ some handle)
    (found : (service host oracle state call).1.findSession handle = some after) :
    SearchLeft state handle after := by
  cases leaves : call.updatesSession with
  | false =>
      rcases service_sessionsKept wellFormed leaves handle after found with same | idle
      · exact Or.inr ⟨after, same, rfl⟩
      · exact Or.inl idle.search
  | true =>
      cases call with
      | findObjectsInit sessionHandle attributes =>
          exact (findObjectsInit_kept sessionHandle attributes).searchLeft
            (fun same => other (congrArg some same)) found
      | findObjects sessionHandle hasOutput capacity hasCount =>
          exact (findObjects_kept sessionHandle hasOutput capacity hasCount).searchLeft
            (fun same => other (congrArg some same)) found
      | findObjectsFinal sessionHandle =>
          exact (findObjectsFinal_kept sessionHandle).searchLeft
            (fun same => other (congrArg some same)) found
      | signInit => exact initializeSignature_searchLeft found
      | verifyInit => exact initializeSignature_searchLeft found
      | signUpdate => exact appendSignatureData_searchLeft found
      | verifyUpdate => exact appendSignatureData_searchLeft found
      | sign sessionHandle data signature hasLength =>
          exact (sign_closed sessionHandle data signature hasLength).searchLeft found
      | signFinal sessionHandle signature hasLength =>
          exact (signFinal_closed sessionHandle signature hasLength).searchLeft found
      | verify sessionHandle data signature =>
          exact (verify_closed sessionHandle data signature).searchLeft found
      | verifyFinal sessionHandle signature =>
          exact (verifyFinal_closed sessionHandle signature).searchLeft found
      | _ => contradiction

theorem searchLog_of_other {sessionHandle : Nat} {log : Option SearchLog} {call : Call}
    (other : call.searches? ≠ some sessionHandle ∨ (step host state (call, oracle)).2.rv ≠ .ok) :
    searchLog host sessionHandle log state (call, oracle) = log := by
  unfold searchLog
  dsimp only
  split
  · rename_i isOk
    have different := other.resolve_right (not_not.mpr isOk)
    cases call with
    | findObjectsInit handle attributes =>
        exact if_neg fun same => different (congrArg some same)
    | findObjects handle hasOutput capacity hasCount =>
        split
        · rename_i isInit _
          contradiction
        · rename_i isFind _
          cases isFind
          exact if_neg fun same => different (congrArg some same)
        · rfl
    | _ => rfl
  · rfl

theorem searchLog_final {sessionHandle : Nat} {log : Option SearchLog} (handle : Nat) :
    searchLog host sessionHandle log state (.findObjectsFinal handle, oracle) = log := by
  unfold searchLog
  dsimp only
  split <;> rfl

/-! ## The calls of a search -/

/-- A search starts with the handles that match. -/
theorem findObjectsInit_cases (wellFormed : WellFormed state) (sessionHandle : Nat)
    (attributes : Template) :
    (∃ code, code ≠ .ok ∧
      findObjectsInit host state sessionHandle attributes = (state, .plain code)) ∨
    ∃ session matched, state.findSession sessionHandle = some session ∧
      Snapshot host sessionHandle ⟨state, attributes, []⟩ matched ∧
      findObjectsInit host state sessionHandle attributes =
        (state.putSession sessionHandle
          { session with searchMatches := matched, searchOffset := 0, searchActive := true },
          .plain .ok) := by
  unfold findObjectsInit
  cases passes : searchingSession state sessionHandle attributes with
  | error code =>
      refine Or.inl ⟨code, ?_, rfl⟩
      rintro rfl
      simp [searchingSession, bind_eq_error_iff] at passes
  | ok session =>
      have sessionFound := searchingSession_eq_ok passes
      simp only [searchingSession, bind_eq_ok_iff, require_eq_ok_iff] at passes
      rcases passes with ⟨_, _, _, _, _, given, _⟩
      have entries : ∀ entry ∈ attributes.toList, entry.value.isMissing = false := by
        simpa using given
      refine Or.inr ⟨session, _, sessionFound, ⟨?_, ?_, ?_⟩, rfl⟩
      · exact (OrderedMap.keys_sorted _).imp fun less => Nat.compare_eq_lt.mp less
      · intro handle
        rw [OrderedMap.mem_keys_iff]
        constructor
        · rintro ⟨object, found⟩
          rw [OrderedMap.get?_filter, Option.filter_eq_some_iff] at found
          exact (matchesTemplate_iff sessionFound found.1 entries).mp found.2
        · intro matching
          rcases stillVisible_iff.mp matching.visible with ⟨object, isFound, _⟩
          rcases State.findObject_eq_some_iff.mp isFound with ⟨_, _, stored, _⟩
          refine ⟨object, ?_⟩
          rw [OrderedMap.get?_filter, Option.filter_eq_some_iff]
          exact ⟨stored, (matchesTemplate_iff sessionFound stored entries).mpr matching⟩
      · intro handle listed
        rcases OrderedMap.mem_keys_iff.mp listed with ⟨object, found⟩
        rw [OrderedMap.get?_filter, Option.filter_eq_some_iff] at found
        exact (wellFormed.objectKey handle object found.1).2.2

/-- What a session is given to walk through after a search was started. -/
theorem snapshot_of_ok (wellFormed : WellFormed state) {sessionHandle : Nat}
    {attributes : Template} {session : Session}
    (isOk : (step host state (.findObjectsInit sessionHandle attributes, oracle)).2.rv = .ok)
    (sessionFound : (step host state (.findObjectsInit sessionHandle attributes,
      oracle)).1.findSession sessionHandle = some session) :
    Snapshot host sessionHandle ⟨state, attributes, []⟩ session.searchMatches := by
  cases isOpen : state.initialized with
  | false =>
      simp [step, Call.needsInitialization, isOpen] at isOk
  | true =>
      rw [step_of_open isOpen] at isOk sessionFound
      rcases @findObjectsInit_cases host state wellFormed sessionHandle attributes with
        ⟨code, failed, outcome⟩ | ⟨searching, matched, searchingFound, snapshot, outcome⟩
      · rw [service, outcome] at isOk
        exact (failed isOk).elim
      · rw [service, outcome] at sessionFound
        rw [State.findSession_putSession, if_pos rfl] at sessionFound
        cases sessionFound
        exact snapshot

/-- A chunk goes on where the search is. -/
theorem findObjects_cases (sessionHandle : Nat) (hasOutput : Bool) (capacity : Nat)
    (hasCount : Bool) :
    (∃ code, code ≠ .ok ∧
      findObjects state sessionHandle hasOutput capacity hasCount = (state, .plain code)) ∨
    ∃ session handles passed, state.findSession sessionHandle = some session ∧
      session.searchActive = true ∧
      takeVisible (stillVisible state sessionHandle) capacity
        (session.searchMatches.drop session.searchOffset) = (handles, passed) ∧
      findObjects state sessionHandle hasOutput capacity hasCount =
        (state.putSession sessionHandle
          { session with searchOffset := session.searchOffset + passed },
          .success (.found handles)) := by
  unfold findObjects
  split
  · rename_i code passes
    refine Or.inl ⟨code, ?_, rfl⟩
    rintro rfl
    simp [bind_eq_error_iff] at passes
  · rename_i session passes
    simp only [bind_eq_ok_iff, fetch_eq_ok_iff, require_eq_ok_iff, pure_eq_ok, Except.ok.injEq]
      at passes
    rcases passes with ⟨_, sessionFound, _, active, _, _, rfl⟩
    exact Or.inr ⟨_, _, _, sessionFound, active, rfl, rfl⟩

theorem Searched.chunk {sessionHandle capacity passed : Nat} {log : SearchLog}
    {pending handles : List Nat} (searched : Searched host sessionHandle log pending)
    (advance : ObjectsAdvance log.start state)
    (outcome : takeVisible (stillVisible state sessionHandle) capacity pending =
      (handles, passed)) :
    Searched host sessionHandle { log with chunks := log.chunks ++ [⟨state, capacity, handles⟩] }
      (pending.drop passed) := by
  rcases searched with ⟨matched, snapshot, turned, same⟩
  have covers := takeVisible_covers (stillVisible state sessionHandle) capacity pending
  rw [outcome] at covers
  refine ⟨matched, ⟨snapshot.increasing, snapshot.exact, snapshot.issued⟩, ?_, ?_⟩
  · rw [List.map_append, List.map_singleton]
    refine .turn ?_ covers
    rw [List.take_append_drop]
    exact turned
  · intro chunk member handle listed
    rcases List.mem_append.mp member with earlier | last
    · exact same chunk earlier handle listed
    · rw [List.mem_singleton.mp last] at listed ⊢
      have items := covers.items
      dsimp only at items listed
      rw [items] at listed
      rcases List.mem_filter.mp listed with ⟨reached, isVisible⟩
      have inMatched : handle ∈ matched :=
        turned.sublist.subset (List.mem_append_right _ (List.mem_of_mem_take reached))
      rcases stillVisible_iff.mp isVisible with ⟨object, isFound, _⟩
      rcases State.findObject_eq_some_iff.mp isFound with ⟨_, _, stored, _⟩
      rcases advance.entered handle object stored with ⟨old, oldFound, sameObject⟩ | above
      · exact ⟨old, object, oldFound, stored, sameObject.core⟩
      · have below := snapshot.issued handle inMatched
        omega

/-! ## Searches over a run -/

namespace SearchLogged

variable {sessionHandle : Nat} {log : Option SearchLog}
  (logged : SearchLogged host sessionHandle state log)

include logged

/-- Without a call of the search, what is pending stays or ends. -/
theorem keep {next : State} (advance : ObjectsAdvance state next)
    (left : ∀ after, next.findSession sessionHandle = some after →
      SearchLeft state sessionHandle after) :
    SearchLogged host sessionHandle next log := by
  refine ⟨logged.searched, ?_⟩
  intro after found active
  rcases left after found with inactive | ⟨before, beforeFound, same⟩
  · rw [inactive] at active
    contradiction
  · simp only [Session.search, Prod.mk.injEq] at same
    rcases same with ⟨sameActive, sameMatches, sameOffset⟩
    rw [sameActive] at active
    rcases logged.pending before beforeFound active with ⟨last, isLast, searched, since⟩
    rw [sameMatches, sameOffset]
    exact ⟨last, isLast, searched, since.trans advance⟩

/-- While the module is closed there is no session. -/
theorem closed (wellFormed : WellFormed state) (isClosed : state.initialized = false)
    (input : Call × Oracle) :
    SearchLogged host sessionHandle (HsmSimulator.step host state input).1
      (searchLog host sessionHandle log state input) := by
  rcases input with ⟨call, oracle⟩
  have unchanged : searchLog host sessionHandle log state (call, oracle) = log := by
    cases call with
    | findObjectsInit | findObjects =>
        apply searchLog_of_other
        right
        simp [HsmSimulator.step, isClosed, Call.needsInitialization]
    | findObjectsFinal handle => exact searchLog_final handle
    | _ => exact searchLog_of_other (Or.inl (by simp [Call.searches?]))
  rw [unchanged]
  refine ⟨logged.searched, ?_⟩
  intro session found
  rw [State.findSession, step_closed_sessions isClosed, (wellFormed.closed isClosed).2.2] at found
  contradiction

theorem findObjectsInit (wellFormed : WellFormed state) (isOpen : state.initialized = true)
    (attributes : Template) :
    SearchLogged host sessionHandle
      (HsmSimulator.step host state (.findObjectsInit sessionHandle attributes, oracle)).1
      (searchLog host sessionHandle log state
        (.findObjectsInit sessionHandle attributes, oracle)) := by
  have advance := (@step_effect host oracle state wellFormed
    (.findObjectsInit sessionHandle attributes)).objectsAdvance wellFormed isOpen
  have stepped := @step_of_open host oracle state isOpen (.findObjectsInit sessionHandle attributes)
  rcases @findObjectsInit_cases host state wellFormed sessionHandle attributes with
    ⟨code, fails, refused⟩ | ⟨session, matched, sessionFound, snapshot, started⟩
  · rw [service, refused] at stepped
    rw [searchLog_of_other (Or.inr (by rw [stepped]; exact fails)), stepped]
    exact logged
  · rw [service, started] at stepped
    have isLog : searchLog host sessionHandle log state
        (.findObjectsInit sessionHandle attributes, oracle) = some ⟨state, attributes, []⟩ := by
      simp [searchLog, stepped]
    have searched : Searched host sessionHandle ⟨state, attributes, []⟩ matched :=
      ⟨matched, snapshot, .start, by simp⟩
    rw [isLog]
    rw [stepped] at advance ⊢
    constructor
    · rintro last ⟨⟩
      exact ⟨matched, searched⟩
    · intro after found _
      rw [State.findSession_putSession, if_pos rfl] at found
      cases found
      exact ⟨_, rfl, searched, advance⟩

theorem findObjects (wellFormed : WellFormed state) (isOpen : state.initialized = true)
    (hasOutput : Bool) (capacity : Nat) (hasCount : Bool) :
    SearchLogged host sessionHandle
      (HsmSimulator.step host state
        (.findObjects sessionHandle hasOutput capacity hasCount, oracle)).1
      (searchLog host sessionHandle log state
        (.findObjects sessionHandle hasOutput capacity hasCount, oracle)) := by
  have advance := (@step_effect host oracle state wellFormed
    (.findObjects sessionHandle hasOutput capacity hasCount)).objectsAdvance wellFormed isOpen
  have stepped := @step_of_open host oracle state isOpen
    (.findObjects sessionHandle hasOutput capacity hasCount)
  rcases @findObjects_cases state sessionHandle hasOutput capacity hasCount with
    ⟨code, fails, refused⟩ | ⟨session, handles, passed, sessionFound, active, outcome, turned⟩
  · rw [service, refused] at stepped
    rw [searchLog_of_other (Or.inr (by rw [stepped]; exact fails)), stepped]
    exact logged
  · rw [service, turned] at stepped
    rcases logged.pending session sessionFound active with ⟨last, rfl, searched, since⟩
    have isLog : searchLog host sessionHandle (some last) state
        (.findObjects sessionHandle hasOutput capacity hasCount, oracle) =
          some { last with chunks := last.chunks ++ [⟨state, capacity, handles⟩] } := by
      simp [searchLog, stepped]
    have further := searched.chunk since outcome
    rw [List.drop_drop] at further
    rw [isLog]
    rw [stepped] at advance ⊢
    constructor
    · rintro _ ⟨⟩
      exact ⟨_, further⟩
    · intro after found _
      rw [State.findSession_putSession, if_pos rfl] at found
      cases found
      exact ⟨_, rfl, further, since.trans advance⟩

theorem findObjectsFinal (wellFormed : WellFormed state) (isOpen : state.initialized = true) :
    SearchLogged host sessionHandle
      (HsmSimulator.step host state (.findObjectsFinal sessionHandle, oracle)).1
      (searchLog host sessionHandle log state (.findObjectsFinal sessionHandle, oracle)) := by
  have advance := (@step_effect host oracle state wellFormed
    (.findObjectsFinal sessionHandle)).objectsAdvance wellFormed isOpen
  have stepped := @step_of_open host oracle state isOpen (.findObjectsFinal sessionHandle)
  rw [searchLog_final]
  refine logged.keep advance ?_
  intro after found
  rw [stepped, service, HsmSimulator.findObjectsFinal] at found
  split at found
  · exact .of_eq rfl found
  · rw [State.findSession_putSession, if_pos rfl] at found
    cases found
    exact Or.inl rfl

theorem step (wellFormed : WellFormed state) (input : Call × Oracle) :
    SearchLogged host sessionHandle (HsmSimulator.step host state input).1
      (searchLog host sessionHandle log state input) := by
  rcases input with ⟨call, oracle⟩
  cases isOpen : state.initialized with
  | false => exact logged.closed wellFormed isOpen _
  | true =>
      by_cases isOwn : call.searches? = some sessionHandle
      · cases call with
        | findObjectsInit handle attributes =>
            cases isOwn
            exact logged.findObjectsInit wellFormed isOpen attributes
        | findObjects handle hasOutput capacity hasCount =>
            cases isOwn
            exact logged.findObjects wellFormed isOpen hasOutput capacity hasCount
        | findObjectsFinal handle =>
            cases isOwn
            exact logged.findObjectsFinal wellFormed isOpen
        | _ => contradiction
      · rw [searchLog_of_other (Or.inl isOwn)]
        refine logged.keep ((step_effect wellFormed call).objectsAdvance wellFormed isOpen) ?_
        intro after found
        rw [step_of_open isOpen] at found
        exact service_searchLeft wellFormed isOwn found

end SearchLogged

theorem searchLogged_run (host : Host) (disk : FileSystem) (inputs : List (Call × Oracle))
    (sessionHandle : Nat) :
    SearchLogged host sessionHandle (Runs.final (step host) (.loaded disk) inputs)
      (Runs.history (step host) (searchLog host sessionHandle) none (.loaded disk) inputs) := by
  have invariant := @Runs.history_invariant _ _ _ _ (step host) (searchLog host sessionHandle)
    (fun _ _ => True)
    (fun state log => WellFormed state ∧ SearchLogged host sessionHandle state log)
    (fun state log input valid _ => ⟨valid.1.step input, valid.2.step valid.1 input⟩)
    (.loaded disk) none inputs ⟨wellFormed_loaded disk, ?_⟩ (Runs.along_true _ _ _)
  · exact invariant.2
  · constructor
    · intro last isLast
      contradiction
    · intro session found
      contradiction

end

/-- What a search gives out, chunk by chunk: its handles increase, they are the matching
ones that are still visible when they are reached, a chunk that is not full has reached the
end, and where the chunks were cut does not matter. -/
structure SearchExact (host : Host) (sessionHandle : Nat) (log : SearchLog) (matched : List Nat) :
    Prop where
  snapshot : matched.Pairwise (· < ·) ∧
    ∀ handle, handle ∈ matched ↔ Matches host log.start sessionHandle log.template handle
  increasing : log.returned.Pairwise (· < ·)
  reached : ∃ (parts : List (List Nat)) (rest : List Nat), parts.flatten ++ rest = matched ∧
    List.Forall₂ (fun part chunk =>
      chunk.handles = part.filter (stillVisible chunk.state sessionHandle)) parts log.chunks ∧
    ∀ before chunk after, log.chunks = before ++ chunk :: after →
      chunk.handles.length < chunk.capacity → rest = [] ∧ ∀ later ∈ after, later.handles = []
  fits : ∀ chunk ∈ log.chunks, chunk.handles.length ≤ chunk.capacity
  same : ∀ chunk ∈ log.chunks, ∀ handle ∈ chunk.handles, SameSince log chunk.state handle
  uniform : ∀ shows : Nat → Bool, (∀ chunk ∈ log.chunks, ∀ handle ∈ matched,
    stillVisible chunk.state sessionHandle handle = shows handle) →
      log.returned = (matched.filter shows).take (log.chunks.map Chunk.capacity).sum

theorem Searched.exact {host : Host} {sessionHandle : Nat} {log : SearchLog} {rest : List Nat}
    (searched : Searched host sessionHandle log rest) :
    ∃ matched, SearchExact host sessionHandle log matched := by
  rcases searched with ⟨matched, snapshot, turned, same⟩
  have items : (log.chunks.map (Chunk.page sessionHandle)).flatMap Page.items = log.returned :=
    List.flatMap_map _ _ _
  have capacities : (log.chunks.map (Chunk.page sessionHandle)).map Page.capacity =
      log.chunks.map Chunk.capacity := List.map_map
  refine ⟨matched, ⟨snapshot.increasing, snapshot.exact⟩, ?_, ?_, ?_, same, ?_⟩
  · have inOrder := turned.sublist
    rw [items] at inOrder
    exact (List.pairwise_append.mp (snapshot.increasing.sublist inOrder)).1
  · rcases turned.parts with ⟨parts, whole, each⟩
    refine ⟨parts, rest, whole, List.forall₂_map_right_iff.mp each, ?_⟩
    intro before chunk after isChunks notFull
    have isPages : log.chunks.map (Chunk.page sessionHandle) =
        before.map (Chunk.page sessionHandle) ++ chunk.page sessionHandle ::
          after.map (Chunk.page sessionHandle) := by
      rw [isChunks, List.map_append, List.map_cons]
    rcases turned.short isPages notFull with ⟨ended, nothing⟩
    exact ⟨ended, fun later member => nothing _ (List.mem_map_of_mem member)⟩
  · intro chunk member
    exact turned.fits _ (List.mem_map_of_mem member)
  · intro shows constant
    have taken := turned.uniform shows (by
      intro page member handle inMatched
      rcases List.mem_map.mp member with ⟨chunk, isChunk, rfl⟩
      exact constant chunk isChunk handle inMatched)
    rw [items, capacities] at taken
    exact taken

/-- Searches are exact along every run: the last search of any session gave out what matched
when it started and was visible when it was reached. -/
theorem search_exact (host : Host) (disk : FileSystem) (inputs : List (Call × Oracle))
    (sessionHandle : Nat) (log : SearchLog)
    (isLast : Runs.history (step host) (searchLog host sessionHandle) none (.loaded disk) inputs =
      some log) :
    ∃ matched, SearchExact host sessionHandle log matched := by
  rcases (searchLogged_run host disk inputs sessionHandle).searched log isLast with
    ⟨rest, searched⟩
  exact searched.exact

theorem search_exact_aesKeys :
    let inputs := plainRun [.cInitialize false, .openSession 1 6 true, aesKey 1,
      .generateKey 1 (some ⟨ckmAesKeyGen, .null 0⟩) (.entries [⟨ckaLabel, .bytes [65]⟩]) true,
      .findObjectsInit 1 (.entries [⟨ckaClass, .bytes (ulongBytes ckoSecretKey)⟩]),
      .findObjects 1 true 1 true, .destroyObject 1 1, .findObjects 1 true 5 true]
    ∃ log, Runs.history (step .plain) (searchLog .plain 1) none (.loaded ⟨∅, ∅⟩) inputs = some log ∧
      log.returned = [1, 2] ∧ ∃ matched, SearchExact .plain 1 log matched := by
  intro inputs
  have returned : (Runs.history (step .plain) (searchLog .plain 1) none (.loaded ⟨∅, ∅⟩)
      inputs).map SearchLog.returned = some [1, 2] := by
    decide
  rcases Option.map_eq_some_iff.mp returned with ⟨log, isLast, handles⟩
  exact ⟨log, isLast, handles, search_exact .plain ⟨∅, ∅⟩ inputs 1 log isLast⟩

end HsmSimulator
