/-
LamcoRdp/Session/PortalFactory.lean

How a portal session is created: `session/factory/portal.rs`, over the storage of restore
tokens.

The first request asks the portal to remember the session, and carries the restore token
that is stored.  A portal that refuses to remember it is asked once more, without.  Only a
request that asks for nothing to be remembered comes with a clipboard.  A token that the
portal gives with a session is stored for the next start.

A start is one call of `create_session` in a new process.  What the portal and the storage
answer are inputs, and so are the storage method, which every process detects anew (a locked
keyring is passed over), and what the process finds when it starts.  `portal_starts` is
about any number of starts on one host: the requests of each, and where the restore tokens
in them come from.

The streams, the identity of the application, the delay before the second request and the
session identifiers decide nothing here and are left out.
-/
import LamcoRdp.Session.TokenStore

namespace LamcoRdp

/-! ### Failures -/

/-- `SessionCreationFailure`, as far as the factory makes them. -/
inductive SessionCreationFailure
  | persistenceRejected (errorMessage : String)
  | sourceSelectionFailed (errorMessage : String)
  | deviceSelectionFailed (errorMessage : String)
  | clipboardRequestFailed (errorMessage : String)
  | other (errorMessage : String)

namespace SessionCreationFailure

/-- `should_retry_without_persistence`. -/
def shouldRetryWithoutPersistence : SessionCreationFailure → Bool
  | .persistenceRejected _ => true
  | _ => false

/-- `parse_failure`, of the text of the whole chain of errors. -/
def parse (msg : String) : SessionCreationFailure :=
  let contains (words : String) : Bool := decide (words.toList <:+: msg.toList)
  if contains "cannot persist" || contains "InvalidArgument" then .persistenceRejected msg
  else if contains "source" || contains "Source" then .sourceSelectionFailed msg
  else if contains "device" || contains "Device" then .deviceSelectionFailed msg
  else if contains "clipboard" || contains "Clipboard" then .clipboardRequestFailed msg
  else .other msg

end SessionCreationFailure

/-! ### The factory -/

/-- What the portal is asked for. -/
structure PortalRequest where
  restoreToken : Option String
  /-- the `persist_mode` is not `DoNot` -/
  persist : Bool
  /-- a clipboard manager comes with it -/
  clipboard : Bool
  deriving DecidableEq

/-- What an attempt meets. -/
structure AttemptCalls where
  load : LoadCalls
  /-- what the error of a load says after its outermost context -/
  loadCause : String
  /-- the error of `PortalManager::new` -/
  managerError : Option String
  /-- `ClipboardManager::new` succeeds -/
  clipboardManager : Bool
  /-- the portal's answer: the restore token that comes with the session, or an error -/
  createSession : PortalRequest → Except String (Option String)

/-- `PortalSessionFactory`, with what it asks the service registry. -/
structure PortalSessionFactory where
  tokenManager : Tokens
  /-- the compositor is KDE's -/
  expectsPersistenceRejection : Bool
  /-- the clipboard service is usable -/
  clipboardEnabled : Bool

/-- What comes of a start. -/
structure SessionCreation where
  storage : TokenStorage
  requests : List PortalRequest
  newToken : Option String
  /-- whether the session has a clipboard manager -/
  result : Except String Bool

namespace PortalSessionFactory

/-- `attempt_session`: the request that was made, and the token and the clipboard of the
session. -/
def attemptSession (f : PortalSessionFactory) (cipher : TokenCipher) (s : TokenStorage)
    (io : AttemptCalls) (withPersistence : Bool) :
    Option PortalRequest × Except String (Option String × Bool) :=
  match if withPersistence then f.tokenManager.loadToken cipher "default" s io.load
    else .ok none with
  | .error e => (none, .error ("Failed to load restore token: " ++ e ++ io.loadCause))
  | .ok restoreToken =>
      match io.managerError with
      | some e => (none, .error ("Failed to create Portal manager: " ++ e))
      | none =>
          -- a clipboard manager of a first attempt that fails would spoil the second one
          let clipboard := f.clipboardEnabled && !withPersistence && io.clipboardManager
          let request : PortalRequest := ⟨restoreToken, withPersistence, clipboard⟩
          (some request, (io.createSession request).map fun token => (token, clipboard))

/-- The end of `create_session`: the token is stored. -/
def conclude (f : PortalSessionFactory) (cipher : TokenCipher) (s : TokenStorage)
    (save : SaveCalls) (requests : List PortalRequest) :
    Except String (Option String × Bool) → SessionCreation
  | .error e => ⟨s, requests, none, .error e⟩
  | .ok (none, clipboard) => ⟨s, requests, none, .ok clipboard⟩
  | .ok (some token, clipboard) =>
      let saved := f.tokenManager.saveToken cipher s token save
      ⟨saved.1, requests, some token,
        match saved.2 with
        | .ok () => .ok clipboard
        | .error e => .error ("Failed to save restore token: " ++ e)⟩

/-- `create_session`. -/
def createSession (f : PortalSessionFactory) (cipher : TokenCipher) (s : TokenStorage)
    (first retry : AttemptCalls) (save : SaveCalls) : SessionCreation :=
  let attempt := f.attemptSession cipher s first !f.expectsPersistenceRejection
  match attempt.2 with
  | .ok session => f.conclude cipher s save attempt.1.toList (.ok session)
  | .error e =>
      if f.expectsPersistenceRejection ||
          !(SessionCreationFailure.parse e).shouldRetryWithoutPersistence then
        f.conclude cipher s save attempt.1.toList (.error ("Session creation failed: " ++ e))
      else
        let second := f.attemptSession cipher s retry false
        f.conclude cipher s save (attempt.1.toList ++ second.1.toList)
          (second.2.mapError ("Session creation failed (retry without persistence): " ++ ·))

end PortalSessionFactory

/-! ### Starts -/

/-- A start of the server. -/
structure PortalStart where
  /-- what `detect_credential_storage` gives -/
  method : CredentialStorageMethod
  platform : StoragePlatform
  kde : Bool
  clipboardEnabled : Bool
  first : AttemptCalls
  retry : AttemptCalls
  save : SaveCalls

/-- The host: what is stored, and the tokens that the portal has given. -/
structure PortalHost where
  storage : TokenStorage
  issued : List String

namespace PortalHost

/-- Nothing is stored. -/
def new : PortalHost := ⟨.empty, []⟩

/-- What a start comes to on this host. -/
def start (cipher : TokenCipher) (host : PortalHost) (start : PortalStart) : SessionCreation :=
  PortalSessionFactory.createSession
    ⟨.new start.method start.platform, start.kde, start.clipboardEnabled⟩ cipher host.storage
    start.first start.retry start.save

/-- The host after a start. -/
def step (cipher : TokenCipher) (host : PortalHost) (start : PortalStart) : PortalHost :=
  let created := host.start cipher start
  ⟨created.storage, host.issued ++ created.newToken.toList⟩

end PortalHost

/-! ### Where the tokens come from -/

/-- Every token that is stored is one of these. -/
def StoredFrom (cipher : TokenCipher) (issued : List String) (s : TokenStorage) : Prop :=
  ∀ place, ∀ token ∈ s.tokensIn cipher place, token ∈ issued

section Stored

variable {cipher : TokenCipher} {issued : List String} {s : TokenStorage} {tokens : Tokens}

theorem StoredFrom.mem_of_loadToken {sessionId token : String} {io : LoadCalls}
    (h : StoredFrom cipher issued s)
    (hload : tokens.loadToken cipher sessionId s io = .ok (some token)) : token ∈ issued := by
  obtain ⟨place, -, htoken⟩ := loadToken_mem hload
  exact h place token htoken

theorem StoredFrom.more (h : StoredFrom cipher issued s) (token : String) :
    StoredFrom cipher (issued ++ [token]) s :=
  fun place t ht => List.mem_append_left _ (h place t ht)

/-- Saving a token adds no other. -/
theorem StoredFrom.of_saveToken (h : StoredFrom cipher issued s) (token : String) (io : SaveCalls) :
    StoredFrom cipher (issued ++ [token]) (tokens.saveToken cipher s token io).1 := by
  rcases effect_saveToken tokens cipher s token io with ⟨-, e, heq⟩ | ⟨left, -, hstored, -⟩
  · rw [heq]
    exact h.more token
  · intro place t ht
    by_cases hplace : place = tokens.target
    · subst hplace
      rcases (hstored.mem_iff t).mp ht with hleft | rfl
      · exact h.more token _ t (hstored.left_mem t hleft)
      · exact List.mem_append_right _ (List.mem_singleton_self _)
    · rw [hstored.other place hplace] at ht
      exact h.more token place t ht

end Stored

/-! ### The requests of a start -/

/-- A request that may be made: a restore token is one of these, and stands only in a request
that asks to be remembered; that one has no clipboard. -/
structure PortalRequest.Allowed (issued : List String) (request : PortalRequest) : Prop where
  restoreToken : ∀ token, request.restoreToken = some token →
    token ∈ issued ∧ request.persist = true
  clipboard : request.persist = true → request.clipboard = false

namespace PortalSessionFactory

variable {cipher : TokenCipher} {s : TokenStorage} {issued : List String}

/-- An attempt makes no request and fails, or it makes one that is allowed, and the session
has the clipboard of the request. -/
theorem attemptSession_cases (f : PortalSessionFactory) (io : AttemptCalls)
    (withPersistence : Bool) (h : StoredFrom cipher issued s) :
    (∃ e, f.attemptSession cipher s io withPersistence = (none, .error e)) ∨
    ∃ request, f.attemptSession cipher s io withPersistence =
        (some request, (io.createSession request).map fun token => (token, request.clipboard)) ∧
      request.Allowed issued ∧ request.persist = withPersistence := by
  unfold attemptSession
  -- a token is loaded only with persistence
  cases hload : (if withPersistence then f.tokenManager.loadToken cipher "default" s io.load
      else .ok none) with
  | error e => exact Or.inl ⟨_, rfl⟩
  | ok restoreToken =>
      cases io.managerError with
      | some e => exact Or.inl ⟨_, rfl⟩
      | none =>
          refine Or.inr ⟨_, rfl, ⟨fun token htoken => ?_, fun hpersist => ?_⟩, rfl⟩
          · -- the token was issued before
            cases hpersist : withPersistence with
            | true =>
                rw [hpersist, if_pos rfl, show restoreToken = some token from htoken] at hload
                exact ⟨h.mem_of_loadToken hload, rfl⟩
            | false =>
                rw [hpersist, if_neg Bool.false_ne_true] at hload
                cases hload
                cases htoken
          · -- with persistence no clipboard is asked for
            show (f.clipboardEnabled && !withPersistence && io.clipboardManager) = false
            rw [show withPersistence = true from hpersist, Bool.not_true, Bool.and_false,
              Bool.false_and]

/-- The request of an attempt. -/
theorem attemptSession_request (f : PortalSessionFactory) (io : AttemptCalls)
    (withPersistence : Bool) (h : StoredFrom cipher issued s) :
    (∀ request ∈ (f.attemptSession cipher s io withPersistence).1.toList,
      request.Allowed issued) ∧
    ((f.attemptSession cipher s io withPersistence).1.toList.map (·.persist)).Sublist
      [withPersistence] ∧
    (∀ token, (f.attemptSession cipher s io withPersistence).2 = .ok (token, true) →
      ∃ request ∈ (f.attemptSession cipher s io withPersistence).1.toList,
        request.clipboard = true) ∧
    ∀ request e, (f.attemptSession cipher s io withPersistence).1 = some request →
      (f.attemptSession cipher s io withPersistence).2 = .error e →
        io.createSession request = .error e := by
  rcases attemptSession_cases f io withPersistence h with
    ⟨e, heq⟩ | ⟨request, heq, hallowed, hpersist⟩
  · -- no request was made
    rw [heq]
    refine ⟨fun request hmem => ?_, List.nil_sublist _, fun token hok => ?_,
      fun request e hsome => ?_⟩
    · cases hmem
    · cases hok
    · cases hsome
  · rw [heq]
    refine ⟨fun r hr => ?_, ?_, fun token hok => ?_, fun r e hsome herror => ?_⟩
    · rw [List.mem_singleton.mp hr]
      exact hallowed
    · -- one request, and its answer is the result
      rw [← hpersist]
      exact List.Sublist.refl _
    · refine ⟨request, List.mem_singleton_self _, ?_⟩
      cases hanswer : io.createSession request with
      | error e =>
          rw [hanswer] at hok
          cases hok
      | ok t =>
          rw [hanswer] at hok
          exact congrArg Prod.snd (Except.ok.inj hok)
    · rw [← Option.some.inj hsome]
      cases hanswer : io.createSession request with
      | error e' =>
          rw [hanswer] at herror
          exact congrArg Except.error (Except.error.inj herror)
      | ok t =>
          rw [hanswer] at herror
          cases herror

section Conclude

variable {f : PortalSessionFactory} {save : SaveCalls}

theorem requests_conclude (requests : List PortalRequest)
    (outcome : Except String (Option String × Bool)) :
    (f.conclude cipher s save requests outcome).requests = requests := by
  rcases outcome with e | ⟨- | token, clipboard⟩ <;> rfl

theorem result_conclude {requests : List PortalRequest}
    {outcome : Except String (Option String × Bool)}
    (h : (f.conclude cipher s save requests outcome).result = .ok true) :
    ∃ token, outcome = .ok (token, true) := by
  rcases outcome with e | ⟨- | token, clipboard⟩
  · cases h
  · rw [Except.ok.inj h]
    exact ⟨_, rfl⟩
  · simp only [conclude] at h
    split at h
    · rw [Except.ok.inj h]
      exact ⟨_, rfl⟩
    · cases h

theorem storedFrom_conclude (h : StoredFrom cipher issued s) (requests : List PortalRequest)
    (outcome : Except String (Option String × Bool)) :
    StoredFrom cipher (issued ++ (f.conclude cipher s save requests outcome).newToken.toList)
      (f.conclude cipher s save requests outcome).storage := by
  rcases outcome with e | ⟨- | token, clipboard⟩
  · exact (List.append_nil issued).symm ▸ h
  · exact (List.append_nil issued).symm ▸ h
  · exact h.of_saveToken token save

end Conclude

/-- A start ends in `conclude`, after one attempt or two. -/
theorem createSession_cases (f : PortalSessionFactory) (first retry : AttemptCalls)
    (save : SaveCalls) (h : StoredFrom cipher issued s) :
    ∃ requests outcome, f.createSession cipher s first retry save =
        f.conclude cipher s save requests outcome ∧
      (∀ request ∈ requests, request.Allowed issued) ∧
      (requests.map (·.persist)).Sublist
        (if f.expectsPersistenceRejection then [false] else [true, false]) ∧
      (∀ token, outcome = .ok (token, true) →
        ∃ request ∈ requests, request.clipboard = true) ∧
      ∀ r₁ r₂, requests = [r₁, r₂] → ∃ e, first.createSession r₁ = .error e ∧
        (SessionCreationFailure.parse e).shouldRetryWithoutPersistence = true := by
  obtain ⟨hallowed, hsub, hclip, hanswer⟩ :=
    attemptSession_request f first (!f.expectsPersistenceRejection) h
  have hsingle : ∀ r₁ r₂, (f.attemptSession cipher s first
      !f.expectsPersistenceRejection).1.toList ≠ [r₁, r₂] := by
    intro r₁ r₂ heq
    have hlength := hsub.length_le
    rw [List.length_map, heq] at hlength
    exact absurd hlength (Nat.not_succ_le_self 1)
  have hone : [!f.expectsPersistenceRejection].Sublist
      (if f.expectsPersistenceRejection then [false] else [true, false]) := by
    cases f.expectsPersistenceRejection <;> decide
  cases hfirst : (f.attemptSession cipher s first !f.expectsPersistenceRejection).2 with
  | ok session =>
      refine ⟨_, .ok session, ?_, hallowed, hsub.trans hone, fun token heq => ?_,
        fun r₁ r₂ htwo => absurd htwo (hsingle r₁ r₂)⟩
      · simp only [createSession, hfirst]
      · exact hclip token (hfirst.trans heq)
  | error e =>
      by_cases hstop : (f.expectsPersistenceRejection ||
          !(SessionCreationFailure.parse e).shouldRetryWithoutPersistence) = true
      · refine ⟨_, .error ("Session creation failed: " ++ e), ?_, hallowed, hsub.trans hone,
          fun token heq => ?_, fun r₁ r₂ htwo => absurd htwo (hsingle r₁ r₂)⟩
        · simp only [createSession, hfirst]
          rw [if_pos hstop]
        · cases heq
      · have hkde : f.expectsPersistenceRejection = false :=
          Bool.eq_false_iff.mpr fun hkde => hstop (by rw [hkde, Bool.true_or])
        obtain ⟨hallowed', hsub', hclip', -⟩ := attemptSession_request f retry false h
        refine ⟨(f.attemptSession cipher s first !f.expectsPersistenceRejection).1.toList ++
            (f.attemptSession cipher s retry false).1.toList,
          (f.attemptSession cipher s retry false).2.mapError
            ("Session creation failed (retry without persistence): " ++ ·), ?_,
          fun request hmem => ?_, ?_, fun token heq => ?_, fun r₁ r₂ htwo => ⟨e, ?_, ?_⟩⟩
        · simp only [createSession, hfirst]
          rw [if_neg hstop]
        · rcases List.mem_append.mp hmem with hmem | hmem
          · exact hallowed request hmem
          · exact hallowed' request hmem
        · rw [hkde] at hsub ⊢
          rw [List.map_append, if_neg Bool.false_ne_true]
          exact hsub.append hsub'
        · have hsecond : (f.attemptSession cipher s retry false).2 = .ok (token, true) := by
            cases hanswer : (f.attemptSession cipher s retry false).2 with
            | error e =>
                rw [hanswer] at heq
                cases heq
            | ok session =>
                rw [hanswer] at heq
                exact heq
          obtain ⟨request, hmem, hclipboard⟩ := hclip' token hsecond
          exact ⟨request, List.mem_append_right _ hmem, hclipboard⟩
        · -- two requests, so the first attempt got as far as the portal
          cases hmade : (f.attemptSession cipher s first !f.expectsPersistenceRejection).1 with
          | none =>
              have hlength := hsub'.length_le
              rw [hmade, Option.toList_none, List.nil_append] at htwo
              rw [List.length_map, htwo] at hlength
              exact absurd hlength (Nat.not_succ_le_self 1)
          | some r =>
              rw [hmade, Option.toList_some, List.singleton_append] at htwo
              rw [← (List.cons.inj htwo).1]
              exact hanswer r e hmade hfirst
        · rw [hkde, Bool.false_or, Bool.not_eq_true] at hstop
          exact Bool.not_eq_eq_eq_not.mp hstop

end PortalSessionFactory

/-- What is stored on a host was given to it. -/
theorem PortalHost.storedFrom (cipher : TokenCipher) (starts : List PortalStart) :
    StoredFrom cipher (starts.foldl (step cipher) new).issued
      (starts.foldl (step cipher) new).storage := by
  induction starts using List.reverseRecOn with
  | nil =>
      intro place token ht
      cases place <;> cases ht
  | append_singleton starts start ih =>
      rw [List.foldl_concat]
      obtain ⟨requests, outcome, heq, -⟩ := PortalSessionFactory.createSession_cases
        ⟨.new start.method start.platform, start.kde, start.clipboardEnabled⟩
        start.first start.retry start.save ih
      simp only [step, PortalHost.start, heq]
      exact PortalSessionFactory.storedFrom_conclude ih requests outcome

/-- **The starts of a host**, after any number of others, whatever the portal and the storage
answered and whichever method each of them stored its token by.  A restore token in a request
is one that the portal gave at an earlier start, and stands only in a request that asks to be
remembered, which comes first, is not repeated, is not made under KDE and has no clipboard; at
most one request without follows, if the portal said no to the first in words that are about
persistence.  So a session has a clipboard manager only if the portal was not asked to remember
it. -/
theorem portal_starts (cipher : TokenCipher) (starts : List PortalStart) (start : PortalStart) :
    let host := starts.foldl (PortalHost.step cipher) .new
    let created := host.start cipher start
    (∀ request ∈ created.requests, request.Allowed host.issued) ∧
    (created.requests.map (·.persist)).Sublist
      (if start.kde then [false] else [true, false]) ∧
    (∀ r₁ r₂, created.requests = [r₁, r₂] → ∃ e, start.first.createSession r₁ = .error e ∧
      (SessionCreationFailure.parse e).shouldRetryWithoutPersistence = true) ∧
    (created.result = .ok true →
      ∃ request ∈ created.requests, request.clipboard = true ∧ request.persist = false) := by
  intro host created
  -- at most two requests are made, as `createSession_cases` has them
  obtain ⟨requests, outcome, heq, hallowed, hsub, hclip, htwo⟩ :=
    PortalSessionFactory.createSession_cases
      ⟨.new start.method start.platform, start.kde, start.clipboardEnabled⟩
      start.first start.retry start.save (PortalHost.storedFrom cipher starts)
  have hcreated : created = PortalSessionFactory.conclude _ _ _ _ requests outcome := heq
  have hrequests : created.requests = requests := by
    rw [hcreated, PortalSessionFactory.requests_conclude]
  rw [hrequests]
  refine ⟨hallowed, hsub, htwo, fun hok => ?_⟩
  obtain ⟨token, htoken⟩ := PortalSessionFactory.result_conclude
    ((congrArg SessionCreation.result hcreated).symm.trans hok)
  obtain ⟨request, hmem, hclipboard⟩ := hclip token htoken
  refine ⟨request, hmem, hclipboard, ?_⟩
  -- a persistent request has no clipboard
  cases hpersist : request.persist with
  | false => rfl
  | true => exact absurd ((hallowed request hmem).clipboard hpersist) (by rw [hclipboard]; decide)

/-- A portal that does not remember sessions. -/
def AttemptCalls.notRemembering : AttemptCalls where
  load := ⟨⟨false, none, false, false, false⟩, none, false⟩
  loadCause := ""
  managerError := none
  clipboardManager := true
  createSession request := if request.persist then .error "cannot persist" else .ok none

/-- It is asked twice, the second time with a clipboard. -/
example : (PortalHost.new.start twoTokenCipher ⟨.gnomeKeyring, .bare, false, true,
    .notRemembering, .notRemembering, .ok "login" true⟩).requests =
      [⟨none, true, false⟩, ⟨none, false, true⟩] := by
  decide +kernel

end LamcoRdp
