/-
LamcoRdp/Session/TokenStore.lean

Which token a process gets back.

A storage method has up to two places (`CredentialStorageMethod.places`): a backend and
the encrypted file.  A process stores in one of them (`Tokens.target`); the three
operations are described by that place, whatever the storage method.  A run is a list of
operations and restarts.  Beside the storage a run has the token that a load may give
(`TokenRun.last`): that of the last save that succeeded, none after a delete that
succeeded.

A load is never stale, now or in a process started later, exactly if no place of the
method holds a token other than `last` (`neverStale_iff`).  A save leaves the other place
as it is, and in the Secret Service also the items of the other collections; a delete
leaves a backend that the process has no client for.  So an operation keeps loads from
being stale exactly under the condition `Careful`: what it leaves behind is not another
token.
-/
import LamcoRdp.Lib.Runs
import LamcoRdp.Session.TokenManager

namespace LamcoRdp

open Runs

/-! ### Loads -/

/-- What a load makes of a lookup: the secret that was found, `missing` if there is none,
the file if a call fails. -/
def lookupThenFile (answer : Except LookupError String)
    (missing file : Except String (Option String)) : Except String (Option String) :=
  match answer with
  | .ok token => .ok (some token)
  | .error (.notFound _) => missing
  | .error _ => file

section Lookup

variable {cipher : TokenCipher} {s : TokenStorage}

/-- What becomes of the error of a lookup depends on whether it is that of a missing
secret. -/
theorem lookupThenFile_error (e : LookupError) (missing file : Except String (Option String)) :
    lookupThenFile (.error e) missing file =
      if isNotFoundError e.message then missing else file := by
  cases e with
  | notFound key => rw [isNotFoundError_notFound, if_pos rfl, lookupThenFile]
  | _ =>
      rw [isNotFoundError_message fun _ heq => LookupError.noConfusion heq,
        if_neg Bool.false_ne_true, lookupThenFile]
      exact fun _ heq => LookupError.noConfusion heq

/-- The keyrings: a missing secret ends the load, a failed call leads to the file. -/
theorem loadToken_keyring {method : CredentialStorageMethod}
    (hmethod : method = .gnomeKeyring ∨ method = .kWallet ∨ method = .keePassXC)
    (manager : Option FlatpakSecretStrategy) (tpm : Bool) (sessionId : String) (io : LoadCalls) :
    (⟨method, true, manager, tpm⟩ : Tokens).loadToken cipher sessionId s io =
      lookupThenFile (lookupSecret ("lamco-rdp-session-" ++ sessionId) s.items io.lookup)
        (.ok none) (loadTokenFromFile cipher s io) := by
  -- the three methods take one branch
  suffices hwallet : (⟨.gnomeKeyring, true, manager, tpm⟩ : Tokens).loadToken cipher sessionId s io =
      lookupThenFile (lookupSecret ("lamco-rdp-session-" ++ sessionId) s.items io.lookup)
        (.ok none) (loadTokenFromFile cipher s io) by
    rcases hmethod with rfl | rfl | rfl <;> exact hwallet
  simp only [Tokens.loadToken, if_true]
  rcases lookupSecret ("lamco-rdp-session-" ++ sessionId) s.items io.lookup with e | token
  · exact (lookupThenFile_error e _ _).symm
  · rfl

/-- The Flatpak manager: a missing secret leads to the file, too. -/
theorem loadToken_flatpak (client tpm : Bool) (sessionId : String) (io : LoadCalls) :
    (⟨.flatpakSecretPortal, client, some .secretService, tpm⟩ : Tokens).loadToken cipher sessionId
        s io =
      lookupThenFile (lookupSecret ("lamco-rdp-session-" ++ sessionId) s.items io.lookup)
        (loadTokenFromFile cipher s io) (loadTokenFromFile cipher s io) := by
  simp only [Tokens.loadToken, FlatpakSecretStrategy.retrieveSecret]
  rcases lookupSecret ("lamco-rdp-session-" ++ sessionId) s.items io.lookup with e | token
  · rw [lookupThenFile_error, ite_self]
    by_cases hmissing : isNotFoundError e.message = true
    · simp only [if_pos hmissing]
    · simp only [if_neg hmissing]
  · rfl

/-- The TPM store: a missing credential is meant to end the load, but the context that
is added to every error hides it, and it leads to the file. -/
theorem loadToken_tpm (client : Bool) (manager : Option FlatpakSecretStrategy)
    (sessionId : String) (io : LoadCalls) :
    (⟨.tpm2, client, manager, true⟩ : Tokens).loadToken cipher sessionId s io =
      match io.tpm, s.tpm with
      | none, some token => .ok (some token)
      | _, _ => loadTokenFromFile cipher s io := by
  have hspawn : isNotFoundError "Failed to spawn blocking task" = false := by decide
  have hcontext : isNotFoundError "Failed to load TPM credential" = false := by decide
  simp only [Tokens.loadToken, if_true]
  rcases io.tpm with - | - | -
  · rcases s.tpm with - | token
    · simp only [tpmLoad, hcontext]
      rfl
    · rfl
  · simp only [tpmLoad, hspawn]
    rfl
  · simp only [tpmLoad, hcontext]
    rfl

end Lookup

/-! ### Where a process keeps tokens -/

/-- The places a token can be kept in. -/
inductive TokenPlace
  | secretService
  | tpm
  | file
  | nowhere
  deriving DecidableEq

/-- The token in the encrypted file, if it can be read. -/
def fileToken (cipher : TokenCipher) (s : TokenStorage) : Option String :=
  s.file.bind fun encrypted => (decryptToken cipher encrypted).toOption

/-- The tokens in a place. -/
def TokenStorage.tokensIn (s : TokenStorage) (cipher : TokenCipher) : TokenPlace → List String
  | .secretService => s.items.map SecretItem.secret
  | .tpm => s.tpm.toList
  | .file => (fileToken cipher s).toList
  | .nowhere => []

/-- The place a process stores tokens in. -/
def Tokens.target (tokens : Tokens) : TokenPlace :=
  match tokens.storageMethod with
  | .gnomeKeyring | .kWallet | .keePassXC => if tokens.secretService then .secretService else .file
  | .flatpakSecretPortal =>
      if tokens.flatpakManager = some .secretService then .secretService else .file
  | .tpm2 => if tokens.tpmStore then .tpm else .file
  | .encryptedFile => .file
  | .none => .nowhere

/-- The places a method may use. -/
def CredentialStorageMethod.places : CredentialStorageMethod → List TokenPlace
  | .gnomeKeyring | .kWallet | .keePassXC | .flatpakSecretPortal => [.secretService, .file]
  | .tpm2 => [.tpm, .file]
  | .encryptedFile => [.file]
  | .none => []

/-- A process with no client keeps tokens in the file. -/
def StoragePlatform.bare : StoragePlatform := ⟨false, false, false, false⟩

/-- A process with every client but the secret portal. -/
def StoragePlatform.full : StoragePlatform := ⟨true, false, true, true⟩

section Places

variable {tokens : Tokens} {cipher : TokenCipher} {s : TokenStorage}

/-- A process stores in a place of its method. -/
theorem target_mem_places (tokens : Tokens) (h : tokens.storageMethod ≠ .none) :
    tokens.target ∈ tokens.storageMethod.places := by
  obtain ⟨method, client, manager, tpm⟩ := tokens
  cases method
  case none => exact absurd rfl h
  case encryptedFile => exact List.mem_cons_self
  case gnomeKeyring | kWallet | keePassXC =>
    cases client <;> simp [Tokens.target, CredentialStorageMethod.places]
  case flatpakSecretPortal =>
    rcases manager with - | - | - | - <;> simp [Tokens.target, CredentialStorageMethod.places]
  case tpm2 => cases tpm <;> simp [Tokens.target, CredentialStorageMethod.places]

/-- Beside the file a method has at most the place of a client. -/
theorem place_eq_target (tokens : Tokens) {place : TokenPlace}
    (hplace : place ∈ tokens.storageMethod.places) (hfile : place ≠ .file) (htarget : tokens.target ≠ .file) : place = tokens.target := by
  obtain ⟨method, client, manager, tpm⟩ := tokens
  cases method
  case none => cases hplace
  case encryptedFile => exact absurd (List.mem_singleton.mp hplace) hfile
  case gnomeKeyring | kWallet | keePassXC =>
    cases client
    · exact absurd rfl htarget
    · exact (List.mem_cons.mp hplace).resolve_right fun h => hfile (List.mem_singleton.mp h)
  case flatpakSecretPortal =>
    rcases manager with - | - | - | -
    · exact absurd rfl htarget
    · exact absurd rfl htarget
    · exact (List.mem_cons.mp hplace).resolve_right fun h => hfile (List.mem_singleton.mp h)
    · exact absurd rfl htarget
  case tpm2 =>
    cases tpm
    · exact absurd rfl htarget
    · exact (List.mem_cons.mp hplace).resolve_right fun h => hfile (List.mem_singleton.mp h)

theorem decryptToken_encryptToken {nonce : Nonce} {token : String} {data : List UInt8}
    (h : encryptToken cipher nonce token = .ok data) : decryptToken cipher data = .ok token := by
  unfold encryptToken at h
  rcases hc : cipher.encrypt nonce.val token with e | ciphertext
  · rw [hc] at h
    cases h
  · rw [hc] at h
    cases h
    have hlen : ¬ (nonce.val ++ ciphertext).length < 12 := by
      rw [List.length_append, nonce.property]
      omega
    have htake : (nonce.val ++ ciphertext).take 12 = nonce.val :=
      List.take_left' nonce.property
    have hdrop : (nonce.val ++ ciphertext).drop 12 = ciphertext :=
      List.drop_left' nonce.property
    rw [decryptToken, if_neg hlen, htake, hdrop, cipher.decrypt_encrypt hc]

theorem loadTokenFromFile_ok {s : TokenStorage} {io : LoadCalls} {token : String}
    (h : loadTokenFromFile cipher s io = .ok (some token)) : fileToken cipher s = some token := by
  unfold loadTokenFromFile at h
  unfold fileToken
  rcases hf : s.file with - | data
  · rw [hf] at h
    cases h
  · rw [hf] at h
    simp only at h
    split at h
    · cases h
    · rcases hd : decryptToken cipher data with e | t
      · rw [hd] at h
        cases h
      · rw [hd] at h
        cases h
        simp only [Option.bind_some, hd, Except.toOption]

theorem loadTokenFromFile_of_fileToken {s : TokenStorage} {io : LoadCalls} {token : String}
    (h : fileToken cipher s = some token) (hread : io.readFails = false) :
    loadTokenFromFile cipher s io = .ok (some token) := by
  obtain ⟨data, hf, hd⟩ := Option.bind_eq_some_iff.mp h
  rcases hdec : decryptToken cipher data with e | t
  · rw [hdec] at hd
    cases hd
  · rw [hdec] at hd
    cases hd
    simp only [loadTokenFromFile, hf, hread, hdec]
    rfl

/-- The token of the file is the one a load from it gives. -/
theorem mem_tokensIn_file {token : String} :
    token ∈ s.tokensIn cipher .file ↔ fileToken cipher s = some token :=
  Option.mem_toList

theorem tokensIn_file_none (hf : s.file = none) : s.tokensIn cipher .file = [] := by
  show (fileToken cipher s).toList = []
  rw [fileToken, hf]
  rfl

theorem file_mem_places {method : CredentialStorageMethod} (h : method ≠ .none) :
    .file ∈ method.places := by
  cases method
  case none => exact absurd rfl h
  all_goals decide

/-- **A load gives a token of a place of the method.** -/
theorem loadToken_mem {sessionId token : String} {io : LoadCalls}
    (h : tokens.loadToken cipher sessionId s io = .ok (some token)) :
    ∃ place ∈ tokens.storageMethod.places, token ∈ s.tokensIn cipher place := by
  have hne : tokens.storageMethod ≠ .none := by
    intro heq
    rw [Tokens.loadToken, heq] at h
    cases h
  -- the file is a fallback of every method but `none`
  have hfile : loadTokenFromFile cipher s io = .ok (some token) →
      ∃ place ∈ tokens.storageMethod.places, token ∈ s.tokensIn cipher place :=
    fun hload => ⟨.file, file_mem_places hne, mem_tokensIn_file.mpr (loadTokenFromFile_ok hload)⟩
  have hlookup : .secretService ∈ tokens.storageMethod.places → ∀ {missing},
      (missing = .ok none ∨ missing = loadTokenFromFile cipher s io) →
      lookupThenFile (lookupSecret ("lamco-rdp-session-" ++ sessionId) s.items io.lookup) missing
        (loadTokenFromFile cipher s io) = .ok (some token) →
      ∃ place ∈ tokens.storageMethod.places, token ∈ s.tokensIn cipher place := by
    intro hplace missing hmissing hload
    -- the secret service has the token, or answers that it has none, or fails
    rcases lookupSecret_cases ("lamco-rdp-session-" ++ sessionId) s.items io.lookup with
      ⟨item, hitem, hok⟩ | ⟨-, hnone⟩ | ⟨e, he, herror⟩
    · rw [hok] at hload
      refine ⟨.secretService, hplace, ?_⟩
      rw [← Option.some.inj (Except.ok.inj hload)]
      exact List.mem_map_of_mem hitem
    · rw [hnone] at hload
      rcases hmissing with rfl | rfl
      · cases hload
      · exact hfile hload
    · rw [herror, lookupThenFile_error, isNotFoundError_message he, if_neg Bool.false_ne_true]
        at hload
      exact hfile hload
  obtain ⟨method, client, manager, tpm⟩ := tokens
  cases method
  case none => exact absurd rfl hne
  case encryptedFile => exact hfile h
  case gnomeKeyring | kWallet | keePassXC =>
    cases client
    · exact hfile h
    · rw [loadToken_keyring (by decide)] at h
      exact hlookup List.mem_cons_self (Or.inl rfl) h
  -- only the manager that speaks to the secret service looks anything up
  case flatpakSecretPortal =>
    rcases manager with - | - | - | -
    · exact hfile h
    · exact hfile h
    · rw [loadToken_flatpak] at h
      exact hlookup List.mem_cons_self (Or.inr rfl) h
    · exact hfile h
  case tpm2 =>
    cases tpm
    · exact hfile h
    · -- the TPM has the token, or the file is read
      rw [loadToken_tpm] at h
      split at h
      · next hstored =>
          refine ⟨.tpm, List.mem_cons_self, ?_⟩
          rw [← Option.some.inj (Except.ok.inj h)]
          exact Option.mem_toList.mpr hstored
      · exact hfile h

/-- **A token in a place of the method can be what a load gives**, in a process that finds
the clients for the place, or that finds none. -/
theorem exists_loadToken {method : CredentialStorageMethod} {place : TokenPlace} {token : String}
    (hplace : place ∈ method.places) (htoken : token ∈ s.tokensIn cipher place)
    (sessionId : String) :
    ∃ p io, (Tokens.new method p).loadToken cipher sessionId s io = .ok (some token) := by
  have hfile : token ∈ s.tokensIn cipher .file → ∀ lookup,
      loadTokenFromFile cipher s ⟨lookup, none, false⟩ = .ok (some token) :=
    fun h lookup => loadTokenFromFile_of_fileToken (mem_tokensIn_file.mp h) rfl
  have hfind : token ∈ s.tokensIn cipher .secretService → ∀ key, ∃ lookup,
      lookupSecret key s.items lookup = .ok token := by
    intro h key
    obtain ⟨item, hitem, rfl⟩ := List.mem_map.mp h
    exact ⟨_, lookupSecret_finding hitem key⟩
  have hempty : LookupCalls := ⟨false, none, false, false, false⟩
  -- for each place there are answers with which the token is found there
  cases place with
  | nowhere => cases htoken
  | file =>
      -- without a client only the file is read
      refine ⟨.bare, ⟨hempty, none, false⟩, ?_⟩
      rw [← hfile htoken hempty]
      cases method
      case none => cases hplace
      all_goals rfl
  | tpm =>
      have hmethod : method = .tpm2 := by
        cases method
        case tpm2 => rfl
        all_goals exact absurd hplace (by decide)
      subst hmethod
      refine ⟨.full, ⟨hempty, none, false⟩, ?_⟩
      show (⟨.tpm2, _, _, true⟩ : Tokens).loadToken cipher sessionId s _ = _
      rw [loadToken_tpm, show s.tpm = some token from Option.mem_toList.mp htoken]
  -- the collection that holds the token answers
  | secretService =>
      obtain ⟨lookup, hlookup⟩ := hfind htoken ("lamco-rdp-session-" ++ sessionId)
      refine ⟨.full, ⟨lookup, none, false⟩, ?_⟩
      cases method
      case none | tpm2 | encryptedFile => exact absurd hplace (by decide)
      case gnomeKeyring | kWallet | keePassXC =>
        show (⟨_, true, _, _⟩ : Tokens).loadToken cipher sessionId s _ = _
        rw [loadToken_keyring (by decide), hlookup]
        rfl
      case flatpakSecretPortal =>
        show (⟨_, _, some .secretService, _⟩ : Tokens).loadToken cipher sessionId s _ = _
        rw [loadToken_flatpak, hlookup]
        rfl

end Places

/-! ### Saves -/

/-- The tokens that a save leaves in the place it stores in, `none` if it stores
nothing. -/
def SaveCalls.leaves (io : SaveCalls) (cipher : TokenCipher) (s : TokenStorage) (token : String) :
    TokenPlace → Option (List String)
  | .secretService => (io.secretService.leaves s.items).map fun left => left.map SecretItem.secret
  | .tpm => if io.tpmFails then none else some []
  | .file =>
      match encryptToken cipher io.nonce token with
      | .error _ => none
      | .ok _ => if io.writeFails then none else some []
  | .nowhere => none

/-- A call after the one that stores the token fails. -/
def SaveCalls.failsAfter (io : SaveCalls) : TokenPlace → Bool
  | .file => io.permissionsFail || io.metadataFails
  | .secretService | .tpm | .nowhere => io.metadataFails

/-- The token has been stored in the place beside those left there; the other places are
as before. -/
structure Stored (cipher : TokenCipher) (place : TokenPlace) (left : List String)
    (token : String) (s s' : TokenStorage) : Prop where
  mem_iff : ∀ t, t ∈ s'.tokensIn cipher place ↔ t ∈ left ∨ t = token
  left_mem : ∀ t ∈ left, t ∈ s.tokensIn cipher place
  other : ∀ q, q ≠ place → s'.tokensIn cipher q = s.tokensIn cipher q

/-- A save stores nothing and fails, or stores the token and succeeds unless a later call
fails. -/
def SaveCalls.Effect (io : SaveCalls) (cipher : TokenCipher) (s : TokenStorage) (token : String)
    (place : TokenPlace) (failed : Bool) (r : TokenStorage × Except String Unit) : Prop :=
  io.leaves cipher s token place = none ∧ (∃ e, r = (s, .error e)) ∨
    ∃ left, io.leaves cipher s token place = some left ∧ Stored cipher place left token s r.1 ∧
      if failed then ∃ e, r.2 = .error e else r.2 = .ok ()

section Saves

variable {tokens : Tokens} {cipher : TokenCipher} {s : TokenStorage} {token : String}
  {io : SaveCalls}

/-- A store in the Secret Service, on the tokens of that place. -/
theorem storeSecret_stored (cipher : TokenCipher) (s : TokenStorage) (token : String)
    (io : SaveCalls) :
    (∃ e, storeSecret s.items token io.secretService = .error e) ∧
        io.leaves cipher s token .secretService = none ∨
      ∃ items left, storeSecret s.items token io.secretService = .ok items ∧
        io.leaves cipher s token .secretService = some left ∧
        Stored cipher .secretService left token s { s with items := items } := by
  rcases storeSecret_cases s.items token io.secretService with
    ⟨hleaves, herror⟩ | ⟨left, collection, hleaves, hmem, hok⟩
  · exact Or.inl ⟨herror, by rw [SaveCalls.leaves, hleaves]; rfl⟩
  · refine Or.inr ⟨_, left.map SecretItem.secret, hok, by rw [SaveCalls.leaves, hleaves]; rfl, ?_⟩
    constructor
    · intro t
      show t ∈ (left ++ [SecretItem.mk collection token]).map SecretItem.secret ↔ _
      rw [List.map_append, List.mem_append, List.map_singleton, List.mem_singleton]
    · intro t ht
      obtain ⟨item, hitem, rfl⟩ := List.mem_map.mp ht
      exact List.mem_map_of_mem (hmem item hitem)
    · intro q hq
      cases q with
      | secretService => exact absurd rfl hq
      | _ => rfl

theorem effect_saveTokenToFile :
    io.Effect cipher s token .file io.permissionsFail (saveTokenToFile cipher s token io) := by
  unfold SaveCalls.Effect SaveCalls.leaves saveTokenToFile
  -- the token is encrypted, then written, then the permissions are set
  rcases hdata : encryptToken cipher io.nonce token with e | data
  · exact Or.inl ⟨rfl, e, rfl⟩
  have hstored : Stored cipher .file [] token s { s with file := some data } := by
    -- only the token that was written can be read
    refine ⟨fun t => ?_, fun t ht => absurd ht List.not_mem_nil, fun q hq => ?_⟩
    · rw [mem_tokensIn_file]
      show (decryptToken cipher data).toOption = some t ↔ _
      rw [decryptToken_encryptToken hdata]
      constructor
      · exact fun h => Or.inr (Option.some.inj h).symm
      · rintro (h | rfl)
        · cases h
        · rfl
    · cases q with
      | file => exact absurd rfl hq
      | _ => rfl
  dsimp only
  cases io.writeFails with
  | true => exact Or.inl ⟨rfl, _, rfl⟩
  | false =>
      refine Or.inr ⟨[], rfl, hstored, ?_⟩
      cases io.permissionsFail
      · rfl
      · exact ⟨_, rfl⟩

/-- The metadata hold no token. -/
theorem effect_saveTokenMetadata {place : TokenPlace} {failed : Bool}
    {r : TokenStorage × Except String Unit} (h : io.Effect cipher s token place failed r) :
    io.Effect cipher s token place (failed || io.metadataFails) (saveTokenMetadata r io) := by
  obtain ⟨s', result⟩ := r
  rcases h with ⟨hleaves, e, heq⟩ | ⟨left, hleaves, hstored, hresult⟩
  · refine Or.inl ⟨hleaves, e, ?_⟩
    rw [heq]
    rfl
  · refine Or.inr ⟨left, hleaves, ?_⟩
    cases failed with
    | true =>
        obtain ⟨e, rfl⟩ := hresult
        exact ⟨hstored, e, rfl⟩
    | false =>
        obtain rfl : result = .ok () := hresult
        rw [saveTokenMetadata]
        cases io.metadataFails with
        | true => exact ⟨hstored, _, rfl⟩
        | false =>
            -- the metadata hold no token
            have hsame : ∀ q, TokenStorage.tokensIn { s' with metadata := true } cipher q
                = s'.tokensIn cipher q := by
              intro q
              cases q <;> rfl
            refine ⟨⟨fun t => ?_, hstored.left_mem, fun q hq => ?_⟩, rfl⟩
            · rw [if_neg Bool.false_ne_true, hsame]
              exact hstored.mem_iff t
            · rw [if_neg Bool.false_ne_true, hsame]
              exact hstored.other q hq

/-- The store call of the Secret Service client. -/
theorem effect_storeInSecretService :
    io.Effect cipher s token .secretService false (storeInSecretService s token io) := by
  rw [SaveCalls.Effect, storeInSecretService]
  rcases storeSecret_stored cipher s token io with
    ⟨⟨e, herror⟩, hleaves⟩ | ⟨items, left, hok, hleaves, hstored⟩
  · rw [herror]
    exact Or.inl ⟨hleaves, _, rfl⟩
  · rw [hok]
    exact Or.inr ⟨left, hleaves, hstored, rfl⟩

/-- The store call of the TPM client. -/
theorem effect_storeInTpm : io.Effect cipher s token .tpm false (storeInTpm s token io) := by
  rw [SaveCalls.Effect, storeInTpm, SaveCalls.leaves]
  cases io.tpmFails with
  | true => exact Or.inl ⟨rfl, _, rfl⟩
  | false =>
      refine Or.inr ⟨[], rfl, ⟨fun t => ?_, fun t ht => absurd ht List.not_mem_nil,
        fun q hq => ?_⟩, rfl⟩
      · show t ∈ [token] ↔ _
        rw [List.mem_singleton]
        exact ⟨Or.inr, fun h => h.resolve_left List.not_mem_nil⟩
      · cases q with
        | tpm => exact absurd rfl hq
        | _ => rfl

/-- **What a save does**, by the place the process stores in. -/
theorem effect_saveToken (tokens : Tokens) (cipher : TokenCipher) (s : TokenStorage)
    (token : String) (io : SaveCalls) :
    io.Effect cipher s token tokens.target (io.failsAfter tokens.target)
      (tokens.saveToken cipher s token io) := by
  have hfile : io.Effect cipher s token .file (io.failsAfter .file)
      (saveTokenMetadata (saveTokenToFile cipher s token io) io) :=
    effect_saveTokenMetadata effect_saveTokenToFile
  obtain ⟨method, client, manager, tpm⟩ := tokens
  cases method
  case none => exact Or.inl ⟨rfl, _, rfl⟩
  case encryptedFile => exact hfile
  case gnomeKeyring | kWallet | keePassXC =>
    cases client
    · exact hfile
    · exact effect_saveTokenMetadata effect_storeInSecretService
  case flatpakSecretPortal =>
    rcases manager with - | - | - | -
    · exact hfile
    · exact hfile
    · -- the manager stores in the Secret Service, with a message of its own
      show io.Effect cipher s token .secretService io.metadataFails _
      simp only [Tokens.saveToken, FlatpakSecretStrategy.storeSecret]
      rcases storeSecret_stored cipher s token io with
        ⟨⟨e, herror⟩, hleaves⟩ | ⟨items, left, hok, hleaves, hstored⟩
      · rw [herror]
        exact Or.inl ⟨hleaves, _, rfl⟩
      · rw [hok]
        have hstore : io.Effect cipher s token .secretService false
            ({ s with items := items }, .ok ()) := Or.inr ⟨left, hleaves, hstored, rfl⟩
        exact effect_saveTokenMetadata hstore
    · exact hfile
  case tpm2 =>
    cases tpm
    · exact hfile
    · exact effect_saveTokenMetadata effect_storeInTpm

end Saves

/-! ### Deletes -/

/-- A step of `delete_token_file` fails. -/
def removalFails (s : TokenStorage) (io : DeleteCalls) : Bool :=
  s.file.isSome && io.removeTokenFails || s.metadata && io.removeMetadataFails

/-- The place and the file hold no token; the other places are as before. -/
structure Deleted (cipher : TokenCipher) (place : TokenPlace) (s s' : TokenStorage) : Prop where
  target : s'.tokensIn cipher place = []
  file : s'.tokensIn cipher .file = []
  other : ∀ q : TokenPlace, q ≠ place → q ≠ .file → s'.tokensIn cipher q = s.tokensIn cipher q

/-- A delete fails and adds no token, or empties its place and the file; with the file as
its place it fails if a removal does. -/
def DeleteCalls.Effect (io : DeleteCalls) (cipher : TokenCipher) (s : TokenStorage)
    (place : TokenPlace) (r : TokenStorage × Except String Unit) : Prop :=
  (∃ e, r.2 = .error e) ∧ (place = .file → removalFails s io = true) ∧
      (∀ q, ∀ t ∈ r.1.tokensIn cipher q, t ∈ s.tokensIn cipher q) ∨
    r.2 = .ok () ∧ (place = .file → removalFails s io = false) ∧ Deleted cipher place s r.1

section Deletes

variable (cipher : TokenCipher) (s : TokenStorage) (io : DeleteCalls)

/-- The files are removed, or a step fails and no token is added. -/
theorem effect_deleteTokenFile : io.Effect cipher s .file (deleteTokenFile s io) := by
  unfold DeleteCalls.Effect deleteTokenFile removalFails
  cases s.file.isSome && io.removeTokenFails with
  | true => exact Or.inl ⟨⟨_, rfl⟩, fun _ => rfl, fun q t ht => ht⟩
  | false =>
      rw [if_neg Bool.false_ne_true, Bool.false_or]
      cases s.metadata && io.removeMetadataFails with
      | true =>
          refine Or.inl ⟨⟨_, rfl⟩, fun _ => rfl, fun q t ht => ?_⟩
          -- the token file is gone, nothing else
          cases q with
          | file =>
              rw [if_pos rfl, tokensIn_file_none rfl] at ht
              cases ht
          | _ => exact ht
      | false =>
          refine Or.inr ⟨rfl, fun _ => rfl, tokensIn_file_none rfl, tokensIn_file_none rfl,
            fun q hq _ => ?_⟩
          cases q with
          | file => exact absurd rfl hq
          | _ => rfl

/-- The files are removed after a client has emptied its place. -/
theorem effect_deleteTokenFile_after {place : TokenPlace} {s₁ : TokenStorage}
    (hne : place ≠ .file) (hempty : s₁.tokensIn cipher place = [])
    (hsame : ∀ q, q ≠ place → s₁.tokensIn cipher q = s.tokensIn cipher q) :
    io.Effect cipher s place (deleteTokenFile s₁ io) := by
  have hsub : ∀ q, ∀ t ∈ s₁.tokensIn cipher q, t ∈ s.tokensIn cipher q := by
    intro q t ht
    by_cases hq : q = place
    · rw [hq, hempty] at ht
      cases ht
    · exact hsame q hq ▸ ht
  rcases effect_deleteTokenFile cipher s₁ io with
    ⟨herror, -, hsub'⟩ | ⟨hok, -, hdel⟩
  · exact Or.inl ⟨herror, fun h => absurd h hne, fun q t ht => hsub q t (hsub' q t ht)⟩
  · refine Or.inr ⟨hok, fun h => absurd h hne, ?_, hdel.file, fun q hq hqf => ?_⟩
    · rw [hdel.other place hne hne, hempty]
    · rw [hdel.other q hqf hqf, hsame q hq]

/-- The items of the Secret Service are deleted, and the files after them. -/
theorem effect_deleteFromSecretService :
    io.Effect cipher s .secretService (deleteFromSecretService s io) := by
  obtain ⟨hsub, hnil⟩ := deleteSecret_spec s.items io.secretService
  unfold deleteFromSecretService
  generalize deleteSecret s.items io.secretService = result at hsub hnil ⊢
  rcases result with ⟨items, e | u⟩
  · refine Or.inl ⟨⟨_, rfl⟩, fun h => TokenPlace.noConfusion h, fun q t ht => ?_⟩
    cases q with
    | secretService =>
        obtain ⟨item, hitem, rfl⟩ := List.mem_map.mp ht
        exact List.mem_map_of_mem (hsub item hitem)
    | _ => exact ht
  · obtain rfl : items = [] := hnil rfl
    refine effect_deleteTokenFile_after cipher s io (by decide) rfl fun q hq => ?_
    cases q with
    | secretService => exact absurd rfl hq
    | _ => rfl

theorem effect_deleteFromTpm : io.Effect cipher s .tpm (deleteFromTpm s io) := by
  unfold deleteFromTpm
  cases io.tpmFails with
  | true => exact Or.inl ⟨⟨_, rfl⟩, fun h => TokenPlace.noConfusion h, fun q t ht => ht⟩
  | false =>
      refine effect_deleteTokenFile_after cipher s io (by decide) rfl fun q hq => ?_
      cases q with
      | tpm => exact absurd rfl hq
      | _ => rfl

/-- **What a delete does**, by the place the process stores in. -/
theorem effect_deleteToken {tokens : Tokens} (hne : tokens.storageMethod ≠ .none) :
    io.Effect cipher s tokens.target (tokens.deleteToken s io) := by
  obtain ⟨method, client, manager, tpm⟩ := tokens
  cases method
  case none => exact absurd rfl hne
  case encryptedFile => exact effect_deleteTokenFile cipher s io
  case gnomeKeyring | kWallet | keePassXC =>
    cases client
    · exact effect_deleteTokenFile cipher s io
    · exact effect_deleteFromSecretService cipher s io
  case flatpakSecretPortal =>
    rcases manager with - | - | - | -
    · exact effect_deleteTokenFile cipher s io
    · exact effect_deleteTokenFile cipher s io
    · -- the manager's delete differs from the client's in the text of the error only
      have heffect := effect_deleteFromSecretService cipher s io
      rw [deleteFromSecretService] at heffect
      show io.Effect cipher s .secretService _
      simp only [Tokens.deleteToken, FlatpakSecretStrategy.deleteSecret]
      generalize deleteSecret s.items io.secretService = result at heffect ⊢
      rcases result with ⟨items, e | u⟩
      · rcases heffect with ⟨-, hfile, hsub⟩ | ⟨hok, -⟩
        · exact Or.inl ⟨⟨_, rfl⟩, hfile, hsub⟩
        · cases hok
      · exact heffect
    · exact effect_deleteTokenFile cipher s io
  case tpm2 =>
    cases tpm
    · exact effect_deleteTokenFile cipher s io
    · exact effect_deleteFromTpm cipher s io

end Deletes

/-! ### Runs -/

/-- What happens to the tokens of the session: the process is restarted, or it
saves, loads or deletes. -/
inductive TokenEvent
  | restart (p : StoragePlatform)
  | save (token : String) (io : SaveCalls)
  | load (io : LoadCalls)
  | delete (io : DeleteCalls)

/-- The process that runs (by what it found when it started), what is stored, and
the token that a load may give. -/
structure TokenRun where
  platform : StoragePlatform
  storage : TokenStorage
  last : Option String

/-- The token manager of the process. -/
def TokenRun.tokens (r : TokenRun) (method : CredentialStorageMethod) : Tokens :=
  Tokens.new method r.platform

/-- The state after an operation: one that succeeds decides which token is the
last. -/
def TokenRun.conclude (r : TokenRun) (result : TokenStorage × Except String Unit)
    (last : Option String) : TokenRun :=
  { r with
    storage := result.1
    last := match result.2 with
      | .ok () => last
      | .error _ => r.last }

/-- One event. -/
def TokenRun.step (cipher : TokenCipher) (method : CredentialStorageMethod) (r : TokenRun) :
    TokenEvent → TokenRun
  | .restart p => { r with platform := p }
  | .save token io =>
      r.conclude ((r.tokens method).saveToken cipher r.storage token io) (some token)
  | .load _ => r
  | .delete io => r.conclude ((r.tokens method).deleteToken r.storage io) none

/-- The first process, with nothing stored. -/
def TokenRun.start (p : StoragePlatform) : TokenRun := ⟨p, .empty, none⟩

/-- No load gives a token but the last: neither in this process nor in one started
later, whatever that finds and whichever calls fail. -/
def NeverStale (cipher : TokenCipher) (method : CredentialStorageMethod) (r : TokenRun) : Prop :=
  ∀ sessionId p io token,
    (Tokens.new method p).loadToken cipher sessionId r.storage io = .ok (some token) →
      r.last = some token

/-- The tokens are none but `last`. -/
def Current (last : Option String) (tokens : List String) : Prop := ∀ token ∈ tokens, last = some token

/-- What an operation must not leave behind.  A save that succeeds leaves no other token,
neither beside its own (in another collection) nor in the other place of the method; one
that fails after it has stored the token must have stored the current one.  A delete that
succeeds leaves no token in a backend that the process has no client for. -/
def Careful (cipher : TokenCipher) (method : CredentialStorageMethod) (r : TokenRun) :
    TokenEvent → Prop
  | .restart _ => True
  | .load _ => True
  | .save token io =>
      ∀ left, io.leaves cipher r.storage token (r.tokens method).target = some left →
        if io.failsAfter (r.tokens method).target then r.last = some token
        else
          Current (some token) left ∧ ∀ place ∈ method.places, place ≠ (r.tokens method).target →
            Current (some token) (r.storage.tokensIn cipher place)
  | .delete io =>
      removalFails r.storage io = false → ∀ place ∈ method.places,
        place ≠ (r.tokens method).target → place ≠ .file → r.storage.tokensIn cipher place = []

section Runs

variable {cipher : TokenCipher} {method : CredentialStorageMethod} {r : TokenRun}

/-- No load is stale exactly if every place of the method is current. -/
theorem neverStale_iff : NeverStale cipher method r ↔
    ∀ place ∈ method.places, Current r.last (r.storage.tokensIn cipher place) := by
  constructor
  · intro h place hplace token htoken
    obtain ⟨p, io, hload⟩ := exists_loadToken hplace htoken ""
    exact h "" p io token hload
  · intro h sessionId p io token hload
    obtain ⟨place, hplace, htoken⟩ := loadToken_mem hload
    exact h place hplace token htoken

theorem current_none_iff {tokens : List String} : Current none tokens ↔ tokens = [] := by
  constructor
  · intro h
    refine List.eq_nil_iff_forall_not_mem.mpr fun token htoken => ?_
    cases h token htoken
  · rintro rfl token htoken
    cases htoken

/-- The places after a token was stored. -/
theorem Stored.current_iff {place : TokenPlace} {left : List String} {token : String}
    {s s' : TokenStorage} (h : Stored cipher place left token s s') (hplace : place ∈ method.places)
    (last : Option String) :
    (∀ q ∈ method.places, Current last (s'.tokensIn cipher q)) ↔
      last = some token ∧ Current last left ∧
        ∀ q ∈ method.places, q ≠ place → Current last (s.tokensIn cipher q) := by
  constructor
  · intro hall
    refine ⟨hall place hplace token ((h.mem_iff token).mpr (Or.inr rfl)), fun t ht => ?_,
      fun q hq hne => ?_⟩
    · exact hall place hplace t ((h.mem_iff t).mpr (Or.inl ht))
    · rw [← h.other q hne]
      exact hall q hq
  · rintro ⟨htoken, hleft, hother⟩ q hq
    by_cases hqp : q = place
    · subst hqp
      intro t ht
      rcases (h.mem_iff t).mp ht with ht | rfl
      · exact hleft t ht
      · exact htoken
    · rw [h.other q hqp]
      exact hother q hq hqp

/-- A save is harmless exactly if it leaves no other token behind. -/
theorem neverStale_save {token : String} {io : SaveCalls} (h : NeverStale cipher method r) :
    NeverStale cipher method (r.step cipher method (.save token io)) ↔
      Careful cipher method r (.save token io) := by
  have hcurrent := neverStale_iff.mp h
  simp only [TokenRun.step, Careful]
  rcases effect_saveToken (r.tokens method) cipher r.storage token io with
    ⟨hleaves, e, heq⟩ | ⟨left, hleaves, hstored, hresult⟩
  · -- nothing was stored, and nothing changes
    rw [heq, hleaves]
    exact ⟨fun _ left hleft => (nomatch hleft), fun _ => h⟩
  · have hmethod : method ≠ .none := by
      rintro rfl
      cases hleaves
    have hplace : (r.tokens method).target ∈ method.places :=
      target_mem_places (r.tokens method) hmethod
    have hiff := hstored.current_iff hplace
    rw [neverStale_iff, hleaves]
    generalize (r.tokens method).saveToken cipher r.storage token io = result at hstored hresult hiff ⊢
    obtain ⟨s', res⟩ := result
    cases hfails : io.failsAfter (r.tokens method).target with
    | true =>
        rw [hfails] at hresult
        obtain ⟨e, rfl⟩ := hresult
        -- the last token stays what it was
        refine (hiff r.last).trans ⟨fun hall left' _ => hall.1, fun hlast => ⟨hlast left rfl, ?_, ?_⟩⟩
        · exact fun t ht => hcurrent _ hplace t (hstored.left_mem t ht)
        · exact fun q hq _ => hcurrent q hq
    | false =>
        rw [hfails] at hresult
        obtain rfl : res = .ok () := hresult
        refine (hiff (some token)).trans ⟨fun hall left' hleft => ?_, fun hcareful => ⟨rfl, ?_⟩⟩
        · obtain rfl := Option.some.inj hleft
          exact hall.2
        · exact hcareful left rfl

/-- A delete is harmless exactly if it clears every place, or fails. -/
theorem neverStale_delete {io : DeleteCalls} (h : NeverStale cipher method r) :
    NeverStale cipher method (r.step cipher method (.delete io)) ↔
      Careful cipher method r (.delete io) := by
  have hcurrent := neverStale_iff.mp h
  simp only [TokenRun.step, Careful, neverStale_iff]
  by_cases hmethod : method = .none
  · subst hmethod
    exact ⟨fun _ _ place hplace => (nomatch hplace), fun _ place hplace => (nomatch hplace)⟩
  -- a process with a client has no other place but the file
  have hclient : (r.tokens method).target ≠ .file → ∀ place ∈ method.places,
      place ≠ (r.tokens method).target → place = .file := by
    intro htarget place hplace hne
    by_contra hfile
    exact hne (place_eq_target (r.tokens method) hplace hfile htarget)
  have heffect : io.Effect cipher r.storage (r.tokens method).target
      ((r.tokens method).deleteToken r.storage io) := effect_deleteToken cipher r.storage io hmethod
  generalize (r.tokens method).deleteToken r.storage io = result at heffect ⊢
  obtain ⟨s', res⟩ := result
  rcases heffect with ⟨⟨e, rfl⟩, hfails, hsub⟩ | ⟨rfl, hfails, hdel⟩
  · constructor
    · intro _ hok place hplace hne hfile
      by_cases htarget : (r.tokens method).target = .file
      · exact absurd ((hfails htarget).symm.trans hok) Bool.noConfusion
      · exact absurd (hclient htarget place hplace hne) hfile
    · exact fun _ place hplace token htoken =>
        hcurrent place hplace token (hsub place token htoken)
  · show (∀ place ∈ method.places, Current none (s'.tokensIn cipher place)) ↔ _
    constructor
    · intro hall _ place hplace hne hfile
      rw [← hdel.other place hne hfile]
      exact current_none_iff.mp (hall place hplace)
    · intro hcareful place hplace
      rw [current_none_iff]
      by_cases hfile : place = .file
      · rw [hfile]
        exact hdel.file
      by_cases hne : place = (r.tokens method).target
      · rw [hne]
        exact hdel.target
      · rw [hdel.other place hne hfile]
        by_cases htarget : (r.tokens method).target = .file
        · exact hcareful (hfails htarget) place hplace hne hfile
        · exact absurd (hclient htarget place hplace hne) hfile

/-- What one event does: a state in which no load is stale stays so exactly if the
event is careful. -/
theorem neverStale_step (h : NeverStale cipher method r) (e : TokenEvent) :
    NeverStale cipher method (r.step cipher method e) ↔ Careful cipher method r e := by
  cases e with
  | restart p => exact ⟨fun _ => trivial, fun _ => h⟩
  | load io => exact ⟨fun _ => trivial, fun _ => h⟩
  | delete io => exact neverStale_delete h
  | save token io => exact neverStale_save h

end Runs

/-- **When the token store never returns a stale token**: from any first process
with nothing stored, no load is ever stale exactly if every save and every delete
is careful. -/
theorem token_store_never_stale_iff (cipher : TokenCipher) (method : CredentialStorageMethod)
    (p : StoragePlatform) (es : List TokenEvent) :
    (∀ n, NeverStale cipher method (after (TokenRun.step cipher method) (.start p) es n)) ↔
      ∀ n e, es[n]? = some e →
        Careful cipher method (after (TokenRun.step cipher method) (.start p) es n) e := by
  have hstart : NeverStale cipher method (.start p) := by
    refine neverStale_iff.mpr fun place _ token htoken => ?_
    cases place <;> cases htoken
  exact after_invariant_iff hstart (fun _ e h => neverStale_step h e) es

/-- A cipher for two tokens. -/
def twoTokenCipher : TokenCipher where
  encrypt _ token :=
    if token = "first" then .ok [1] else if token = "second" then .ok [2]
    else .error "unsupported"
  decrypt _ data :=
    if data = [1] then .ok "first" else if data = [2] then .ok "second"
    else .error "unsupported"
  decrypt_encrypt := by
    intro nonce token ciphertext h
    split at h
    · next htoken =>
        cases h
        rw [htoken]
        rfl
    · split at h
      · next htoken =>
          cases h
          rw [htoken]
          rfl
      · cases h

/-- The default collection is unlocked, or locked for good with one other unlocked. -/
def CollectionCalls.using (collection : String) (isDefault : Bool) : CollectionCalls :=
  ⟨some "login", isDefault, false, false, some [("login", isDefault), (collection, true)], none,
    false⟩

/-- No call fails; the secret goes to the collection. -/
def SaveCalls.ok (collection : String) (isDefault : Bool) : SaveCalls :=
  ⟨⟨false, .using collection isDefault, false⟩, false, ⟨List.replicate 12 0, rfl⟩, false, false,
    false⟩

/-- A save without the Secret Service, one with it, and a start without it. -/
def strandedFile : List TokenEvent :=
  [.save "first" (.ok "login" true), .restart .full, .save "second" (.ok "login" true),
    .restart .bare]

/-- Two saves in the Secret Service, the second while the default collection is locked. -/
def strandedItem : List TokenEvent :=
  [.save "first" (.ok "login" true), .save "second" (.ok "work" false)]

/-- The second save succeeds, and a later load gives the first token: the save wrote the
keyring and left the file as it was, or it wrote one collection and left the other. -/
theorem token_store_returns_stale :
    ((after (TokenRun.step twoTokenCipher .gnomeKeyring) (.start .bare) strandedFile 4).last =
        some "second" ∧
      ((after (TokenRun.step twoTokenCipher .gnomeKeyring) (.start .bare) strandedFile 4).tokens
        .gnomeKeyring).loadToken twoTokenCipher "default"
          (after (TokenRun.step twoTokenCipher .gnomeKeyring) (.start .bare)
            strandedFile 4).storage ⟨.finding ⟨"login", "second"⟩, none, false⟩
          = .ok (some "first")) ∧
    (after (TokenRun.step twoTokenCipher .gnomeKeyring) (.start .full) strandedItem 2).last =
        some "second" ∧
      ((after (TokenRun.step twoTokenCipher .gnomeKeyring) (.start .full) strandedItem 2).tokens
        .gnomeKeyring).loadToken twoTokenCipher "default"
          (after (TokenRun.step twoTokenCipher .gnomeKeyring) (.start .full)
            strandedItem 2).storage ⟨.finding ⟨"login", "first"⟩, none, false⟩
          = .ok (some "first") := by
  refine ⟨⟨rfl, rfl⟩, rfl, rfl⟩

end LamcoRdp
