/-
LamcoRdp/Session/TokenManager.lean

The storage of restore tokens.

A token is kept for a session id in the secure backend of the storage method (the
collections of the Secret Service, TPM 2.0 credentials) or in an encrypted file.  Which of
them an operation uses depends on the client that the process could set up when it started.
This module is about one session id; its key and its two files belong to no other session.

What the outside answers is an input: `StoragePlatform` says what a process finds when it
starts, and each operation has a record of the calls that fail.  A call that fails
has no effect.  The cipher is a parameter; its law is that opening undoes sealing.
An error is the text of its outermost context, which is what `to_string` gives and
what the code looks at to see whether a secret is missing.
-/
import LamcoRdp.Session.SecretService

namespace LamcoRdp

/-- `CredentialStorageMethod`. -/
inductive CredentialStorageMethod
  | none
  | gnomeKeyring
  | kWallet
  | keePassXC
  | flatpakSecretPortal
  | tpm2
  | encryptedFile
  deriving DecidableEq

/-- What is stored for the session: the secrets in the backends, and the two files. -/
structure TokenStorage where
  /-- the items of the Secret Service that have the session's key -/
  items : List SecretItem
  /-- the TPM credential -/
  tpm : Option String
  /-- the content of `{session_id}.token` -/
  file : Option (List UInt8)
  /-- `{session_id}.json` exists -/
  metadata : Bool
  deriving DecidableEq

/-- Nothing stored. -/
def TokenStorage.empty : TokenStorage := ⟨[], none, none, false⟩

/-! ### The Flatpak manager -/

/-- `FlatpakSecretStrategy`. -/
inductive FlatpakSecretStrategy
  | portalDerived
  | secretService
  | encryptedFileFallback
  deriving DecidableEq

/-- What a process finds when it starts. -/
structure StoragePlatform where
  /-- `/.flatpak-info` exists -/
  isFlatpak : Bool
  /-- the secret portal gives a secret that is not empty -/
  secretPortal : Bool
  /-- `AsyncSecretServiceClient::connect` succeeds -/
  secretService : Bool
  /-- `AsyncTpmCredentialStore::new` succeeds -/
  tpm : Bool

/-- `FlatpakSecrets::new`; `none` is the error. -/
def FlatpakSecretStrategy.new (p : StoragePlatform) : Option FlatpakSecretStrategy :=
  if !p.isFlatpak then none
  else if p.secretPortal then some .portalDerived
  else if p.secretService then some .secretService
  else some .encryptedFileFallback

/-- `FlatpakSecrets::store_secret`: the items, and whether the secret is among them. -/
def FlatpakSecretStrategy.storeSecret (strategy : FlatpakSecretStrategy)
    (items : List SecretItem) (secret : String) (io : SecretStoreCalls) :
    Except String (List SecretItem × Bool) :=
  match strategy with
  | .portalDerived => .ok (items, false)
  | .secretService =>
      match LamcoRdp.storeSecret items secret io with
      | .error _ => .error "Failed to store secret via Secret Service"
      | .ok items => .ok (items, true)
  | .encryptedFileFallback => .ok (items, false)

/-- `FlatpakSecrets::retrieve_secret`. -/
def FlatpakSecretStrategy.retrieveSecret (strategy : FlatpakSecretStrategy) (key : String)
    (items : List SecretItem) (io : LookupCalls) : Except String (Option String) :=
  match strategy with
  | .portalDerived => .ok none
  | .secretService =>
      match lookupSecret key items io with
      | .ok secret => .ok (some secret)
      | .error e =>
          if isNotFoundError e.message then .ok none
          else .error "Failed to retrieve secret from Secret Service"
  | .encryptedFileFallback => .ok none

/-- `FlatpakSecrets::delete_secret`: the items, and whether it was this manager's to
delete. -/
def FlatpakSecretStrategy.deleteSecret (strategy : FlatpakSecretStrategy)
    (items : List SecretItem) (io : SecretDeleteCalls) : List SecretItem × Except String Bool :=
  match strategy with
  | .portalDerived => (items, .ok false)
  | .secretService =>
      match LamcoRdp.deleteSecret items io with
      | (items, .error _) => (items, .error "Failed to delete secret from Secret Service")
      | (items, .ok ()) => (items, .ok true)
  | .encryptedFileFallback => (items, .ok false)

/-! ### TPM credentials -/

/-- The calls inside `TpmCredentialStore::load` that can fail. -/
inductive TpmFault
  | spawn
  | decrypt

/-- `AsyncTpmCredentialStore::load`.  The context it adds hides the text that says
that there is no credential. -/
def tpmLoad (secret : Option String) (fault : Option TpmFault) : Except String String :=
  match fault with
  | some .spawn => .error "Failed to spawn blocking task"
  | some .decrypt => .error "Failed to load TPM credential"
  | none =>
      match secret with
      | some secret => .ok secret
      | none => .error "Failed to load TPM credential"

/-! ### The encrypted file -/

/-- The nonce of AES-GCM. -/
abbrev Nonce := { n : List UInt8 // n.length = 12 }

/-- The cipher with the key of the machine. -/
structure TokenCipher where
  encrypt : List UInt8 → String → Except String (List UInt8)
  decrypt : List UInt8 → List UInt8 → Except String String
  /-- decryption inverts encryption -/
  decrypt_encrypt : ∀ {nonce token ciphertext}, encrypt nonce token = .ok ciphertext →
    decrypt nonce ciphertext = .ok token

/-- `encrypt_token`. -/
def encryptToken (cipher : TokenCipher) (nonce : Nonce) (token : String) :
    Except String (List UInt8) :=
  match cipher.encrypt nonce.val token with
  | .error e => .error s!"Encryption failed: {e}"
  | .ok ciphertext => .ok (nonce.val ++ ciphertext)

/-- `decrypt_token`. -/
def decryptToken (cipher : TokenCipher) (data : List UInt8) : Except String String :=
  if data.length < 12 then .error "Invalid encrypted data (too short)"
  else
    match cipher.decrypt (data.take 12) (data.drop 12) with
    | .error e => .error s!"Decryption failed: {e}"
    | .ok token => .ok token

/-- What `save_token` meets: the Secret Service, the calls that fail, and the nonce. -/
structure SaveCalls where
  secretService : SecretStoreCalls
  tpmFails : Bool
  nonce : Nonce
  writeFails : Bool
  permissionsFail : Bool
  metadataFails : Bool

/-- What `load_token` meets. -/
structure LoadCalls where
  lookup : LookupCalls
  tpm : Option TpmFault
  readFails : Bool

/-- What `delete_token` meets. -/
structure DeleteCalls where
  secretService : SecretDeleteCalls
  tpmFails : Bool
  removeTokenFails : Bool
  removeMetadataFails : Bool

/-- `save_token_to_file`. -/
def saveTokenToFile (cipher : TokenCipher) (s : TokenStorage) (token : String) (io : SaveCalls) :
    TokenStorage × Except String Unit :=
  match encryptToken cipher io.nonce token with
  | .error e => (s, .error e)
  | .ok encrypted =>
      if io.writeFails then (s, .error "Failed to write token file")
      else
        ({ s with file := some encrypted },
          if io.permissionsFail then .error "Failed to set file permissions" else .ok ())

/-- `load_token_from_file`. -/
def loadTokenFromFile (cipher : TokenCipher) (s : TokenStorage) (io : LoadCalls) :
    Except String (Option String) :=
  match s.file with
  | none => .ok none
  | some encrypted =>
      if io.readFails then .error "Failed to read token file"
      else (decryptToken cipher encrypted).map some

/-- `delete_token_file`. -/
def deleteTokenFile (s : TokenStorage) (io : DeleteCalls) : TokenStorage × Except String Unit :=
  if s.file.isSome && io.removeTokenFails then (s, .error "Failed to delete token file")
  else if s.metadata && io.removeMetadataFails then
    ({ s with file := none }, .error "Failed to delete metadata file")
  else ({ s with file := none, metadata := false }, .ok ())

/-! ### The token manager -/

/-- `Tokens`: the method, and the clients that the process has. -/
structure Tokens where
  storageMethod : CredentialStorageMethod
  secretService : Bool
  flatpakManager : Option FlatpakSecretStrategy
  tpmStore : Bool

/-- `Tokens::new`. -/
def Tokens.new (method : CredentialStorageMethod) (p : StoragePlatform) : Tokens where
  storageMethod := method
  secretService :=
    match method with
    | .gnomeKeyring | .kWallet | .keePassXC => p.secretService
    | _ => false
  flatpakManager :=
    match method with
    | .flatpakSecretPortal => FlatpakSecretStrategy.new p
    | _ => none
  tpmStore :=
    match method with
    | .tpm2 => p.tpm
    | _ => false

/-- The store call of the Secret Service client. -/
def storeInSecretService (s : TokenStorage) (token : String) (io : SaveCalls) :
    TokenStorage × Except String Unit :=
  match storeSecret s.items token io.secretService with
  | .error _ => (s, .error "Failed to store token in Secret Service")
  | .ok items => ({ s with items := items }, .ok ())

/-- The store call of the TPM client. -/
def storeInTpm (s : TokenStorage) (token : String) (io : SaveCalls) :
    TokenStorage × Except String Unit :=
  if io.tpmFails then (s, .error "Failed to store token in TPM")
  else ({ s with tpm := some token }, .ok ())

/-- `save_token_metadata`, after the token has been stored. -/
def saveTokenMetadata (stored : TokenStorage × Except String Unit) (io : SaveCalls) :
    TokenStorage × Except String Unit :=
  match stored with
  | (s, .error e) => (s, .error e)
  | (s, .ok ()) =>
      if io.metadataFails then (s, .error "Failed to write metadata")
      else ({ s with metadata := true }, .ok ())

/-- `Tokens::save_token`. -/
def Tokens.saveToken (tokens : Tokens) (cipher : TokenCipher) (s : TokenStorage) (token : String)
    (io : SaveCalls) : TokenStorage × Except String Unit :=
  match tokens.storageMethod with
  | .gnomeKeyring | .kWallet | .keePassXC =>
      if tokens.secretService then
        saveTokenMetadata (storeInSecretService s token io) io
      else saveTokenMetadata (saveTokenToFile cipher s token io) io
  | .flatpakSecretPortal =>
      match tokens.flatpakManager with
      | some manager =>
          match manager.storeSecret s.items token io.secretService with
          | .error _ => (s, .error "Failed to store via Flatpak manager")
          | .ok (items, true) => saveTokenMetadata ({ s with items := items }, .ok ()) io
          | .ok (_, false) => saveTokenMetadata (saveTokenToFile cipher s token io) io
      | none => saveTokenMetadata (saveTokenToFile cipher s token io) io
  | .tpm2 =>
      if tokens.tpmStore then
        saveTokenMetadata (storeInTpm s token io) io
      else saveTokenMetadata (saveTokenToFile cipher s token io) io
  | .encryptedFile => saveTokenMetadata (saveTokenToFile cipher s token io) io
  | .none => (s, .error "No credential storage method configured")

/-- `Tokens::load_token`. -/
def Tokens.loadToken (tokens : Tokens) (cipher : TokenCipher) (sessionId : String)
    (s : TokenStorage) (io : LoadCalls) : Except String (Option String) :=
  let key := "lamco-rdp-session-" ++ sessionId
  match tokens.storageMethod with
  | .gnomeKeyring | .kWallet | .keePassXC =>
      if tokens.secretService then
        match lookupSecret key s.items io.lookup with
        | .ok token => .ok (some token)
        | .error e => if isNotFoundError e.message then .ok none else loadTokenFromFile cipher s io
      else loadTokenFromFile cipher s io
  | .flatpakSecretPortal =>
      match tokens.flatpakManager with
      | some manager =>
          match manager.retrieveSecret key s.items io.lookup with
          | .ok (some token) => .ok (some token)
          | .ok none => loadTokenFromFile cipher s io
          | .error _ => loadTokenFromFile cipher s io
      | none => loadTokenFromFile cipher s io
  | .tpm2 =>
      if tokens.tpmStore then
        match tpmLoad s.tpm io.tpm with
        | .ok token => .ok (some token)
        | .error e => if isNotFoundError e then .ok none else loadTokenFromFile cipher s io
      else loadTokenFromFile cipher s io
  | .encryptedFile => loadTokenFromFile cipher s io
  | .none => .ok none

/-- The delete call of the Secret Service client, and the files after it. -/
def deleteFromSecretService (s : TokenStorage) (io : DeleteCalls) :
    TokenStorage × Except String Unit :=
  match deleteSecret s.items io.secretService with
  | (items, .error _) => ({ s with items := items }, .error "Failed to delete from Secret Service")
  | (items, .ok ()) => deleteTokenFile { s with items := items } io

/-- The delete call of the TPM client, and the files after it. -/
def deleteFromTpm (s : TokenStorage) (io : DeleteCalls) : TokenStorage × Except String Unit :=
  if io.tpmFails then (s, .error "Failed to delete from TPM")
  else deleteTokenFile { s with tpm := none } io

/-- `Tokens::delete_token`. -/
def Tokens.deleteToken (tokens : Tokens) (s : TokenStorage) (io : DeleteCalls) :
    TokenStorage × Except String Unit :=
  match tokens.storageMethod with
  | .gnomeKeyring | .kWallet | .keePassXC =>
      if tokens.secretService then deleteFromSecretService s io
      else deleteTokenFile s io
  | .flatpakSecretPortal =>
      match tokens.flatpakManager with
      | some manager =>
          match manager.deleteSecret s.items io.secretService with
          | (items, .error _) =>
              ({ s with items := items }, .error "Failed to delete from Flatpak manager")
          | (items, .ok _) => deleteTokenFile { s with items := items } io
      | none => deleteTokenFile s io
  | .tpm2 =>
      if tokens.tpmStore then deleteFromTpm s io
      else deleteTokenFile s io
  | .encryptedFile => deleteTokenFile s io
  | .none => (s, .ok ())

end LamcoRdp
