/-
LamcoRdp/Session/SecretService.lean

The client of the Secret Service.

The service keeps items in collections.  A secret is stored in the collection that can be
used at the moment; there it takes the place of the item with the same key, and the items
of the other collections stay.  A lookup and a delete search all collections.  So several
items may have one key, and which of them a lookup comes upon is for the service to say.

This module is about the items with one key.  What the service answers is an input: which
collections are locked, in which order it names what a search finds, and which calls fail.
A call that fails has no effect.
-/
import Mathlib.Data.List.Infix
import Mathlib.Data.List.Perm.Basic

namespace LamcoRdp

/-- An item with the key: the collection it is in, and its secret. -/
structure SecretItem where
  collection : String
  secret : String
  deriving DecidableEq

/-! ### Errors -/

/-- How `lookup_secret` fails. -/
inductive LookupError
  | notFound (key : String)
  | connect
  | search
  | retrieve
  | unlock
  | retrieveAfterUnlock
  | invalidUtf8

/-- The outermost context of the error. -/
def LookupError.message : LookupError → String
  | .notFound key => "Secret not found: " ++ key
  | .connect => "Failed to connect to Secret Service (tried DH and Plain)"
  | .search => "Failed to search Secret Service"
  | .retrieve => "Failed to retrieve secret value"
  | .unlock => "Failed to unlock secret item"
  | .retrieveAfterUnlock => "Failed to retrieve secret value after unlock"
  | .invalidUtf8 => "Secret contains invalid UTF-8"

/-- The text contains `part`, in lower case. -/
def lowerContains (text part : String) : Bool :=
  decide (part.toList <:+: text.toList.map Char.toLower)

/-- `is_not_found_error` (and `is_not_found` of the Flatpak manager). -/
def isNotFoundError (error : String) : Bool :=
  lowerContains error "not found" || lowerContains error "does not exist" ||
    lowerContains error "no such"

/-- The error of a missing secret is recognised, whatever the key. -/
theorem isNotFoundError_notFound (key : String) :
    isNotFoundError (LookupError.notFound key).message = true := by
  show isNotFoundError ("Secret not found: " ++ key) = true
  have hpart : lowerContains ("Secret not found: " ++ key) "not found" = true := by
    apply decide_eq_true
    rw [String.toList_append, List.map_append]
    refine ⟨"secret ".toList, ": ".toList ++ key.toList.map Char.toLower, ?_⟩
    rw [← List.append_assoc]
    rfl
  rw [isNotFoundError, hpart]
  rfl

/-- The other errors of a lookup are not taken for it. -/
theorem isNotFoundError_message {e : LookupError} (h : ∀ key, e ≠ .notFound key) :
    isNotFoundError e.message = false := by
  cases e with
  | notFound key => exact absurd rfl (h key)
  | _ => decide +kernel

/-! ### A collection that can be used -/

/-- What the service answers about its collections.  A call of `is_locked` that fails
counts as the answer that the collection is locked. -/
structure CollectionCalls where
  /-- `get_default_collection` -/
  defaultCollection : Option String
  /-- the default collection says that it is not locked -/
  defaultUnlocked : Bool
  /-- its `unlock` succeeds -/
  defaultUnlocks : Bool
  /-- and it says afterwards that it is not locked -/
  defaultUnlockedAfter : Bool
  /-- `get_all_collections`, each with whether it says that it is not locked -/
  allCollections : Option (List (String × Bool))
  /-- `get_default_collection`, asked again -/
  lastCollection : Option String
  /-- the `unlock` of that one succeeds -/
  lastUnlocks : Bool

/-- `get_usable_collection`. -/
def getUsableCollection (io : CollectionCalls) : Except String String :=
  match io.defaultCollection.filter fun _ =>
    io.defaultUnlocked || io.defaultUnlocks && io.defaultUnlockedAfter with
  | some collection => .ok collection
  | none =>
      -- the first unlocked one: the wallets of KDE have names
      match (io.allCollections.getD []).find? Prod.snd with
      | some (collection, _) => .ok collection
      | none =>
          match io.lastCollection with
          | none => .error "No Secret Service collection available"
          | some collection =>
              if io.lastUnlocks then .ok collection
              else .error "Failed to unlock Secret Service collection"

/-! ### Storing -/

/-- What `store_secret` meets. -/
structure SecretStoreCalls where
  connectFails : Bool
  collections : CollectionCalls
  createFails : Bool

/-- `store_secret`. -/
def storeSecret (items : List SecretItem) (secret : String) (io : SecretStoreCalls) :
    Except String (List SecretItem) :=
  if io.connectFails then .error LookupError.connect.message
  else
    match getUsableCollection io.collections with
    | .error e => .error e
    | .ok collection =>
        if io.createFails then .error "Failed to create Secret Service item"
        else
          -- `create_item` replaces the item of this collection
          .ok (items.filter (fun item => item.collection ≠ collection) ++ [⟨collection, secret⟩])

/-- The items that a store leaves as they are, `none` if it stores nothing. -/
def SecretStoreCalls.leaves (io : SecretStoreCalls) (items : List SecretItem) :
    Option (List SecretItem) :=
  match getUsableCollection io.collections with
  | .error _ => none
  | .ok collection =>
      if io.connectFails || io.createFails then none
      else some (items.filter fun item => item.collection ≠ collection)

/-- A store fails, or adds one item to those it leaves. -/
theorem storeSecret_cases (items : List SecretItem) (secret : String) (io : SecretStoreCalls) :
    (io.leaves items = none ∧ ∃ e, storeSecret items secret io = .error e) ∨
    ∃ left collection, io.leaves items = some left ∧ (∀ item ∈ left, item ∈ items) ∧
      storeSecret items secret io = .ok (left ++ [⟨collection, secret⟩]) := by
  unfold storeSecret SecretStoreCalls.leaves
  rcases getUsableCollection io.collections with e | collection
  · refine Or.inl ⟨rfl, ?_⟩
    cases io.connectFails
    · exact ⟨e, rfl⟩
    · exact ⟨_, rfl⟩
  · cases io.connectFails
    · cases io.createFails
      · exact Or.inr ⟨_, collection, rfl, fun item hmem => List.mem_of_mem_filter hmem, rfl⟩
      · exact Or.inl ⟨rfl, _, rfl⟩
    · exact Or.inl ⟨rfl, _, rfl⟩

/-! ### Searching -/

/-- What the service finds in a search: items of unlocked and of locked collections, all
that there are, in an order of its own. -/
structure SecretSearch where
  unlocked : List SecretItem → List SecretItem
  locked : List SecretItem → List SecretItem
  perm : ∀ items, (unlocked items ++ locked items).Perm items

namespace SecretSearch

/-- The collections are unlocked and the item comes first. -/
def first (item : SecretItem) : SecretSearch where
  unlocked items := if item ∈ items then item :: items.erase item else items
  locked _ := []
  perm := by
    intro items
    rw [List.append_nil]
    split_ifs with hmem
    · exact (List.perm_cons_erase hmem).symm
    · exact List.Perm.refl items

end SecretSearch

/-- What `lookup_secret` meets. -/
structure LookupCalls where
  connectFails : Bool
  /-- `search_items`; `none` if it fails -/
  search : Option SecretSearch
  unlockFails : Bool
  /-- `get_secret` fails -/
  retrieveFails : Bool
  /-- what it gives is no UTF-8 -/
  invalidUtf8 : Bool

/-- No call fails and the item comes first. -/
def LookupCalls.finding (item : SecretItem) : LookupCalls :=
  ⟨false, some (.first item), false, false, false⟩

/-- The secret of an item, as text. -/
def SecretItem.getSecret (item : SecretItem) (io : LookupCalls) (failure : LookupError) :
    Except LookupError String :=
  if io.retrieveFails then .error failure
  else if io.invalidUtf8 then .error .invalidUtf8
  else .ok item.secret

/-- `AsyncSecretServiceClient::lookup_secret`. -/
def lookupSecret (key : String) (items : List SecretItem) (io : LookupCalls) :
    Except LookupError String :=
  if io.connectFails then .error .connect
  else
    match io.search with
    | none => .error .search
    | some search =>
        match search.unlocked items, search.locked items with
        | item :: _, _ => item.getSecret io .retrieve
        | [], item :: _ =>
            if io.unlockFails then .error .unlock else item.getSecret io .retrieveAfterUnlock
        | [], [] => .error (.notFound key)

theorem SecretItem.getSecret_cases (item : SecretItem) (io : LookupCalls) (failure : LookupError)
    (hfailure : ∀ key, failure ≠ .notFound key) :
    item.getSecret io failure = .ok item.secret ∨
      ∃ e, (∀ key, e ≠ .notFound key) ∧ item.getSecret io failure = .error e := by
  unfold getSecret
  cases io.retrieveFails
  · cases io.invalidUtf8
    · exact Or.inl rfl
    · exact Or.inr ⟨.invalidUtf8, fun _ heq => LookupError.noConfusion heq, rfl⟩
  · exact Or.inr ⟨failure, hfailure, rfl⟩

/-- **A lookup** gives the secret of some item, or says that there is none, or fails with
an error that does not say so. -/
theorem lookupSecret_cases (key : String) (items : List SecretItem) (io : LookupCalls) :
    (∃ item ∈ items, lookupSecret key items io = .ok item.secret) ∨
    items = [] ∧ lookupSecret key items io = .error (.notFound key) ∨
    ∃ e, (∀ key, e ≠ .notFound key) ∧ lookupSecret key items io = .error e := by
  unfold lookupSecret
  cases io.connectFails with
  | true => exact Or.inr (Or.inr ⟨.connect, fun _ heq => LookupError.noConfusion heq, rfl⟩)
  | false =>
    rcases io.search with - | search
    · exact Or.inr (Or.inr ⟨.search, fun _ heq => LookupError.noConfusion heq, rfl⟩)
    rw [if_neg Bool.false_ne_true]
    dsimp only
    have hall := search.perm items
    generalize search.unlocked items = unlocked at hall ⊢
    generalize search.locked items = locked at hall ⊢
    rcases unlocked with - | ⟨item, rest⟩
    · rcases locked with - | ⟨item, rest⟩
      · exact Or.inr (Or.inl ⟨hall.symm.eq_nil, rfl⟩)
      · -- the first locked item
        have hmem : item ∈ items := hall.mem_iff.mp List.mem_cons_self
        cases io.unlockFails with
        | true => exact Or.inr (Or.inr ⟨.unlock, fun _ heq => LookupError.noConfusion heq, rfl⟩)
        | false =>
            rcases item.getSecret_cases io .retrieveAfterUnlock
                (fun _ heq => LookupError.noConfusion heq) with hok | herror
            · exact Or.inl ⟨item, hmem, hok⟩
            · exact Or.inr (Or.inr herror)
    · -- the first unlocked item
      have hmem : item ∈ items := hall.mem_iff.mp List.mem_cons_self
      rcases item.getSecret_cases io .retrieve
          (fun _ heq => LookupError.noConfusion heq) with hok | herror
      · exact Or.inl ⟨item, hmem, hok⟩
      · exact Or.inr (Or.inr herror)

/-- **A lookup can come upon any item.** -/
theorem lookupSecret_finding {items : List SecretItem} {item : SecretItem} (h : item ∈ items)
    (key : String) : lookupSecret key items (.finding item) = .ok item.secret := by
  have hfirst : (SecretSearch.first item).unlocked items = item :: items.erase item := if_pos h
  simp only [lookupSecret, LookupCalls.finding, Bool.false_eq_true, if_false, hfirst]
  rfl

/-! ### Deleting -/

/-- What `delete_secret` meets. -/
structure SecretDeleteCalls where
  connectFails : Bool
  /-- `search_items`; `none` if it fails -/
  search : Option SecretSearch
  /-- the `delete` of an item fails -/
  deleteFails : SecretItem → Bool

/-- The loop over the items that were found: it ends with the first that cannot be
deleted. -/
def deleteItems (fails : SecretItem → Bool) :
    List SecretItem → List SecretItem → List SecretItem × Except String Unit
  | items, [] => (items, .ok ())
  | items, item :: rest =>
      if fails item then (items, .error "Failed to delete secret item")
      else deleteItems fails (items.erase item) rest

/-- `delete_secret`. -/
def deleteSecret (items : List SecretItem) (io : SecretDeleteCalls) :
    List SecretItem × Except String Unit :=
  if io.connectFails then (items, .error LookupError.connect.message)
  else
    match io.search with
    | none => (items, .error LookupError.search.message)
    | some search => deleteItems io.deleteFails items (search.unlocked items ++ search.locked items)

theorem deleteItems_subset (fails : SecretItem → Bool) (items found : List SecretItem) :
    ∀ item ∈ (deleteItems fails items found).1, item ∈ items := by
  induction found generalizing items with
  | nil => exact fun item h => h
  | cons head rest ih =>
      intro item h
      unfold deleteItems at h
      split_ifs at h
      · exact h
      · exact List.mem_of_mem_erase (ih (items.erase head) item h)

/-- The loop empties what the search found. -/
theorem deleteItems_ok {fails : SecretItem → Bool} {items found : List SecretItem}
    (hperm : found.Perm items) (h : (deleteItems fails items found).2 = .ok ()) :
    (deleteItems fails items found).1 = [] := by
  induction found generalizing items with
  | nil => exact hperm.symm.eq_nil
  | cons head rest ih =>
      unfold deleteItems at h ⊢
      split_ifs at h ⊢
      exact ih ((List.cons_perm_iff_perm_erase.mp hperm).2) h

/-- **A delete adds no item, and if it succeeds none is left.** -/
theorem deleteSecret_spec (items : List SecretItem) (io : SecretDeleteCalls) :
    (∀ item ∈ (deleteSecret items io).1, item ∈ items) ∧
      ((deleteSecret items io).2 = .ok () → (deleteSecret items io).1 = []) := by
  unfold deleteSecret
  split_ifs
  · exact ⟨fun item h => h, fun h => by cases h⟩
  · rcases io.search with - | search
    · exact ⟨fun item h => h, fun h => by cases h⟩
    · exact ⟨deleteItems_subset _ _ _, deleteItems_ok (search.perm items)⟩

end LamcoRdp
