import HttpService.Proofs.TokenSoundness
/-! # Key stores over time

What a store holds is told by its history (`KeyStore.Holds`): under an identifier it has the key of
the last insertion that succeeded since the last load that did, else the key which that load found.
Both a run of requests and a folder are lists in which the last element that counts decides; `Latest`
says so once, and `latest_cons` is the only induction step either needs. -/
set_option autoImplicit false

namespace HttpService

/-! ## The last that counts -/

section Latest

variable {α β : Type}

def LastOf (value? : α -> Option β) (list : List α) (value : β) : Prop :=
  ∃ before element after, list = before ++ element :: after ∧ value? element = some value ∧
    ∀ later ∈ after, value? later = none

def Latest (value? : α -> Option β) (list : List α) (start : Option β) (value : β) : Prop :=
  LastOf value? list value ∨ (∀ element ∈ list, value? element = none) ∧ start = some value

theorem latest_nil {value? : α -> Option β} {start : Option β} {value : β} :
    Latest value? [] start value ↔ start = some value := by
  constructor
  · rintro (⟨before, element, after, parts, _⟩ | ⟨_, same⟩)
    · cases before <;> cases parts
    · exact same
  · intro same
    exact .inr ⟨by simp, same⟩

theorem lastOf_cons {value? : α -> Option β} {first : α} {rest : List α} {value : β} :
    LastOf value? (first :: rest) value ↔
      LastOf value? rest value ∨
        (∀ element ∈ rest, value? element = none) ∧ value? first = some value := by
  constructor
  · rintro ⟨before, element, after, parts, gives, silent⟩
    cases before with
    | nil =>
        obtain ⟨rfl, rfl⟩ := List.cons.inj parts
        exact .inr ⟨silent, gives⟩
    | cons head before =>
        obtain ⟨rfl, rfl⟩ := List.cons.inj parts
        exact .inl ⟨before, element, after, rfl, gives, silent⟩
  · rintro (⟨before, element, after, rfl, gives, silent⟩ | ⟨silent, gives⟩)
    · exact ⟨first :: before, element, after, rfl, gives, silent⟩
    · exact ⟨[], first, rest, rfl, gives, silent⟩

theorem latest_cons {value? : α -> Option β} {first : α} {rest : List α} {start : Option β}
    {value : β} :
    Latest value? (first :: rest) start value ↔
      Latest value? rest ((value? first).or start) value := by
  simp only [Latest, lastOf_cons, List.forall_mem_cons]
  cases given : value? first with
  | none => simp
  | some other =>
      simp only [reduceCtorEq, false_and, or_false]
      rfl

end Latest

/-! ## What is held -/

namespace Dictionary

variable {α : Type}

theorem nodup_keys (table : Dictionary α) : table.keys.Nodup := by
  refine List.pairwise_map.mpr (table.sorted.imp ?_)
  intro left right less same
  exact String.lt_irrefl _ (same ▸ less)

theorem mem_keys (table : Dictionary α) (key : String) :
    key ∈ table.keys ↔ ∃ value, table.find? key = some value := by
  constructor
  · intro member
    obtain ⟨⟨_, value⟩, present, rfl⟩ := List.mem_map.mp member
    exact ⟨value, valueUnder?_of_mem table.sorted present⟩
  · rintro ⟨value, found⟩
    exact List.mem_map.mpr ⟨(key, value), mem_of_valueUnder? found, rfl⟩

end Dictionary

def KeyRequest.keyUnder? (kid : String) : KeyRequest -> Option PublicKey
  | .insert name text => if name = kid then PublicKey.ofText? text else none
  | _ => none

def KeyRequest.loaded? : KeyRequest -> Option KeyStore
  | .load folder => (KeyStore.ofFolder folder).toOption
  | _ => none

namespace KeyStore

def entryKey? (kid : String) (entry : String × FolderEntry) : Option PublicKey :=
  match entry.2 with
  | .file text => if keyName? entry.1 = some kid then PublicKey.ofText? text else none
  | _ => none

/-! ### One change -/

theorem insert_of_key {store : KeyStore} {kid : String} {text : Bytes} {key : PublicKey}
    (isKey : PublicKey.ofText? text = some key) :
    store.insert kid text = .ok ⟨store.keys.insert kid key⟩ := by
  simp only [insert, isKey]
  rfl

theorem insert_of_no_key {store : KeyStore} {kid : String} {text : Bytes}
    (noKey : PublicKey.ofText? text = none) : store.insert kid text = .error (.unreadable kid) := by
  simp only [insert, noKey]
  rfl

theorem find?_insert {store changed : KeyStore} {name : String} {text : Bytes}
    (inserted : store.insert name text = .ok changed) (kid : String) :
    changed.find? kid = (if name = kid then PublicKey.ofText? text else none).or
      (store.find? kid) := by
  cases isKey : PublicKey.ofText? text with
  | none =>
      rw [insert_of_no_key isKey] at inserted
      cases inserted
  | some key =>
      rw [insert_of_key isKey] at inserted
      cases inserted
      rw [find?, Dictionary.find?_insert]
      split
      · rfl
      · rfl

theorem find?_addEntry {store changed : KeyStore} {entry : String × FolderEntry}
    (added : store.addEntry entry = .ok changed) (kid : String) :
    changed.find? kid = (entryKey? kid entry).or (store.find? kid) := by
  obtain ⟨file, content⟩ := entry
  simp only [addEntry] at added
  split at added
  next unnamed =>
    cases added
    cases content <;> simp [entryKey?, unnamed]
  next name named =>
    cases content with
    | folder | unreadable code => cases added
    | file text =>
        rw [find?_insert added kid]
        simp [entryKey?, named]

theorem find?_addEntries {entries : List (String × FolderEntry)} {store changed : KeyStore}
    (added : entries.foldlM addEntry store = .ok changed) (kid : String) (key : PublicKey) :
    changed.find? kid = some key ↔ Latest (entryKey? kid) entries (store.find? kid) key := by
  induction entries generalizing store with
  | nil =>
      cases added
      exact latest_nil.symm
  | cons entry rest hypothesis =>
      rw [List.foldlM_cons] at added
      cases first : store.addEntry entry with
      | error fault =>
          rw [first] at added
          cases added
      | ok next =>
          rw [first] at added
          rw [hypothesis added, latest_cons, find?_addEntry first]

/-- A load has the keys of the files named for them. -/
theorem find?_ofFolder {entries : List (String × FolderEntry)} {loaded : KeyStore}
    (filled : ofFolder (.ok entries) = .ok loaded) (kid : String) (key : PublicKey) :
    loaded.find? kid = some key ↔ LastOf (entryKey? kid) entries key := by
  rw [find?_addEntries filled, Latest]
  simp [find?, empty, Dictionary.find?_empty]

/-! ### A request -/

theorem perform_lookup (store : KeyStore) (kid : String) :
    (store.perform (.lookup kid)).1 = store := by
  simp only [perform]
  split <;> rfl

theorem perform_lookup_of_some {store : KeyStore} {kid : String} {key : PublicKey}
    (found : store.find? kid = some key) : store.perform (.lookup kid) = (store, .found key) := by
  simp only [perform, found]

theorem perform_lookup_of_none {store : KeyStore} {kid : String}
    (missing : store.find? kid = none) :
    store.perform (.lookup kid) = (store, .missing (notFoundMessage kid)) := by
  simp only [perform, missing]

theorem perform_of_loaded {store loaded : KeyStore} {request : KeyRequest}
    (loads : request.loaded? = some loaded) : (store.perform request).1 = loaded := by
  cases request with
  | load folder =>
      simp only [KeyRequest.loaded?] at loads
      cases outcome : ofFolder folder with
      | error fault =>
          rw [outcome] at loads
          cases loads
      | ok found =>
          rw [outcome] at loads
          simp only [perform, outcome, settle]
          exact Option.some.inj loads
  | insert kid text => cases loads
  | lookup kid => cases loads

theorem find?_perform {request : KeyRequest} (keeps : request.loaded? = none) (store : KeyStore)
    (kid : String) :
    (store.perform request).1.find? kid = (request.keyUnder? kid).or (store.find? kid) := by
  cases request with
  | insert name text =>
      simp only [perform, KeyRequest.keyUnder?]
      cases inserted : store.insert name text with
      | ok changed => exact find?_insert inserted kid
      | error fault =>
          cases isKey : PublicKey.ofText? text with
          | some key =>
              rw [insert_of_key isKey] at inserted
              cases inserted
          | none => simp [settle]
  | load folder =>
      simp only [KeyRequest.loaded?] at keeps
      cases outcome : ofFolder folder with
      | ok found =>
          rw [outcome] at keeps
          cases keeps
      | error fault => simp [perform, outcome, settle, KeyRequest.keyUnder?]
  | lookup name =>
      rw [perform_lookup]
      rfl

/-! ### A run -/

/-- The last load of a history that succeeded gave `loaded`, the store from the start if there was
none, and these are the requests since. -/
def SinceLoad (history : List KeyRequest) (loaded : KeyStore) (since : List KeyRequest) : Prop :=
  (∀ request ∈ since, request.loaded? = none) ∧
    (history = since ∧ loaded = empty ∨
      ∃ before request, history = before ++ request :: since ∧ request.loaded? = some loaded)

/-- By its history, a store holds this key under this identifier. -/
def Holds (history : List KeyRequest) (kid : String) (key : PublicKey) : Prop :=
  ∃ loaded since, SinceLoad history loaded since ∧
    (LastOf (KeyRequest.keyUnder? kid) since key ∨
      (∀ request ∈ since, request.keyUnder? kid = none) ∧ loaded.find? kid = some key)

theorem sinceLoad_exists (history : List KeyRequest) :
    ∃ loaded since, SinceLoad history loaded since := by
  induction history with
  | nil => exact ⟨empty, [], by simp, .inl ⟨rfl, rfl⟩⟩
  | cons request rest hypothesis =>
      obtain ⟨loaded, since, silent, parts⟩ := hypothesis
      rcases parts with ⟨rfl, rfl⟩ | ⟨before, load, rfl, loads⟩
      · cases loads : request.loaded? with
        | none => exact ⟨empty, request :: rest, List.forall_mem_cons.mpr ⟨loads, silent⟩, .inl ⟨rfl, rfl⟩⟩
        | some loaded => exact ⟨loaded, rest, silent, .inr ⟨[], request, rfl, loads⟩⟩
      · exact ⟨loaded, since, silent, .inr ⟨request :: before, load, rfl, loads⟩⟩

theorem find?_after {requests : List KeyRequest}
    (keep : ∀ request ∈ requests, request.loaded? = none) (store : KeyStore) (kid : String)
    (key : PublicKey) :
    (store.after requests).find? kid = some key ↔
      Latest (KeyRequest.keyUnder? kid) requests (store.find? kid) key := by
  induction requests generalizing store with
  | nil => exact latest_nil.symm
  | cons request rest hypothesis =>
      obtain ⟨keeps, rest⟩ := List.forall_mem_cons.mp keep
      rw [latest_cons, ← find?_perform keeps]
      exact hypothesis rest _

/-- What was before the last load that succeeded does not matter. -/
theorem after_sinceLoad {history since : List KeyRequest} {loaded : KeyStore}
    (split : SinceLoad history loaded since) : empty.after history = loaded.after since := by
  obtain ⟨_, ⟨rfl, rfl⟩ | ⟨before, request, rfl, loads⟩⟩ := split
  · rfl
  · simp only [after, List.foldl_append, List.foldl_cons]
    rw [perform_of_loaded loads]

theorem find?_after_iff_holds (history : List KeyRequest) (kid : String) (key : PublicKey) :
    (empty.after history).find? kid = some key ↔ Holds history kid key := by
  constructor
  · intro found
    obtain ⟨loaded, since, split⟩ := sinceLoad_exists history
    rw [after_sinceLoad split, find?_after split.1] at found
    exact ⟨loaded, since, split, found⟩
  · rintro ⟨loaded, since, split, latest⟩
    rw [after_sinceLoad split, find?_after split.1]
    exact latest

/-! ### Filling from a folder -/

/-- An entry is added unless it is to hold a key and does not. -/
theorem addEntry_ok_iff (store : KeyStore) (entry : String × FolderEntry) :
    (∃ changed, store.addEntry entry = .ok changed) ↔
      ∀ kid, keyName? entry.1 = some kid -> ∃ key, entryKey? kid entry = some key := by
  obtain ⟨file, content⟩ := entry
  simp only [addEntry, entryKey?]
  cases named : keyName? file with
  | none =>
      constructor
      · intro _ kid same
        cases same
      · intro _
        exact ⟨store, rfl⟩
  | some kid =>
      cases content with
      | folder | unreadable code =>
          constructor
          · rintro ⟨changed, added⟩
            cases added
          · intro holds
            obtain ⟨key, given⟩ := holds kid rfl
            cases given
      | file text =>
          simp only [Option.some.injEq, forall_eq', if_true]
          cases isKey : PublicKey.ofText? text with
          | none => simp [insert_of_no_key isKey]
          | some key => simp [insert_of_key isKey]

theorem addEntries_ok_iff (entries : List (String × FolderEntry)) (store : KeyStore) :
    (∃ changed, entries.foldlM addEntry store = .ok changed) ↔
      ∀ entry ∈ entries, ∀ kid, keyName? entry.1 = some kid ->
        ∃ key, entryKey? kid entry = some key := by
  induction entries generalizing store with
  | nil =>
      constructor
      · intro _ entry absent
        cases absent
      · intro _
        exact ⟨store, rfl⟩
  | cons entry rest hypothesis =>
      rw [List.forall_mem_cons, ← addEntry_ok_iff store entry, List.foldlM_cons]
      cases first : store.addEntry entry with
      | error fault =>
          constructor
          · rintro ⟨changed, added⟩
            cases added
          · rintro ⟨⟨changed, added⟩, _⟩
            cases added
      | ok next =>
          rw [← hypothesis next]
          exact ⟨fun added => ⟨⟨next, rfl⟩, added⟩, fun added => added.2⟩

theorem ofFolder_ok_iff (folder : Folder) :
    (∃ loaded, ofFolder folder = .ok loaded) ↔
      ∃ entries, folder = .ok entries ∧ ∀ entry ∈ entries, ∀ kid, keyName? entry.1 = some kid ->
        ∃ key, entryKey? kid entry = some key := by
  cases folder with
  | error code =>
      constructor
      · rintro ⟨loaded, filled⟩
        cases filled
      · rintro ⟨entries, same, _⟩
        cases same
  | ok entries =>
      simp only [Except.ok.injEq, exists_eq_left']
      exact addEntries_ok_iff entries empty

end KeyStore

/-! ## Tokens -/

namespace Verifier

/-- Of a store, only the key under the identifier that a token names has a say in the verdict. -/
theorem authenticate_of_same_key (verifier : Verifier) {keys : KeyStore} {now : Moment}
    {header : String} {token : Bytes} {parts : TokenParts} {algorithm : Algorithm} {kid : String}
    (found : token? header = some token) (split : TokenParts.ofToken? token = some parts)
    (named : readHeader? parts = some ⟨algorithm, some kid⟩)
    (same : keys.find? kid = verifier.keys.find? kid) :
    { verifier with keys }.authenticate now header = verifier.authenticate now header := by
  simp only [authenticate, found, split, named, same]
  rfl

end Verifier

/-! ## A store and its history -/

namespace KeyStore

/-- What a store holds, answers and lets verify at the end of a history. -/
structure Tracks (history : List KeyRequest) (store : KeyStore) : Prop where
  held : ∀ kid key, store.find? kid = some key ↔ Holds history kid key
  found : ∀ kid key, Holds history kid key -> store.perform (.lookup kid) = (store, .found key)
  missing : ∀ kid, (∀ key, ¬ Holds history kid key) ->
    store.perform (.lookup kid) = (store, .missing ("no public key for kid `" ++ kid ++ "`"))
  stored : ∀ kid text key, PublicKey.ofText? text = some key ->
    ∃ changed, store.perform (.insert kid text) = (changed, .stored) ∧
      changed.find? kid = some key ∧ ∀ other, other ≠ kid -> changed.find? other = store.find? other
  refused : ∀ kid text, PublicKey.ofText? text = none ->
    store.perform (.insert kid text) = (store, .refused (.unreadable kid))
  loaded : ∀ folder loaded, ofFolder folder = .ok loaded ->
    store.perform (.load folder) = (loaded, .stored)
  /-- A load holds what the files named for keys do. -/
  fills : ∀ entries loaded, ofFolder (.ok entries) = .ok loaded ->
    ∀ kid key, loaded.find? kid = some key ↔ LastOf (entryKey? kid) entries key
  /-- A folder loads if all files named for keys are keys. -/
  loads : ∀ folder, (∃ loaded, ofFolder folder = .ok loaded) ↔
    ∃ entries, folder = .ok entries ∧ ∀ entry ∈ entries, ∀ kid, keyName? entry.1 = some kid ->
      ∃ key, entryKey? kid entry = some key
  notLoaded : ∀ folder fault, ofFolder folder = .error fault ->
    store.perform (.load folder) = (store, .refused fault)
  size : ∃ kids : List String, kids.Nodup ∧ (∀ kid, kid ∈ kids ↔ ∃ key, Holds history kid key) ∧
    store.size = kids.length
  isEmpty : store.isEmpty = true ↔ store.size = 0
  /-- An accepted token is signed for the key that is held. -/
  verifies : ∀ (verifier : Verifier) (now : Moment) (header : String) (claims : Claims),
    { verifier with keys := store }.authenticate now header = .ok claims ->
      ∃ token parts kid key signature, Verifier.token? header = some token ∧
        TokenParts.ofToken? token = some parts ∧
        Verifier.readHeader? parts = some ⟨.rs256, some kid⟩ ∧ Holds history kid key ∧
        Base64.decode? Base64.url parts.signature = some signature ∧
        key.verifies parts.message signature = true
  /-- Whatever else is held, the verdict on a token is the same. -/
  decides : ∀ (verifier : Verifier) (now : Moment) (header : String) (token : Bytes)
    (parts : TokenParts) (algorithm : Algorithm) (kid : String) (other : KeyStore),
    Verifier.token? header = some token -> TokenParts.ofToken? token = some parts ->
      Verifier.readHeader? parts = some ⟨algorithm, some kid⟩ ->
      (∀ key, other.find? kid = some key ↔ Holds history kid key) ->
        { verifier with keys := other }.authenticate now header =
          { verifier with keys := store }.authenticate now header

/-- **A store holds what its history says**, under every identifier the last key that was stored
since the last load, whatever failed in between. -/
theorem after_tracks (history : List KeyRequest) :
    Tracks history (empty.after history) := by
  have held := find?_after_iff_holds history
  generalize empty.after history = store at held ⊢
  refine {
    held := held, found := ?found, missing := ?missing, stored := ?stored, refused := ?refused
    loaded := ?loaded, fills := fun _ _ filled => find?_ofFolder filled
    loads := ofFolder_ok_iff, notLoaded := ?notLoaded, size := ?size, isEmpty := ?isEmpty
    verifies := ?verifies, decides := ?decides }
  case found => exact fun kid key holds => perform_lookup_of_some ((held kid key).mpr holds)
  case missing =>
    intro kid absent
    cases present : store.find? kid with
    | none => exact perform_lookup_of_none present
    | some key => exact absurd ((held kid key).mp present) (absent key)
  case stored =>
    intro kid text key isKey
    have inserted : store.insert kid text = .ok ⟨store.keys.insert kid key⟩ := insert_of_key isKey
    refine ⟨⟨store.keys.insert kid key⟩, ?_, ?_, ?_⟩
    · rw [perform, inserted, settle]
    · rw [find?_insert inserted, if_pos rfl, isKey, Option.some_or]
    · intro other different
      rw [find?_insert inserted, if_neg (Ne.symm different), Option.none_or]
  case refused =>
    intro kid text noKey
    rw [perform, insert_of_no_key noKey, settle]
  case loaded =>
    intro folder loaded filled
    rw [perform, filled, settle]
  case notLoaded =>
    intro folder fault failed
    rw [perform, failed, settle]
  case size =>
    refine ⟨store.keys.keys, store.keys.nodup_keys, ?_, (List.length_map _).symm⟩
    intro kid
    rw [store.keys.mem_keys]
    exact exists_congr (held kid)
  case isEmpty => exact List.isEmpty_iff.trans List.length_eq_zero_iff.symm
  case verifies =>
    intro verifier now header claims accepted
    obtain ⟨token, parts, kid, key, signature, _, found, verified⟩ :=
      Verifier.verified_of_authenticate accepted
    exact ⟨token, parts, kid, key, signature, found, verified.split, verified.named,
      (held kid key).mp verified.stored, verified.decodes, verified.signed⟩
  case decides =>
    intro verifier now header token parts algorithm kid other found split named holds
    have same : other.find? kid = store.find? kid :=
      Option.ext fun key => (holds key).trans (held kid key).symm
    exact Verifier.authenticate_of_same_key { verifier with keys := store } found split named same

example :
    let key := Bytes.ofText Verifier.sampleKeyText
    let store := empty.after
      [.insert "old" key, .load (.ok [("new.pem", .file key), ("notes", .folder)]),
        .insert "new" [], .load (.ok [("bad.pem", .folder)])]
    store.size = 1 ∧ (store.perform (.lookup "old")).2 = .missing "no public key for kid `old`" := by
  decide +kernel

end KeyStore

end HttpService
