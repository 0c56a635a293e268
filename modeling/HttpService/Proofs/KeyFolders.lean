import HttpService.Proofs.KeyHistories
import Mathlib.Data.List.Nodup
/-! # Key stores from a folder

A folder is listed in any order, but its names are distinct, and distinct names of key files have
distinct stems. So each key file has an identifier of its own, nothing is overwritten, and every
listing of one folder fills the same store: `KeyStore.ofFolder_unordered`. -/
set_option autoImplicit false

namespace HttpService

/-! ## File names -/

/-- The name is a stem, which is not empty, a point, and an extension without points. -/
def Extended (name stem extension : String) : Prop :=
  name = stem ++ "." ++ extension ∧ stem ≠ "" ∧ '.' ∉ extension.toList

theorem extended_pem_iff (name kid : String) :
    Extended name kid "pem" ↔ name = kid ++ ".pem" ∧ kid ≠ "" := by
  have joined : kid ++ "." ++ "pem" = kid ++ ".pem" := String.append_assoc
  have pointless : '.' ∉ "pem".toList := by decide
  rw [Extended, joined]
  exact ⟨fun parts => ⟨parts.1, parts.2.1⟩, fun parts => ⟨parts.1, parts.2, pointless⟩⟩

namespace KeyStore

theorem keyName?_iff (name kid : String) :
    keyName? name = some kid ↔ Extended name kid "pem" := by
  rw [extended_pem_iff]
  -- The name is looked at from its end.
  have written : name = kid ++ ".pem" ↔
      name.toList.reverse = ['m', 'e', 'p', '.'] ++ kid.toList.reverse := by
    rw [← String.toList_inj, ← List.reverse_inj, String.toList_append, List.reverse_append]
    rfl
  rw [written]
  simp only [keyName?]
  constructor
  · intro named
    split at named
    next holds =>
      obtain ⟨begins, longer⟩ := Bool.and_eq_true_iff.mp holds
      obtain ⟨rest, split⟩ := List.isPrefixOf_iff_prefix.mp begins
      have stem : kid.toList = rest.reverse := by
        rw [← split] at named
        rw [← Option.some.inj named, String.toList_ofList]
        rfl
      refine ⟨by rw [stem, List.reverse_reverse, split], ?_⟩
      rintro rfl
      have none : rest = [] := by simpa using stem.symm
      rw [← split, none] at longer
      exact absurd longer (by decide)
    next => cases named
  · rintro ⟨split, different⟩
    have some : kid.toList ≠ [] := fun none => different (String.toList_inj.mp none)
    have longer : 0 < kid.toList.length := List.length_pos_iff.mpr some
    have rest : (['m', 'e', 'p', '.'] ++ kid.toList.reverse).drop 4 = kid.toList.reverse := rfl
    rw [if_pos]
    · rw [split, rest, List.reverse_reverse, String.ofList_toList]
    · rw [split, Bool.and_eq_true_iff]
      refine ⟨List.isPrefixOf_iff_prefix.mpr (List.prefix_append _ _), ?_⟩
      simp only [List.length_append, List.length_reverse, List.length_cons, List.length_nil,
        decide_eq_true_eq]
      omega

theorem keyName?_injective {first second kid : String} (one : keyName? first = some kid)
    (other : keyName? second = some kid) : first = second := by
  rw [keyName?_iff, extended_pem_iff] at one other
  exact one.1.trans other.1.symm

/-! ## Entries -/

def isKeyEntry (entry : String × FolderEntry) : Bool :=
  ".pem".toList.isSuffixOf entry.1.toList && entry.1 != ".pem"

theorem isKeyEntry_iff (entry : String × FolderEntry) :
    isKeyEntry entry = true ↔ ∃ kid, Extended entry.1 kid "pem" := by
  simp only [extended_pem_iff]
  rw [isKeyEntry, Bool.and_eq_true_iff, List.isSuffixOf_iff_suffix, bne_iff_ne]
  constructor
  · rintro ⟨⟨stem, split⟩, different⟩
    have joined : entry.1 = String.ofList stem ++ ".pem" := by
      rw [← String.toList_inj, String.toList_append, String.toList_ofList, split]
    refine ⟨String.ofList stem, joined, ?_⟩
    intro none
    rw [none, String.empty_append] at joined
    exact different joined
  · rintro ⟨kid, split, nonempty⟩
    rw [split, String.toList_append]
    refine ⟨List.suffix_append _ _, ?_⟩
    intro same
    rw [← String.toList_inj, String.toList_append] at same
    exact nonempty (String.toList_inj.mp (List.append_left_eq_self.mp same))

theorem isKeyEntry_eq_isSome (entry : String × FolderEntry) :
    isKeyEntry entry = (keyName? entry.1).isSome := by
  rw [Bool.eq_iff_iff, isKeyEntry_iff, Option.isSome_iff_exists]
  exact exists_congr fun kid => (keyName?_iff entry.1 kid).symm

theorem entryKey?_eq_some_iff (kid : String) (entry : String × FolderEntry) (key : PublicKey) :
    entryKey? kid entry = some key ↔ keyName? entry.1 = some kid ∧
      ∃ text, entry.2 = .file text ∧ PublicKey.ofText? text = some key := by
  obtain ⟨name, content⟩ := entry
  cases content with
  | folder | unreadable code => simp [entryKey?]
  | file text =>
      by_cases named : keyName? name = some kid
      · simp [entryKey?, named]
      · simp [entryKey?, named]

variable {entries listing : List (String × FolderEntry)} {loaded : KeyStore}

/-- Names that are distinct leave no two entries for one identifier, so the last one that counts is
the only one. -/
theorem lastOf_entryKey?_iff (distinct : (entries.map Prod.fst).Nodup) (kid : String)
    (key : PublicKey) :
    LastOf (entryKey? kid) entries key ↔ ∃ entry ∈ entries, entryKey? kid entry = some key := by
  constructor
  · rintro ⟨before, entry, after, rfl, gives, _⟩
    exact ⟨entry, by simp, gives⟩
  · rintro ⟨entry, member, gives⟩
    obtain ⟨before, after, rfl⟩ := List.append_of_mem member
    refine ⟨before, entry, after, rfl, gives, ?_⟩
    intro later behind
    by_contra counts
    obtain ⟨other, alsoGives⟩ := Option.ne_none_iff_exists'.mp counts
    have sameName : entry.1 = later.1 := keyName?_injective
      ((entryKey?_eq_some_iff kid entry key).mp gives).1
      ((entryKey?_eq_some_iff kid later other).mp alsoGives).1
    rw [List.map_append, List.map_cons] at distinct
    have apart := (List.nodup_cons.mp (List.nodup_append.mp distinct).2.1).1
    exact apart (sameName ▸ List.mem_map_of_mem behind)

theorem find?_ofFolder_of_distinct (distinct : (entries.map Prod.fst).Nodup)
    (filled : ofFolder (.ok entries) = .ok loaded) (kid : String) (key : PublicKey) :
    loaded.find? kid = some key ↔
      ∃ name text, (name, .file text) ∈ entries ∧ Extended name kid "pem" ∧
        PublicKey.ofText? text = some key := by
  rw [find?_ofFolder filled, lastOf_entryKey?_iff distinct]
  constructor
  · rintro ⟨⟨name, content⟩, member, gives⟩
    obtain ⟨named, text, rfl, isKey⟩ := (entryKey?_eq_some_iff kid _ key).mp gives
    exact ⟨name, text, member, (keyName?_iff name kid).mp named, isKey⟩
  · rintro ⟨name, text, member, extended, isKey⟩
    have named := (keyName?_iff name kid).mpr extended
    exact ⟨_, member, (entryKey?_eq_some_iff kid _ key).mpr ⟨named, text, rfl, isKey⟩⟩

theorem eq_of_find? {left right : KeyStore}
    (agree : ∀ kid key, left.find? kid = some key ↔ right.find? kid = some key) : left = right := by
  cases left
  cases right
  exact congrArg KeyStore.mk (Dictionary.ext_find? fun kid => Option.ext (agree kid))

def AllKeys (entries : List (String × FolderEntry)) : Prop :=
  ∀ name kid content, (name, content) ∈ entries -> Extended name kid "pem" ->
    ∃ text key, content = .file text ∧ PublicKey.ofText? text = some key

theorem ofFolder_ok_iff_allKeys :
    (∃ loaded, ofFolder (.ok entries) = .ok loaded) ↔ AllKeys entries := by
  rw [ofFolder_ok_iff]
  constructor
  · rintro ⟨_, same, hold⟩ name kid content member extended
    cases same
    obtain ⟨key, gives⟩ := hold _ member kid ((keyName?_iff name kid).mpr extended)
    obtain ⟨_, text, isFile, isKey⟩ := (entryKey?_eq_some_iff kid _ key).mp gives
    exact ⟨text, key, isFile, isKey⟩
  · intro hold
    refine ⟨entries, rfl, ?_⟩
    rintro ⟨name, content⟩ member kid named
    obtain ⟨text, key, isFile, isKey⟩ :=
      hold name kid content member ((keyName?_iff name kid).mp named)
    exact ⟨key, (entryKey?_eq_some_iff kid _ key).mpr ⟨named, text, isFile, isKey⟩⟩

/-- Each identifier of a store stands for one entry that is to hold a key, and conversely. -/
theorem size_ofFolder (distinct : (entries.map Prod.fst).Nodup)
    (filled : ofFolder (.ok entries) = .ok loaded) :
    loaded.size = entries.countP isKeyEntry := by
  have stems : (entries.filterMap fun entry => keyName? entry.1).Nodup := by
    have named := List.Nodup.filterMap (f := keyName?)
      (fun first second kid one other => keyName?_injective one other) distinct
    rwa [List.filterMap_map] at named
  have same : loaded.keys.keys.Perm (entries.filterMap fun entry => keyName? entry.1) := by
    refine (List.perm_ext_iff_of_nodup loaded.keys.nodup_keys stems).mpr ?_
    intro kid
    rw [loaded.keys.mem_keys, List.mem_filterMap]
    constructor
    · rintro ⟨key, found⟩
      obtain ⟨_, entry, _, rfl, gives, _⟩ := (find?_ofFolder filled kid key).mp found
      exact ⟨entry, by simp, ((entryKey?_eq_some_iff kid entry key).mp gives).1⟩
    · rintro ⟨⟨name, content⟩, member, named⟩
      obtain ⟨text, key, rfl, isKey⟩ := ofFolder_ok_iff_allKeys.mp ⟨loaded, filled⟩
        name kid content member ((keyName?_iff name kid).mp named)
      refine ⟨key, (find?_ofFolder filled kid key).mpr ?_⟩
      exact (lastOf_entryKey?_iff distinct kid key).mpr
        ⟨_, member, (entryKey?_eq_some_iff kid _ key).mpr ⟨named, text, rfl, isKey⟩⟩
  calc loaded.size = loaded.keys.keys.length := (List.length_map _).symm
    _ = (entries.filterMap fun entry => keyName? entry.1).length := same.length_eq
    _ = entries.countP fun entry => (keyName? entry.1).isSome := List.length_filterMap_eq_countP
    _ = entries.countP isKeyEntry := by rw [funext isKeyEntry_eq_isSome]

/-! ## Listings -/

theorem addEntry_of_not_isKeyEntry (store : KeyStore) {entry : String × FolderEntry}
    (other : isKeyEntry entry = false) : store.addEntry entry = .ok store := by
  rw [isKeyEntry_eq_isSome, Option.isSome_eq_false_iff, Option.isNone_iff_eq_none] at other
  simp only [addEntry, other]
  rfl

theorem foldlM_filter_isKeyEntry (entries : List (String × FolderEntry)) (store : KeyStore) :
    (entries.filter isKeyEntry).foldlM addEntry store = entries.foldlM addEntry store := by
  induction entries generalizing store with
  | nil => rfl
  | cons entry rest ih =>
      rw [List.foldlM_cons, List.filter_cons]
      cases counts : isKeyEntry entry with
      | true =>
          rw [if_pos rfl, List.foldlM_cons]
          exact bind_congr ih
      | false =>
          rw [if_neg Bool.false_ne_true, addEntry_of_not_isKeyEntry store counts]
          exact ih store

/-- **A store from a folder does not depend on the order of the listing.** In whatever order the
folder is listed, it can be loaded just when every entry with the extension is a file that can be
read and holds a key. The store then has the key of each under its stem and nothing else, as many as
there are such entries; any other listing of the folder gives the same store, and so does one that
leaves all other entries out. -/
theorem ofFolder_unordered (entries : List (String × FolderEntry))
    (distinct : (entries.map Prod.fst).Nodup) (listing : List (String × FolderEntry))
    (listed : listing.Perm entries) :
    ((∃ loaded, ofFolder (.ok listing) = .ok loaded) ↔
      ∀ name kid content, (name, content) ∈ entries -> Extended name kid "pem" ->
        ∃ text key, content = .file text ∧ PublicKey.ofText? text = some key) ∧
    ofFolder (.ok (listing.filter isKeyEntry)) = ofFolder (.ok listing) ∧
    ∀ loaded, ofFolder (.ok listing) = .ok loaded ->
      (∀ kid key, loaded.find? kid = some key ↔
        ∃ name text, (name, .file text) ∈ entries ∧ Extended name kid "pem" ∧
          PublicKey.ofText? text = some key) ∧
      (∀ name kid content, (name, content) ∈ entries -> Extended name kid "pem" ->
        (loaded.find? kid).isSome) ∧
      loaded.size = entries.countP isKeyEntry ∧
      ∀ other, other.Perm entries -> ofFolder (.ok other) = .ok loaded := by
  have found (other : List (String × FolderEntry)) (perm : other.Perm entries) (store : KeyStore)
      (filled : ofFolder (.ok other) = .ok store) (kid : String) (key : PublicKey) :
      store.find? kid = some key ↔ ∃ name text, (name, .file text) ∈ entries ∧
        Extended name kid "pem" ∧ PublicKey.ofText? text = some key := by
    rw [find?_ofFolder_of_distinct ((perm.map Prod.fst).nodup_iff.mpr distinct) filled]
    simp only [perm.mem_iff]
  have loads (other : List (String × FolderEntry)) (perm : other.Perm entries) :
      (∃ loaded, ofFolder (.ok other) = .ok loaded) ↔ AllKeys entries := by
    rw [ofFolder_ok_iff_allKeys]
    simp only [AllKeys, perm.mem_iff]
  refine ⟨loads listing listed, foldlM_filter_isKeyEntry listing empty, ?_⟩
  intro loaded filled
  refine ⟨found listing listed loaded filled, ?held, ?size, ?again⟩
  case held =>
    intro name kid content member extended
    obtain ⟨text, key, rfl, isKey⟩ :=
      (loads listing listed).mp ⟨loaded, filled⟩ name kid content member extended
    rw [(found listing listed loaded filled kid key).mpr ⟨name, text, member, extended, isKey⟩]
    rfl
  case size =>
    rw [← listed.countP_eq]
    exact size_ofFolder ((listed.map Prod.fst).nodup_iff.mpr distinct) filled
  case again =>
    intro other perm
    obtain ⟨store, alsoFilled⟩ := (loads other perm).mpr ((loads listing listed).mp ⟨loaded, filled⟩)
    have same : store = loaded := eq_of_find? fun kid key =>
      (found other perm store alsoFilled kid key).trans (found listing listed loaded filled kid key).symm
    rw [alsoFilled, same]

def dottedFolder : List (String × FolderEntry) :=
  let key := .file (Bytes.ofText Verifier.sampleKeyText)
  [("a.b.pem", key), ("a.pem.pem", key), (".pem", .folder), ("a.PEM", .file []),
    ("notes", .unreadable 13)]

theorem ofFolder_unordered_dotted :
    (dottedFolder.map Prod.fst).Nodup ∧ dottedFolder.reverse.Perm dottedFolder ∧
      ∃ loaded, ofFolder (.ok dottedFolder.reverse) = .ok loaded ∧ loaded.size = 2 ∧
        (loaded.find? "a.b").isSome ∧ (loaded.find? "a.pem").isSome ∧
        ofFolder (.ok dottedFolder) = .ok loaded := by
  have distinct : (dottedFolder.map Prod.fst).Nodup := by decide
  have listed : dottedFolder.reverse.Perm dottedFolder := List.reverse_perm dottedFolder
  obtain ⟨-, -, fills⟩ := ofFolder_unordered dottedFolder distinct dottedFolder.reverse listed
  have loads : (ofFolder (.ok dottedFolder.reverse)).toOption.isSome = true := by decide +kernel
  obtain ⟨loaded, filled⟩ := Option.isSome_iff_exists.mp loads
  have filled := Verifier.eq_ok_of_toOption filled
  obtain ⟨-, held, size, again⟩ := fills loaded filled
  refine ⟨distinct, listed, loaded, filled, size.trans (by decide), ?_, ?_,
    again dottedFolder (.refl _)⟩
  · exact held "a.b.pem" "a.b" _ (by simp [dottedFolder]; rfl)
      ((extended_pem_iff _ _).mpr ⟨rfl, by decide⟩)
  · exact held "a.pem.pem" "a.pem" _ (by simp [dottedFolder]; rfl)
      ((extended_pem_iff _ _).mpr ⟨rfl, by decide⟩)

end KeyStore

end HttpService
