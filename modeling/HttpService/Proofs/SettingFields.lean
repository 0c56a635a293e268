import HttpService.Proofs.SettingTrees
import HttpService.Settings
/-! # What a source says of a field

The settings have ten fields in two sections. An entry of a source gives a field its value at the
whole path, or in a table for the section (`Field.given`); unless it puts something else in the place
of the section or something beneath the field (`Field.isSparedBy`), that is all it does to the field:
`fieldAt?_addSource`. The environment is such a source: `given_ofEnvironment`. -/
set_option autoImplicit false

namespace HttpService.Settings

open Setting (laid lowered pathOf unset valuesOf)

inductive Field where
  | apiHost
  | debugHost
  | readTimeout
  | writeTimeout
  | idleTimeout
  | shutdownTimeout
  | maxBodyBytes
  | keysFolder
  | issuer
  | leeway
deriving DecidableEq

inductive FieldValue where
  | text (value : String)
  | number (value : Nat)
deriving DecidableEq

namespace Field

def group : Field -> String
  | .keysFolder | .issuer | .leeway => "auth"
  | _ => "web"

def name : Field -> String
  | .apiHost => "api_host"
  | .debugHost => "debug_host"
  | .readTimeout => "read_timeout_secs"
  | .writeTimeout => "write_timeout_secs"
  | .idleTimeout => "idle_timeout_secs"
  | .shutdownTimeout => "shutdown_timeout_secs"
  | .maxBodyBytes => "max_body_bytes"
  | .keysFolder => "keys_folder"
  | .issuer => "issuer"
  | .leeway => "leeway_secs"

def path (field : Field) : String := field.group ++ "." ++ field.name

def isText : Field -> Bool
  | .apiHost | .debugHost | .keysFolder | .issuer => true
  | _ => false

def held (settings : Settings) : Field -> FieldValue
  | .apiHost => .text settings.web.apiHost
  | .debugHost => .text settings.web.debugHost
  | .readTimeout => .number settings.web.readTimeout
  | .writeTimeout => .number settings.web.writeTimeout
  | .idleTimeout => .number settings.web.idleTimeout
  | .shutdownTimeout => .number settings.web.shutdownTimeout
  | .maxBodyBytes => .number settings.web.maxBodyBytes
  | .keysFolder => .text settings.auth.keysFolder
  | .issuer => .text settings.auth.issuer
  | .leeway => .number settings.auth.leeway

/-! ## What a source gives -/

/-- What a value put at the rest of a path gives for a field in whose section it is put. -/
def givenWithin (field : Field) : List Setting.Step -> Setting -> List Setting
  | [], value => valuesOf field.name value.members
  | [.member name], value => if lowered name = field.name then [value] else []
  | _, _ => []

def givenBy (field : Field) (entry : String × Setting) : List Setting :=
  match pathOf entry.1 with
  | .member group :: rest =>
      if lowered group = field.group then field.givenWithin rest entry.2 else []
  | _ => []

def given (field : Field) (source : List (String × Setting)) : List Setting :=
  source.flatMap field.givenBy

/-- Does a value put at the rest of a path leave the section a table, and the field without parts? -/
def isSparedWithin (field : Field) : List Setting.Step -> Setting -> Bool
  | [], value => value.isTable
  | .member name :: rest, _ => lowered name != field.name || rest.isEmpty
  | .index _ :: _, _ => false

def isSparedBy (field : Field) (entry : String × Setting) : Bool :=
  match pathOf entry.1 with
  | .member group :: rest => lowered group != field.group || field.isSparedWithin rest entry.2
  | _ => true

/-- A source says at most one thing of a field, and nothing of its section or its parts. -/
def IsClearIn (field : Field) (source : List (String × Setting)) : Prop :=
  (∀ entry ∈ source, field.isSparedBy entry) ∧ (field.given source).length ≤ 1

instance (field : Field) (source : List (String × Setting)) : Decidable (field.IsClearIn source) :=
  inferInstanceAs (Decidable (_ ∧ _))

end Field

def fieldAt? (root : Setting) (field : Field) : Option Setting :=
  ((root.member? field.group).getD unset).member? field.name

def IsOpen (root : Setting) (field : Field) : Prop :=
  ∀ setting, root.member? field.group = some setting -> setting.isTable

theorem lowered_group (field : Field) : lowered field.group = field.group := by
  cases field <;> decide +kernel

theorem lowered_name (field : Field) : lowered field.name = field.name := by
  cases field <;> decide +kernel

theorem member?_assignAt_group {field : Field} {group : String} (same : lowered group = field.group)
    (value : Setting) (rest : List Setting.Step) (root : Setting) :
    (Setting.assignAt value (.member group :: rest) root).member? field.group =
      some (if rest = [] then Setting.merged (root.member? field.group) value
        else Setting.assignAt value rest ((root.member? field.group).getD unset)) := by
  have lower : lowered group = lowered field.group := by rw [same, lowered_group]
  cases rest with
  | nil => exact Setting.member?_assignAt_last value root lower
  | cons step rest => exact Setting.member?_assignAt_next value step rest root lower

theorem isOpen_assignAt {root : Setting} {field : Field} {group : String}
    {rest : List Setting.Step} {value : Setting}
    (spared : lowered group = field.group -> field.isSparedWithin rest value)
    (isOpen : IsOpen root field) :
    IsOpen (Setting.assignAt value (.member group :: rest) root) field := by
  intro setting found
  by_cases same : lowered group = field.group
  · rw [member?_assignAt_group same] at found
    have spared := spared same
    cases rest with
    | nil =>
      cases value with
      | leaf => cases spared
      | list => cases spared
      | table origin members =>
        rw [← Option.some.inj found]
        exact Setting.isTable_merged isOpen origin members
    | cons step rest =>
      cases step with
      | index => cases spared
      | member name =>
        rw [← Option.some.inj found]
        exact Setting.isTable_assignAt value name rest _
  · rw [Setting.member?_assignAt_of_ne value rest root (by rw [lowered_group]; exact same)] at found
    exact isOpen setting found

theorem fieldAt?_assignAt {field : Field} {group : String} {rest : List Setting.Step}
    {value : Setting} (same : lowered group = field.group)
    (spared : field.isSparedWithin rest value) (root : Setting) :
    fieldAt? (Setting.assignAt value (.member group :: rest) root) field =
      (field.givenWithin rest value).foldl laid (fieldAt? root field) := by
  unfold fieldAt?
  rw [member?_assignAt_group same, Option.getD_some]
  cases rest with
  | nil => exact Setting.member?_merged _ value spared field.name
  | cons step rest =>
    rw [if_neg (List.cons_ne_nil step rest)]
    cases step with
    | index => cases spared
    | member name =>
      by_cases named : lowered name = field.name
      · have last : rest = [] := by simpa [Field.isSparedWithin, named] using spared
        subst last
        rw [Field.givenWithin, if_pos named]
        exact Setting.member?_assignAt_last value _ (by rw [named, lowered_name])
      · -- Another member of the section is given, or something beneath it.
        rw [Setting.member?_assignAt_of_ne value rest _ (by rw [lowered_name]; exact named)]
        cases rest with
        | nil => rw [Field.givenWithin, if_neg named]; rfl
        | cons => rfl

theorem fieldAt?_assignAt_of_ne {field : Field} {group : String} (other : lowered group ≠ field.group)
    (value : Setting) (rest : List Setting.Step) (root : Setting) :
    fieldAt? (Setting.assignAt value (.member group :: rest) root) field = fieldAt? root field := by
  unfold fieldAt?
  rw [Setting.member?_assignAt_of_ne value rest root (by rw [lowered_group]; exact other)]

theorem isOpen_assign {field : Field} {entry : String × Setting}
    (spared : field.isSparedBy entry) {root : Setting} (isOpen : IsOpen root field) :
    IsOpen (root.assign entry.1 entry.2) field := by
  obtain ⟨group, rest, eq⟩ := Setting.pathOf_member entry.1
  unfold Field.isSparedBy at spared
  rw [eq] at spared
  unfold Setting.assign
  rw [eq]
  exact isOpen_assignAt (fun same => by simpa [same] using spared) isOpen

theorem fieldAt?_assign {field : Field} {entry : String × Setting}
    (spared : field.isSparedBy entry) (root : Setting) :
    fieldAt? (root.assign entry.1 entry.2) field =
      (field.givenBy entry).foldl laid (fieldAt? root field) := by
  obtain ⟨group, rest, eq⟩ := Setting.pathOf_member entry.1
  unfold Field.isSparedBy at spared
  unfold Setting.assign Field.givenBy
  rw [eq] at spared ⊢
  by_cases same : lowered group = field.group
  · rw [fieldAt?_assignAt same (by simpa [same] using spared)]
    simp only [if_pos same]
  · rw [fieldAt?_assignAt_of_ne same]
    simp only [if_neg same]
    rfl

theorem isOpen_addSource {field : Field} {source : List (String × Setting)}
    (spared : ∀ entry ∈ source, field.isSparedBy entry) {root : Setting}
    (isOpen : IsOpen root field) : IsOpen (root.addSource source) field := by
  induction source generalizing root with
  | nil => exact isOpen
  | cons entry rest hypothesis =>
    exact hypothesis (fun other member => spared other (List.mem_cons_of_mem _ member))
      (isOpen_assign (spared entry List.mem_cons_self) isOpen)

/-- The values that a source gives for a field are laid upon the one before, in order. -/
theorem fieldAt?_addSource {field : Field} {source : List (String × Setting)}
    (spared : ∀ entry ∈ source, field.isSparedBy entry) (root : Setting) :
    fieldAt? (root.addSource source) field =
      (field.given source).foldl laid (fieldAt? root field) := by
  induction source generalizing root with
  | nil => rfl
  | cons entry rest hypothesis =>
    have first := fieldAt?_assign (spared entry List.mem_cons_self) root
    rw [Field.given, List.flatMap_cons, List.foldl_append, ← first]
    exact hypothesis (fun other member => spared other (List.mem_cons_of_mem _ member))
      (root.assign entry.1 entry.2)

/-! ## The environment -/

def variableEntries (environment : List (String × String)) : List (String × Setting) :=
  environment.filterMap fun entry => (pathOfVariable? entry.1).map fun path =>
    (path, .leaf (some environmentOrigin) (.text entry.2))

theorem ofEnvironment_eq (environment : List (String × String)) :
    ofEnvironment environment = (Dictionary.ofList (variableEntries environment)).entries := by
  unfold ofEnvironment Dictionary.ofList variableEntries
  congr 1
  generalize Dictionary.empty = table
  induction environment generalizing table with
  | nil => rfl
  | cons entry rest hypothesis =>
    obtain ⟨name, value⟩ := entry
    simp only [List.foldl_cons, List.filterMap_cons]
    cases pathOfVariable? name with
    | none => exact hypothesis table
    | some path => exact hypothesis _

theorem isTable_variableEntries {environment : List (String × String)} {entry : String × Setting}
    (member : entry ∈ variableEntries environment) : entry.2.isTable = false := by
  obtain ⟨pair, _, made⟩ := List.mem_filterMap.mp member
  obtain ⟨path, _, rfl⟩ := Option.map_eq_some_iff.mp made
  rfl

namespace Field

def isAt (field : Field) (path : String) : Bool :=
  match pathOf path with
  | [.member group, .member name] => lowered group = field.group && lowered name = field.name
  | _ => false

theorem givenBy_of_not_table (field : Field) {entry : String × Setting}
    (leaf : entry.2.isTable = false) :
    field.givenBy entry = if field.isAt entry.1 then [entry.2] else [] := by
  have bare : entry.2.members = [] := by
    cases kind : entry.2 with
    | leaf => rfl
    | list => rfl
    | table => rw [kind] at leaf; cases leaf
  unfold givenBy isAt
  obtain ⟨group, rest, eq⟩ := Setting.pathOf_member entry.1
  rw [eq]
  match rest with
  | [] => simp [givenWithin, bare, valuesOf]
  | [.member name] => by_cases same : lowered group = field.group <;> simp [givenWithin, same]
  | [.index _] | .member _ :: _ :: _ | .index _ :: _ :: _ => simp [givenWithin]

theorem given_of_not_tables (field : Field) {source : List (String × Setting)}
    (leaves : ∀ entry ∈ source, entry.2.isTable = false) :
    field.given source = (source.filter fun entry => field.isAt entry.1).map Prod.snd := by
  induction source with
  | nil => rfl
  | cons entry rest hypothesis =>
    rw [given, List.flatMap_cons, field.givenBy_of_not_table (leaves entry List.mem_cons_self)]
    have below := hypothesis fun other member => leaves other (List.mem_cons_of_mem _ member)
    rw [given] at below
    rw [below, List.filter_cons]
    split <;> rfl

end Field

theorem mem_ofEnvironment {environment : List (String × String)} {entry : String × Setting}
    (member : entry ∈ ofEnvironment environment) : entry ∈ variableEntries environment := by
  rw [ofEnvironment_eq] at member
  exact Dictionary.mem_ofList member

theorem given_ofEnvironment {field : Field} {environment : List (String × String)}
    (once : (field.given (variableEntries environment)).length ≤ 1) :
    field.given (ofEnvironment environment) = field.given (variableEntries environment) := by
  have leaves : ∀ entry ∈ variableEntries environment, entry.2.isTable = false :=
    fun entry member => isTable_variableEntries member
  rw [field.given_of_not_tables leaves] at once ⊢
  rw [field.given_of_not_tables fun entry member => leaves entry (mem_ofEnvironment member),
    ofEnvironment_eq, Dictionary.filter_ofList field.isAt (by simpa using once)]

/-- In another order a source gives the same, if it says one thing of a field at most. -/
theorem given_perm {field : Field} {source other : List (String × Setting)}
    (once : (field.given source).length ≤ 1) (reordered : other.Perm source) :
    field.given other = field.given source := by
  have permuted : (field.given other).Perm (field.given source) := reordered.flatMap_right _
  match field.given source, once, permuted with
  | [], _, permuted => exact permuted.eq_nil
  | [value], _, permuted => exact List.perm_singleton.mp permuted

theorem isClearIn_perm {field : Field} {source other : List (String × Setting)}
    (clear : field.IsClearIn source) (reordered : other.Perm source) : field.IsClearIn other := by
  obtain ⟨spared, once⟩ := clear
  refine ⟨fun entry member => spared entry (reordered.mem_iff.mp member), ?_⟩
  rw [given_perm once reordered]
  exact once

/-! ## Names of variables -/

namespace Field

def variableName (field : Field) : String :=
  "WARD_" ++ String.ofList (field.group.toList.map Char.toUpper) ++ "__" ++
    String.ofList (field.name.toList.map Char.toUpper)

theorem pathOfVariable?_variableName (field : Field) :
    pathOfVariable? field.variableName = some field.path := by
  cases field <;> decide +kernel

theorem pathOf_path (field : Field) :
    pathOf field.path = [.member field.group, .member field.name] := by
  cases field <;> decide +kernel

def all : List Field := [.apiHost, .debugHost, .readTimeout, .writeTimeout, .idleTimeout,
  .shutdownTimeout, .maxBodyBytes, .keysFolder, .issuer, .leeway]

theorem mem_all (field : Field) : field ∈ all := by
  cases field <;> decide

theorem find_name (field : Field) :
    (all.find? fun other => other.name == field.name) = some field := by
  cases field <;> decide +kernel

theorem eq_of_name {field other : Field} (same : field.name = other.name) : field = other := by
  have found := find_name field
  rw [same, find_name other] at found
  exact (Option.some.inj found).symm

theorem isAt_path (field other : Field) : field.isAt other.path = decide (field = other) := by
  rw [isAt, pathOf_path]
  simp only [lowered_group, lowered_name]
  by_cases same : field = other
  · subst same
    simp
  · have different : ¬ other.name = field.name := fun named => same (eq_of_name named.symm)
    simp [same, different]

theorem given_variableName (field other : Field) (text : String) :
    field.given (variableEntries [(other.variableName, text)]) =
      if field = other then [.leaf (some environmentOrigin) (.text text)] else [] := by
  rw [field.given_of_not_tables fun entry member => isTable_variableEntries member, variableEntries,
    List.filterMap_cons, pathOfVariable?_variableName]
  by_cases same : field = other <;> simp [isAt_path, same]

end Field

end HttpService.Settings
