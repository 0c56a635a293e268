import HttpService.Proofs.SettingFields
/-! # Settings in layers

Three sources give the settings, each lying upon the ones before it. A field's value is that of the
last source that gives it (`Field.winner`), whatever is given for the other fields: `load_layered`. -/
set_option autoImplicit false

namespace HttpService.Settings

open Setting (laid unset)

/-! ## Reading the fields -/

def Field.read (field : Field) (setting : Setting) : Except SettingsError FieldValue :=
  if field.isText then do return .text (← setting.toText field.path)
  else do return .number (← setting.toUnsigned field.path)

def webFrom (value : Field -> Setting) : Except SettingsError WebSettings := do
  return {
    apiHost := ← (value .apiHost).toText Field.apiHost.path
    debugHost := ← (value .debugHost).toText Field.debugHost.path
    readTimeout := ← (value .readTimeout).toUnsigned Field.readTimeout.path
    writeTimeout := ← (value .writeTimeout).toUnsigned Field.writeTimeout.path
    idleTimeout := ← (value .idleTimeout).toUnsigned Field.idleTimeout.path
    shutdownTimeout := ← (value .shutdownTimeout).toUnsigned Field.shutdownTimeout.path
    maxBodyBytes := ← (value .maxBodyBytes).toUnsigned Field.maxBodyBytes.path }

def authFrom (value : Field -> Setting) : Except SettingsError AuthSettings := do
  return {
    keysFolder := ← (value .keysFolder).toText Field.keysFolder.path
    issuer := ← (value .issuer).toText Field.issuer.path
    leeway := ← (value .leeway).toUnsigned Field.leeway.path }

def ofFields (value : Field -> Setting) : Except SettingsError Settings := do
  return { web := ← webFrom value, auth := ← authFrom value }

def Shows (setting : Setting) (key : String) (value : Field -> Setting) : Prop :=
  setting.isTable ∧
    ∀ field : Field, field.group = key -> setting.member? field.name = some (value field)

theorem groupOf_shows {setting : Setting} {key : String} {value : Field -> Setting}
    (shows : Shows setting key value) (name : String) (size : Nat) :
    ∃ group, groupOf setting key name size = pure group ∧ ∀ place (field : Field),
      field.group = key ->
        (group.text? place field.name = do return some (← (value field).toText field.path)) ∧
        (group.number? place field.name = do
          return some (← (value field).toUnsigned field.path)) := by
  obtain ⟨table, holds⟩ := shows
  cases setting with
  | leaf => cases table
  | list => cases table
  | table origin members =>
    refine ⟨_, rfl, ?_⟩
    intro place field same
    subst same
    simp only [Group.text?, Group.number?, holds field rfl, Option.map_some]
    exact ⟨rfl, rfl⟩

theorem webOf_shows {setting : Setting} {value : Field -> Setting}
    (shows : Shows setting "web" value) : webOf setting = webFrom value := by
  obtain ⟨group, opened, reads⟩ := groupOf_shows shows "WebSettings" 7
  have apiHost : group.text? 0 "api_host" = _ := (reads 0 .apiHost rfl).1
  have debugHost : group.text? 1 "debug_host" = _ := (reads 1 .debugHost rfl).1
  have readTimeout : group.number? 2 "read_timeout_secs" = _ := (reads 2 .readTimeout rfl).2
  have writeTimeout : group.number? 3 "write_timeout_secs" = _ := (reads 3 .writeTimeout rfl).2
  have idleTimeout : group.number? 4 "idle_timeout_secs" = _ := (reads 4 .idleTimeout rfl).2
  have shutdownTimeout : group.number? 5 "shutdown_timeout_secs" = _ :=
    (reads 5 .shutdownTimeout rfl).2
  have maxBodyBytes : group.number? 6 "max_body_bytes" = _ := (reads 6 .maxBodyBytes rfl).2
  simp only [webOf, webFrom, opened, apiHost, debugHost, readTimeout, writeTimeout, idleTimeout,
    shutdownTimeout, maxBodyBytes, Group.required, bind_assoc, pure_bind]

theorem authOf_shows {setting : Setting} {value : Field -> Setting}
    (shows : Shows setting "auth" value) : authOf setting = authFrom value := by
  obtain ⟨group, opened, reads⟩ := groupOf_shows shows "AuthSettings" 3
  have keysFolder : group.text? 0 "keys_folder" = _ := (reads 0 .keysFolder rfl).1
  have issuer : group.text? 1 "issuer" = _ := (reads 1 .issuer rfl).1
  have leeway : group.number? 2 "leeway_secs" = _ := (reads 2 .leeway rfl).2
  simp only [authOf, authFrom, opened, keysFolder, issuer, leeway, Group.required, bind_assoc,
    pure_bind]

theorem exists_section {root : Setting} {value : Field -> Setting}
    (isOpen : ∀ field, IsOpen root field)
    (reached : ∀ field, fieldAt? root field = some (value field)) (field : Field) :
    ∃ setting, root.member? field.group = some setting ∧ Shows setting field.group value := by
  have found := reached field
  unfold fieldAt? at found
  cases present : root.member? field.group with
  | none => rw [present] at found; cases found
  | some setting =>
    refine ⟨setting, rfl, isOpen field setting present, ?_⟩
    intro other same
    have foundOther := reached other
    unfold fieldAt? at foundOther
    rwa [same, present] at foundOther

theorem ofSetting_eq {root : Setting} {value : Field -> Setting}
    (isOpen : ∀ field, IsOpen root field)
    (reached : ∀ field, fieldAt? root field = some (value field)) :
    ofSetting root = ofFields value := by
  obtain ⟨web, webFound, webShows⟩ := exists_section isOpen reached .apiHost
  obtain ⟨auth, authFound, authShows⟩ := exists_section isOpen reached .issuer
  have webPart : root.member? "web" = some web := webFound
  have authPart : root.member? "auth" = some auth := authFound
  simp only [ofSetting, ofFields, webPart, authPart, webOf_shows webShows, authOf_shows authShows,
    pure_bind]

/-! ## Outcomes -/

/-- A result holds what each field is read as, or it fails as one of them does. -/
def Follows (value : Field -> Setting) (result : Except SettingsError Settings) : Prop :=
  match result with
  | .ok settings => ∀ field : Field, field.read (value field) = .ok (field.held settings)
  | .error error => ∃ field : Field, field.read (value field) = .error error

theorem follows_bind {α : Type} {value : Field -> Setting} (field : Field) (holds : α -> FieldValue)
    {outcome : Except SettingsError α} {next : α -> Except SettingsError Settings}
    (reads : field.read (value field) = do return holds (← outcome))
    (rest : ∀ found, field.read (value field) = .ok (holds found) -> Follows value (next found)) :
    Follows value (outcome >>= next) := by
  cases outcome with
  | error error => exact ⟨field, reads⟩
  | ok found => exact rest found reads

theorem ofFields_follows (value : Field -> Setting) : Follows value (ofFields value) := by
  simp only [ofFields, webFrom, authFrom, bind_assoc, pure_bind]
  refine follows_bind .apiHost .text rfl fun apiHost apiHostRead => ?_
  refine follows_bind .debugHost .text rfl fun debugHost debugHostRead => ?_
  refine follows_bind .readTimeout .number rfl fun readTimeout readTimeoutRead => ?_
  refine follows_bind .writeTimeout .number rfl fun writeTimeout writeTimeoutRead => ?_
  refine follows_bind .idleTimeout .number rfl fun idleTimeout idleTimeoutRead => ?_
  refine follows_bind .shutdownTimeout .number rfl fun shutdownTimeout shutdownTimeoutRead => ?_
  refine follows_bind .maxBodyBytes .number rfl fun maxBodyBytes maxBodyBytesRead => ?_
  refine follows_bind .keysFolder .text rfl fun keysFolder keysFolderRead => ?_
  refine follows_bind .issuer .text rfl fun issuer issuerRead => ?_
  refine follows_bind .leeway .number rfl fun leeway leewayRead => ?_
  intro field
  cases field with
  | apiHost => exact apiHostRead
  | debugHost => exact debugHostRead
  | readTimeout => exact readTimeoutRead
  | writeTimeout => exact writeTimeoutRead
  | idleTimeout => exact idleTimeoutRead
  | shutdownTimeout => exact shutdownTimeoutRead
  | maxBodyBytes => exact maxBodyBytesRead
  | keysFolder => exact keysFolderRead
  | issuer => exact issuerRead
  | leeway => exact leewayRead

/-! ## Layers -/

def layered (present : Setting) (values : List Setting) : Setting :=
  values.foldl (fun present value => Setting.merged (some present) value) present

theorem foldl_laid (present : Setting) (values : List Setting) :
    values.foldl laid (some present) = some (layered present values) := by
  induction values generalizing present with
  | nil => rfl
  | cons value rest hypothesis => exact hypothesis (Setting.merged (some present) value)

def isEmptyTable : Setting -> Bool
  | .table _ [] => true
  | _ => false

namespace Field

def read? (field : Field) (setting : Setting) : Option FieldValue := (field.read setting).toOption

/-- The value that a source gives for a field. A table without members gives none. -/
def valueIn? (field : Field) (source : List (String × Setting)) : Option Setting :=
  (field.given source).head?.filter fun setting => !isEmptyTable setting

def builtIn (field : Field) : Setting := (field.given defaults).head?.getD unset

/-- The value of a field: the environment's, or else the file's, or else the built-in one. -/
def winner (field : Field) (file environment : List (String × Setting)) : Setting :=
  ((field.valueIn? environment).or (field.valueIn? file)).getD field.builtIn

theorem read?_table (field : Field) {setting : Setting} (table : setting.isTable) :
    field.read? setting = none := by
  cases setting with
  | leaf => cases table
  | list => cases table
  | table => cases field <;> rfl

theorem read?_layered (field : Field) {source : List (String × Setting)}
    (once : (field.given source).length ≤ 1) (present : Setting) :
    field.read? (layered present (field.given source)) =
      field.read? ((field.valueIn? source).getD present) := by
  unfold valueIn?
  match field.given source, once with
  | [], _ => rfl
  | [.leaf _ _], _ => rfl
  | [.list _ _], _ => rfl
  | [.table _ []], _ => rfl
  | [.table origin (entry :: rest)], _ =>
    -- What it is laid upon becomes a table as well, and no field is read from one.
    have merged := Setting.isTable_merged_of_members (some present) origin entry rest
    exact (field.read?_table merged).trans (field.read?_table rfl).symm

end Field

theorem defaults_spared (field : Field) : ∀ entry ∈ defaults, field.isSparedBy entry := by
  cases field <;> decide +kernel

theorem defaults_laid (field : Field) :
    (field.given defaults).foldl laid none = some field.builtIn := by
  cases field <;> rfl

def fileEntries : Option File -> Except SettingsError (List (String × Setting))
  | none => pure []
  | some file => ofFile file

theorem load_eq {file : Option File} {environment : List (String × String)}
    {entries : List (String × Setting)} (read : fileEntries file = .ok entries)
    (fileClear : ∀ field : Field, field.IsClearIn entries)
    (clear : ∀ field : Field, field.IsClearIn (variableEntries environment)) :
    load file environment = ofFields fun field =>
      layered (layered field.builtIn (field.given entries))
        (field.given (variableEntries environment)) := by
  have loaded : load file environment = ofSetting
      ((((Setting.table none []).addSource defaults).addSource entries).addSource
        (ofEnvironment environment)) := by
    unfold load
    cases file with
    | none => cases read; rfl
    | some file =>
      have opened : ofFile file = .ok entries := read
      simp only [opened]
      rfl
  -- The dictionary of the variables drops some of them and adds none.
  have spared : ∀ field : Field, ∀ entry ∈ ofEnvironment environment, field.isSparedBy entry :=
    fun field entry member => (clear field).1 entry (mem_ofEnvironment member)
  rw [loaded]
  apply ofSetting_eq
  · intro field
    refine isOpen_addSource (spared field) (isOpen_addSource (fileClear field).1
      (isOpen_addSource (defaults_spared field) ?_))
    intro setting found
    cases found
  · intro field
    rw [fieldAt?_addSource (spared field), fieldAt?_addSource (fileClear field).1,
      fieldAt?_addSource (defaults_spared field), given_ofEnvironment (clear field).2]
    have start : fieldAt? (.table none []) field = none := rfl
    rw [start, defaults_laid, foldl_laid, foldl_laid]

/-! ## The theorem -/

namespace Field

def Refuses (field : Field) : Setting -> Prop
  | .leaf _ (.integer value) => field.isText = false ∧ value < 0
  | .leaf _ (.text value) =>
      field.isText = false ∧ Setting.unsignedOf? value = none ∧
        String.ofList (value.toList.map Char.toLower) ∉ ["true", "on", "yes", "false", "off", "no"]
  | .leaf _ .nothing | .list _ _ | .table _ _ => True
  | .leaf _ (.boolean _) | .leaf _ (.float _) => False

theorem read?_of_isText {field : Field} (isText : field.isText = true) (setting : Setting) :
    field.read? setting = (setting.toText field.path).toOption.map .text := by
  rw [read?, read, if_pos isText]
  cases setting.toText field.path <;> rfl

theorem read?_of_not_isText {field : Field} (isNumber : field.isText = false) (setting : Setting) :
    field.read? setting = (setting.toUnsigned field.path).toOption.map .number := by
  rw [read?, read, isNumber]
  cases setting.toUnsigned field.path <;> rfl

theorem toUnsigned_text_eq_none_iff (origin : Option String) (value key : String) :
    ((Setting.leaf origin (.text value)).toUnsigned key).toOption = none ↔
      Setting.unsignedOf? value = none ∧
        String.ofList (value.toList.map Char.toLower) ∉
          ["true", "on", "yes"] ++ ["false", "off", "no"] := by
  unfold Setting.toUnsigned
  simp only [List.contains_iff_mem, List.mem_append, not_or]
  split
  next yes => exact ⟨nofun, fun refused => absurd yes refused.2.1⟩
  next notYes =>
    split
    next no => exact ⟨nofun, fun refused => absurd no refused.2.2⟩
    next notNo =>
      split
      next number read => rw [read]; exact ⟨nofun, fun refused => nomatch refused.1⟩
      next unread => exact ⟨fun _ => ⟨unread, notYes, notNo⟩, fun _ => rfl⟩

theorem read?_eq_none_iff (field : Field) (setting : Setting) :
    field.read? setting = none ↔ field.Refuses setting := by
  cases isText : field.isText with
  | true =>
    rw [read?_of_isText isText, Option.map_eq_none_iff]
    match setting with
    | .leaf _ .nothing | .list _ _ | .table _ _ => exact ⟨fun _ => trivial, fun _ => rfl⟩
    | .leaf _ (.boolean _) | .leaf _ (.float _) => exact ⟨nofun, nofun⟩
    | .leaf _ (.integer _) | .leaf _ (.text _) =>
      exact ⟨nofun, fun refused => absurd (isText.symm.trans refused.1) nofun⟩
  | false =>
    rw [read?_of_not_isText isText, Option.map_eq_none_iff]
    match setting with
    | .leaf _ .nothing | .list _ _ | .table _ _ => exact ⟨fun _ => trivial, fun _ => rfl⟩
    | .leaf _ (.boolean _) | .leaf _ (.float _) => exact ⟨nofun, nofun⟩
    | .leaf origin (.text value) =>
      rw [toUnsigned_text_eq_none_iff]
      exact ⟨fun both => ⟨isText, both⟩, And.right⟩
    | .leaf origin (.integer value) =>
      cases value with
      | ofNat value => exact ⟨nofun, fun refused => absurd refused.2 (by simp)⟩
      | negSucc value => exact ⟨fun _ => ⟨isText, Int.negSucc_lt_zero value⟩, fun _ => rfl⟩

theorem toText_error {setting : Setting} {key : String} {error : SettingsError}
    (failed : setting.toText key = .error error) :
    ∃ found expected origin, error = .kind found expected key origin := by
  unfold Setting.toText at failed
  split at failed
  all_goals cases failed
  exact ⟨_, _, _, rfl⟩

theorem toUnsigned_error {setting : Setting} {key : String} {error : SettingsError}
    (failed : setting.toUnsigned key = .error error) :
    ∃ found expected origin, error = .kind found expected key origin := by
  unfold Setting.toUnsigned at failed
  split at failed
  case h_3 =>
    simp only at failed
    split at failed
    · cases failed
    · split at failed
      · cases failed
      · split at failed
        all_goals cases failed
        exact ⟨_, _, _, rfl⟩
  all_goals cases failed
  all_goals exact ⟨_, _, _, rfl⟩

theorem read_error {field : Field} {setting : Setting} {error : SettingsError}
    (failed : field.read setting = .error error) :
    ∃ found expected origin, error = .kind found expected field.path origin := by
  unfold read at failed
  split at failed
  next =>
    cases outcome : setting.toText field.path with
    | ok text => rw [outcome] at failed; cases failed
    | error other => rw [outcome] at failed; cases failed; exact toText_error outcome
  next =>
    cases outcome : setting.toUnsigned field.path with
    | ok text => rw [outcome] at failed; cases failed
    | error other => rw [outcome] at failed; cases failed; exact toUnsigned_error outcome

end Field

/-- **Each field has the value of the last source that gives it**, whatever is given for the others
and in whichever order the variables come. The settings are refused only for a field whose own value
does not become what it holds. -/
theorem load_layered {file : Option File} {environment : List (String × String)}
    {entries : List (String × Setting)} (opened : fileEntries file = .ok entries)
    (fileClear : ∀ field : Field, field.IsClearIn entries)
    (clear : ∀ field : Field, field.IsClearIn (variableEntries environment)) :
    (match load file environment with
      | .ok settings => ∀ field : Field,
          field.read? (field.winner entries (variableEntries environment)) = some (field.held settings)
      | .error error => ∃ field : Field,
          field.read? (field.winner entries (variableEntries environment)) = none ∧
            ∃ found expected origin, error = .kind found expected field.path origin) ∧
    (∀ other : List (String × String), other.Perm environment ->
      load file other = load file environment) ∧
    (∀ (field : Field) (setting : Setting),
      field.read? setting = none ↔ field.Refuses setting) ∧
    ∀ (field other : Field) (text : String),
      field.given (variableEntries [(other.variableName, text)]) =
        if field = other then [.leaf (some environmentOrigin) (.text text)] else [] := by
  refine ⟨?_, ?_, Field.read?_eq_none_iff, Field.given_variableName⟩
  · have agree : ∀ field : Field,
        field.read? (layered (layered field.builtIn (field.given entries))
            (field.given (variableEntries environment))) =
          field.read? (field.winner entries (variableEntries environment)) := by
      intro field
      rw [field.read?_layered (clear field).2, Field.winner]
      cases field.valueIn? (variableEntries environment) with
      | some value => rfl
      | none => exact field.read?_layered (fileClear field).2 field.builtIn
    have follows := ofFields_follows fun field : Field =>
      layered (layered field.builtIn (field.given entries)) (field.given (variableEntries environment))
    rw [← load_eq opened fileClear clear] at follows
    cases outcome : load file environment with
    | ok settings =>
      rw [outcome] at follows
      intro field
      rw [← agree, Field.read?, follows field]
      rfl
    | error error =>
      rw [outcome] at follows
      obtain ⟨field, failed⟩ := follows
      refine ⟨field, ?_, Field.read_error failed⟩
      rw [← agree, Field.read?, failed]
      rfl
  · intro other reordered
    have permuted : (variableEntries other).Perm (variableEntries environment) := reordered.filterMap _
    have otherClear : ∀ field : Field, field.IsClearIn (variableEntries other) :=
      fun field => isClearIn_perm (clear field) permuted
    rw [load_eq opened fileClear clear, load_eq opened fileClear otherClear]
    congr 1
    funext field
    rw [given_perm (clear field).2 permuted]

theorem isClearIn_of_all {source : List (String × Setting)}
    (clear : (Field.all.all fun field => decide (field.IsClearIn source)) = true) (field : Field) :
    field.IsClearIn source :=
  of_decide_eq_true (List.all_eq_true.mp clear field field.mem_all)

def overridden : File := ⟨"ward.toml", "ward.toml", some
  "[web]\nread_timeout_secs = 'soon'\nlog_json = 1\n[auth]\nissuer = 'desk'\n"⟩

/-- A variable overrides a time that the file gives in words; others that the settings do not know
are passed over. -/
theorem load_layered_overridden :
    load (some overridden)
        [("WARD_WEB__READ_TIMEOUT_SECS", "9"), ("WARD_LOG_JSON", "1"), ("HOME", "/")] =
      load (some overridden)
        [("HOME", "/"), ("WARD_LOG_JSON", "1"), ("WARD_WEB__READ_TIMEOUT_SECS", "9")] ∧
    (load (some overridden)
        [("HOME", "/"), ("WARD_LOG_JSON", "1"), ("WARD_WEB__READ_TIMEOUT_SECS", "9")]).toOption =
      some ⟨⟨"0.0.0.0:3000", "0.0.0.0:4000", 9, 10, 120, 20, 1048576⟩, ⟨"keys/", "desk", 60⟩⟩ := by
  have checked : ((fileEntries (some overridden)).toOption.any fun entries =>
      Field.all.all fun field => decide (field.IsClearIn entries)) = true := by
    decide +kernel
  cases opened : fileEntries (some overridden) with
  | error => rw [opened] at checked; cases checked
  | ok entries =>
    rw [opened] at checked
    exact ⟨(load_layered opened (isClearIn_of_all checked)
      (isClearIn_of_all (by decide +kernel))).2.1 _ (by decide), by decide +kernel⟩

/-- A fraction below zero is taken for zero, a word for a number and a quoted name for a path; case
does not count, and a table without members says nothing. -/
theorem load_reads_loosely :
    (load (some ⟨"ward.toml", "ward.toml", some "[web]\nread_timeout_secs = -3.7"⟩) []).toOption.map
        (·.web.readTimeout) = some 0 ∧
    (load (some ⟨"ward.toml", "ward.toml", some "[web]\nread_timeout_secs = 'yes'"⟩) []).toOption.map
        (·.web.readTimeout) = some 1 ∧
    (load (some ⟨"ward.toml", "ward.toml", some "\"web[0]\" = 1"⟩) []).toOption = none ∧
    (load (some ⟨"ward.toml", "ward.toml", some "[web]\nAPI_HOST = 'other'"⟩) []).toOption.map
        (·.web.apiHost) = some "other" ∧
    (load (some ⟨"ward.toml", "ward.toml", some "[web]\napi_host = \x7b\x7d"⟩) []).toOption.map
        (·.web.apiHost) = some "0.0.0.0:3000" := by
  refine ⟨?_, ?_, ?_, ?_, ?_⟩
  all_goals decide +kernel

end HttpService.Settings
