import HttpService.Settings.Value
/-! # Reaching a setting

What a value put at a path changes: the member that the path names, and nothing beside it. Names are
compared in lower case, and tables are merged, so that several values for one place lie upon each
other in the order in which they came: `Setting.member?_mergedMembers`. -/
set_option autoImplicit false

namespace HttpService.Setting

def isTable : Setting -> Bool
  | .table _ _ => true
  | _ => false

def valuesOf (name : String) (members : List (String × Setting)) : List Setting :=
  (members.filter fun entry => lowered entry.1 == lowered name).map Prod.snd

theorem valuesOf_cons (name : String) (entry : String × Setting)
    (rest : List (String × Setting)) :
    valuesOf name (entry :: rest) =
      if lowered entry.1 = lowered name then entry.2 :: valuesOf name rest
      else valuesOf name rest := by
  by_cases same : lowered entry.1 = lowered name <;> simp [valuesOf, same]

/-- Lays a value upon one that may be there. -/
def laid (present : Option Setting) (value : Setting) : Option Setting :=
  some (merged present value)

theorem member?_eq_of_lowered {name other : String} (same : lowered name = lowered other)
    (setting : Setting) : setting.member? name = setting.member? other := by
  unfold member?
  rw [same]

theorem member?_withMember (setting : Setting) (name other : String) (value : Setting) :
    (setting.withMember name value).member? other =
      if lowered name = lowered other then some value else setting.member? other :=
  valueUnder?_insertSorted (lowered name) value setting.members (lowered other)

theorem isTable_withMember (setting : Setting) (name : String) (value : Setting) :
    (setting.withMember name value).isTable :=
  rfl

/-! ## Merging -/

theorem isTable_mergedMembers {target : Setting} (table : target.isTable)
    (members : List (String × Setting)) : (mergedMembers target members).isTable := by
  induction members generalizing target with
  | nil => rw [mergedMembers]; exact table
  | cons entry rest hypothesis => exact hypothesis (isTable_withMember _ _ _)

theorem member?_mergedMembers (target : Setting) (members : List (String × Setting))
    (name : String) :
    (mergedMembers target members).member? name =
      (valuesOf name members).foldl laid (target.member? name) := by
  induction members generalizing target with
  | nil => rw [mergedMembers]; rfl
  | cons entry rest hypothesis =>
    rw [mergedMembers, hypothesis, member?_withMember, valuesOf_cons]
    by_cases same : lowered entry.1 = lowered name
    · rw [if_pos same, if_pos same, List.foldl_cons, laid, member?_eq_of_lowered same]
    · rw [if_neg same, if_neg same]

theorem isTable_merged {present : Option Setting} (table : ∀ setting, present = some setting ->
    setting.isTable) (origin : Option String) (members : List (String × Setting)) :
    (merged present (.table origin members)).isTable := by
  rw [merged]
  refine isTable_mergedMembers ?_ members
  cases present with
  | none => rfl
  | some setting => exact table setting rfl

/-- A table that has members leaves a table, whatever it is laid upon. -/
theorem isTable_merged_of_members (present : Option Setting) (origin : Option String)
    (entry : String × Setting) (rest : List (String × Setting)) :
    (merged present (.table origin (entry :: rest))).isTable := by
  rw [merged, mergedMembers]
  exact isTable_mergedMembers (isTable_withMember _ _ _) rest

theorem member?_merged (present : Option Setting) (value : Setting) (table : value.isTable)
    (name : String) :
    (merged present value).member? name =
      (valuesOf name value.members).foldl laid ((present.getD unset).member? name) := by
  cases value with
  | leaf => cases table
  | list => cases table
  | table origin members =>
    rw [merged, member?_mergedMembers]
    cases present <;> rfl

/-! ## Paths -/

theorem pathOf_member (text : String) : ∃ name rest, pathOf text = .member name :: rest := by
  unfold pathOf
  dsimp only
  split
  · exact ⟨_, _, rfl⟩
  · exact ⟨_, _, rfl⟩

theorem assignAt_member (value : Setting) (name : String) (rest : List Step) (node : Setting) :
    ∃ inner, assignAt value (.member name :: rest) node = node.withMember name inner := by
  cases rest with
  | nil => exact ⟨_, rfl⟩
  | cons step rest => exact ⟨_, rfl⟩

theorem isTable_assignAt (value : Setting) (name : String) (rest : List Step) (node : Setting) :
    (assignAt value (.member name :: rest) node).isTable := by
  obtain ⟨inner, eq⟩ := assignAt_member value name rest node
  rw [eq]
  exact isTable_withMember _ _ _

theorem member?_assignAt_of_ne (value : Setting) {name other : String} (rest : List Step)
    (node : Setting) (different : lowered name ≠ lowered other) :
    (assignAt value (.member name :: rest) node).member? other = node.member? other := by
  obtain ⟨inner, eq⟩ := assignAt_member value name rest node
  rw [eq, member?_withMember, if_neg different]

theorem member?_assignAt_last (value : Setting) {name other : String} (node : Setting)
    (same : lowered name = lowered other) :
    (assignAt value [.member name] node).member? other = laid (node.member? other) value := by
  rw [assignAt, member?_withMember, if_pos same, laid, member?_eq_of_lowered same]

theorem member?_assignAt_next (value : Setting) {name other : String} (step : Step)
    (rest : List Step) (node : Setting) (same : lowered name = lowered other) :
    (assignAt value (.member name :: step :: rest) node).member? other =
      some (assignAt value (step :: rest) ((node.member? other).getD unset)) := by
  have unfolded : assignAt value (.member name :: step :: rest) node =
      node.withMember name (assignAt value (step :: rest) ((node.member? name).getD unset)) := rfl
  rw [unfolded, member?_withMember, if_pos same, member?_eq_of_lowered same]

end HttpService.Setting
