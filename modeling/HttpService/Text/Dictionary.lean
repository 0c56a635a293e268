/-! # Dictionaries

Values under texts, each text once, in the order of the texts. Two dictionaries that hold the same
values under the same texts are equal, whatever the order in which they were filled:
`Dictionary.ext_find?`. -/
set_option autoImplicit false

namespace HttpService

variable {α β : Type}

/-- Inserts into a list sorted by key, replacing the value of a key that is present. -/
def insertSorted (key : String) (value : α) : List (String × α) -> List (String × α)
  | [] => [(key, value)]
  | (present, old) :: rest =>
      if key < present then (key, value) :: (present, old) :: rest
      else if key = present then (key, value) :: rest
      else (present, old) :: insertSorted key value rest

/-- Are the keys in strictly increasing order? -/
def KeysIncrease (entries : List (String × α)) : Prop :=
  entries.Pairwise fun left right => left.1 < right.1

theorem mem_insertSorted {key : String} {value : α} {entries : List (String × α)}
    {entry : String × α} (member : entry ∈ insertSorted key value entries) :
    entry = (key, value) ∨ entry ∈ entries := by
  induction entries with
  | nil => simpa [insertSorted] using member
  | cons head rest hypothesis =>
    unfold insertSorted at member
    split at member
    · simpa using member
    · split at member
      · rcases List.mem_cons.1 member with same | inRest
        · exact .inl same
        · exact .inr (List.mem_cons_of_mem _ inRest)
      · rcases List.mem_cons.1 member with same | inRest
        · exact .inr (same ▸ List.mem_cons_self)
        · exact (hypothesis inRest).imp id (List.mem_cons_of_mem _)

theorem text_lt_of_not_lt_of_ne {left right : String} (notLess : ¬ left < right)
    (different : left ≠ right) : right < left := by
  rcases Decidable.em (right < left) with less | notGreater
  · exact less
  · exact absurd (String.le_antisymm (String.not_lt.1 notGreater) (String.not_lt.1 notLess))
      different

theorem keysIncrease_insertSorted (key : String) (value : α) {entries : List (String × α)}
    (sorted : KeysIncrease entries) : KeysIncrease (insertSorted key value entries) := by
  induction entries with
  | nil => simp [insertSorted, KeysIncrease]
  | cons head rest hypothesis =>
    obtain ⟨present, old⟩ := head
    have fromHead : ∀ entry ∈ rest, present < entry.1 := (List.pairwise_cons.1 sorted).1
    have restSorted : KeysIncrease rest := (List.pairwise_cons.1 sorted).2
    unfold insertSorted
    split
    next less =>
      refine List.Pairwise.cons ?_ sorted
      intro entry member
      rcases List.mem_cons.1 member with same | inRest
      · subst same; exact less
      · exact String.lt_trans less (fromHead entry inRest)
    next notLess =>
      split
      next same =>
        subst same
        exact List.Pairwise.cons (fun entry member => fromHead entry member) restSorted
      next different =>
        refine List.Pairwise.cons ?_ (hypothesis restSorted)
        intro entry member
        rcases mem_insertSorted member with same | inRest
        · subst same; exact text_lt_of_not_lt_of_ne notLess different
        · exact fromHead entry inRest

/-- The value under a key in a list of entries. -/
def valueUnder? (entries : List (String × α)) (key : String) : Option α :=
  (entries.find? fun entry => entry.1 == key).map Prod.snd

theorem valueUnder?_cons (head : String × α) (rest : List (String × α)) (key : String) :
    valueUnder? (head :: rest) key =
      if head.1 = key then some head.2 else valueUnder? rest key := by
  by_cases same : head.1 = key <;> simp [valueUnder?, same]

theorem valueUnder?_insertSorted (key : String) (value : α) (entries : List (String × α))
    (other : String) :
    valueUnder? (insertSorted key value entries) other =
      if key = other then some value else valueUnder? entries other := by
  induction entries with
  | nil => simp [insertSorted, valueUnder?_cons]
  | cons head rest hypothesis =>
    obtain ⟨present, old⟩ := head
    unfold insertSorted
    split
    next => rw [valueUnder?_cons]
    next =>
      split
      next same => subst same; by_cases equal : key = other <;> simp [valueUnder?_cons, equal]
      next different =>
        rw [valueUnder?_cons, valueUnder?_cons, hypothesis]
        by_cases atHead : present = other
        · subst atHead; simp [different]
        · simp [atHead]

theorem mem_of_valueUnder? {entries : List (String × α)} {key : String} {value : α}
    (found : valueUnder? entries key = some value) : (key, value) ∈ entries := by
  induction entries with
  | nil => simp [valueUnder?] at found
  | cons head rest hypothesis =>
    rw [valueUnder?_cons] at found
    split at found
    next same =>
      obtain ⟨present, old⟩ := head
      simp only at same found
      subst same
      simp_all
    next => exact List.mem_cons_of_mem _ (hypothesis found)

theorem valueUnder?_of_mem {entries : List (String × α)} (sorted : KeysIncrease entries)
    {key : String} {value : α} (member : (key, value) ∈ entries) :
    valueUnder? entries key = some value := by
  induction entries with
  | nil => simp at member
  | cons head rest hypothesis =>
    have fromHead : ∀ entry ∈ rest, head.1 < entry.1 := (List.pairwise_cons.1 sorted).1
    rw [valueUnder?_cons]
    rcases List.mem_cons.1 member with same | inRest
    · subst same; simp
    · have less := fromHead _ inRest
      have different : head.1 ≠ key := fun same => String.lt_irrefl _ (same ▸ less)
      simp [different, hypothesis (List.pairwise_cons.1 sorted).2 inRest]

theorem eq_of_valueUnder? {left right : List (String × α)} (leftSorted : KeysIncrease left)
    (rightSorted : KeysIncrease right)
    (agree : ∀ key, valueUnder? left key = valueUnder? right key) : left = right := by
  have nodup : ∀ {entries : List (String × α)}, KeysIncrease entries -> entries.Nodup := by
    intro entries sorted
    refine sorted.imp ?_
    intro one other less same
    subst same
    exact String.lt_irrefl _ less
  have sub : ∀ {one other : List (String × α)}, KeysIncrease one ->
      (∀ key, valueUnder? one key = valueUnder? other key) -> ∀ entry ∈ one, entry ∈ other := by
    intro one other sorted same entry member
    exact mem_of_valueUnder? ((same entry.1).symm.trans (valueUnder?_of_mem sorted member))
  have permuted : left.Perm right :=
    (List.perm_ext_iff_of_nodup (nodup leftSorted) (nodup rightSorted)).2 fun entry =>
      ⟨sub leftSorted agree entry, sub rightSorted (fun key => (agree key).symm) entry⟩
  refine permuted.eq_of_pairwise ?_ leftSorted rightSorted
  intro one other _ _ less greater
  exact absurd (String.lt_trans less greater) (String.lt_irrefl _)

/-- An entry that alone passes a test of keys joins those that pass it. -/
theorem filter_insertSorted (test : String -> Bool) (key : String) (value : α)
    (entries : List (String × α))
    (alone : test key -> entries.filter (fun entry => test entry.1) = []) :
    (insertSorted key value entries).filter (fun entry => test entry.1) =
      entries.filter (fun entry => test entry.1) ++
        [(key, value)].filter fun entry => test entry.1 := by
  induction entries with
  | nil => rfl
  | cons head rest hypothesis =>
    obtain ⟨present, old⟩ := head
    have below : test key -> rest.filter (fun entry => test entry.1) = [] := by
      intro passes
      have none := List.filter_eq_nil_iff.mp (alone passes)
      exact List.filter_eq_nil_iff.mpr fun entry member =>
        none entry (List.mem_cons_of_mem _ member)
    unfold insertSorted
    split
    next =>
      cases passes : test key with
      | true => rw [List.filter_cons, alone passes]; simp [passes]
      | false => simp [passes]
    next =>
      split
      next same =>
        subst same
        cases passes : test key with
        | true => exact absurd (alone passes) (by simp [passes])
        | false => simp [passes]
      next =>
        rw [List.filter_cons, List.filter_cons, hypothesis below]
        split <;> rfl

/-- Values under texts, sorted by text. -/
structure Dictionary (α : Type) where
  entries : List (String × α)
  sorted : KeysIncrease entries

namespace Dictionary

instance [DecidableEq α] : DecidableEq (Dictionary α) := fun left right =>
  if same : left.entries = right.entries then
    .isTrue (by cases left; cases right; cases same; rfl)
  else .isFalse fun equal => same (equal ▸ rfl)

def empty : Dictionary α := ⟨[], .nil⟩

instance : Inhabited (Dictionary α) := ⟨empty⟩

def insert (table : Dictionary α) (key : String) (value : α) : Dictionary α :=
  ⟨insertSorted key value table.entries, keysIncrease_insertSorted key value table.sorted⟩

def find? (table : Dictionary α) (key : String) : Option α := valueUnder? table.entries key

def contains (table : Dictionary α) (key : String) : Bool := (table.find? key).isSome

def size (table : Dictionary α) : Nat := table.entries.length

def isEmpty (table : Dictionary α) : Bool := table.entries.isEmpty

def keys (table : Dictionary α) : List String := table.entries.map Prod.fst

/-- Later values replace earlier ones under the same text. -/
def ofList (entries : List (String × α)) : Dictionary α :=
  entries.foldl (fun table entry => table.insert entry.1 entry.2) empty

def map (change : α -> β) (table : Dictionary α) : Dictionary β :=
  ⟨table.entries.map fun entry => (entry.1, change entry.2),
    List.pairwise_map.2 (table.sorted.imp id)⟩

theorem find?_empty (key : String) : (empty : Dictionary α).find? key = none := rfl

theorem find?_insert (table : Dictionary α) (key : String) (value : α) (other : String) :
    (table.insert key value).find? other = if key = other then some value else table.find? other :=
  valueUnder?_insertSorted key value table.entries other

theorem mem_ofList {entries : List (String × α)} {entry : String × α}
    (member : entry ∈ (ofList entries).entries) : entry ∈ entries := by
  have either : ∀ table : Dictionary α,
      entry ∈ (entries.foldl (fun table entry => table.insert entry.1 entry.2) table).entries ->
        entry ∈ table.entries ∨ entry ∈ entries := by
    clear member
    induction entries with
    | nil => exact fun table => Or.inl
    | cons head rest hypothesis =>
      intro table inFold
      rcases hypothesis _ inFold with inserted | inRest
      · rcases mem_insertSorted inserted with same | present
        · exact .inr (same ▸ List.mem_cons_self)
        · exact .inl present
      · exact .inr (List.mem_cons_of_mem _ inRest)
  rcases either .empty member with impossible | inEntries
  · cases impossible
  · exact inEntries

/-- Filling a dictionary loses nothing of what passes a test of keys, if that is one entry. -/
theorem filter_ofList (test : String -> Bool) {entries : List (String × α)}
    (once : (entries.filter fun entry => test entry.1).length ≤ 1) :
    (ofList entries).entries.filter (fun entry => test entry.1) =
      entries.filter fun entry => test entry.1 := by
  -- At most one entry passes, be it in the table already or still to come.
  have joined : ∀ table : Dictionary α,
      (table.entries.filter (fun entry => test entry.1)).length +
          (entries.filter (fun entry => test entry.1)).length ≤ 1 ->
        (entries.foldl (fun table entry => table.insert entry.1 entry.2) table).entries.filter
            (fun entry => test entry.1) =
          table.entries.filter (fun entry => test entry.1) ++
            entries.filter fun entry => test entry.1 := by
    clear once
    induction entries with
    | nil => exact fun table _ => (List.append_nil _).symm
    | cons head rest hypothesis =>
      intro table few
      obtain ⟨key, value⟩ := head
      have shape : ((key, value) :: rest).filter (fun entry => test entry.1) =
          [(key, value)].filter (fun entry => test entry.1) ++
            rest.filter fun entry => test entry.1 :=
        List.filter_append [(key, value)] rest
      rw [shape, List.length_append] at few
      have inserted := filter_insertSorted test key value table.entries fun passes => by
        have one : ([(key, value)].filter fun entry => test entry.1).length = 1 := by simp [passes]
        exact List.eq_nil_of_length_eq_zero (by omega)
      rw [List.foldl_cons, hypothesis (table.insert key value), insert, inserted,
        List.append_assoc, shape]
      rw [insert, inserted, List.length_append]
      omega
  exact joined .empty (by simpa [empty] using once)

theorem ext_find? {left right : Dictionary α} (agree : ∀ key, left.find? key = right.find? key) :
    left = right := by
  have same := eq_of_valueUnder? left.sorted right.sorted agree
  cases left; cases right; cases same; rfl

end Dictionary

end HttpService
