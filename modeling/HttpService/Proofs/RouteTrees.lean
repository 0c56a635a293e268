import HttpService.Route.Tree
/-! # Route trees of changed values

No decision in a route tree looks at the values it holds. So inserting a changed value into a tree
of changed values gives the changed tree (`map_insert`), and a path finds there the changed value
of what it finds in the tree (`map_lookup`). -/
set_option autoImplicit false

namespace HttpService.Node

variable {α β : Type} (change : α -> β)

mutual
def map (node : Node α) : Node β :=
  match node with
  | { kind, text, priority, wild, firsts, children, value, names } =>
      { kind, text, priority, wild, firsts, children := mapAll children,
        value := value.map change, names }

def mapAll : List (Node α) -> List (Node β)
  | [] => []
  | child :: rest => map child :: mapAll rest
end

theorem mapAll_eq (children : List (Node α)) :
    mapAll change children = children.map (map change) := by
  induction children with
  | nil => rfl
  | cons child rest ih => simp [mapAll, ih]

theorem map_eq (node : Node α) :
    node.map change =
      { node with
        children := node.children.map (map change)
        value := node.value.map change } := by
  cases node
  simp [map, mapAll_eq]

@[simp] theorem map_kind (node : Node α) : (node.map change).kind = node.kind := by
  rw [map_eq]
@[simp] theorem map_text (node : Node α) : (node.map change).text = node.text := by
  rw [map_eq]
@[simp] theorem map_priority (node : Node α) : (node.map change).priority = node.priority := by
  rw [map_eq]
@[simp] theorem map_wild (node : Node α) : (node.map change).wild = node.wild := by
  rw [map_eq]
@[simp] theorem map_firsts (node : Node α) : (node.map change).firsts = node.firsts := by
  rw [map_eq]
@[simp] theorem map_names (node : Node α) : (node.map change).names = node.names := by
  rw [map_eq]
@[simp] theorem map_children (node : Node α) :
    (node.map change).children = node.children.map (map change) := by
  rw [map_eq]
@[simp] theorem map_value (node : Node α) :
    (node.map change).value = node.value.map change := by
  rw [map_eq]

theorem map_addChild (node child : Node α) :
    (node.map change).addChild (child.map change) =
      ((node.addChild child).1.map change, (node.addChild child).2) := by
  simp [addChild, map_eq, List.map_take, List.map_drop]

theorem map_addFollower (node child : Node α) :
    (node.map change).addFollower (child.map change) =
      ((node.addFollower child).1.map change, (node.addFollower child).2) := by
  have same : ((node.children.map (map change)).takeWhile
      fun other => child.text.length ≤ other.text.length).length =
        (node.children.takeWhile fun other => child.text.length ≤ other.text.length).length := by
    rw [List.takeWhile_map]
    simp [Function.comp_def]
  simp only [addFollower, map_text, map_children, same]
  simp [map_eq, List.map_take, List.map_drop]

theorem placeFor_map (children : List (Node α)) (priority place : Nat) :
    placeFor (children.map (map change)) priority place = placeFor children priority place := by
  induction place with
  | zero => rfl
  | succ place ih =>
      simp only [placeFor, List.getElem?_map, ih]
      cases children[place]? <;> simp

theorem moveForward_map {γ δ : Type} (convert : γ -> δ) (items : List γ) (source target : Nat) :
    moveForward (items.map convert) source target =
      (moveForward items source target).map convert := by
  simp only [moveForward, List.getElem?_map]
  cases items[source]? with
  | none => rfl
  | some item =>
      simp [List.eraseIdx_eq_take_drop_succ, List.map_take, List.map_drop]

theorem map_counted (node : Node α) : (node.map change).counted = node.counted.map change := by
  simp [counted, map_eq]

theorem map_modify_counted (children : List (Node α)) (place : Nat) :
    (children.map (map change)).modify place counted =
      (children.modify place counted).map (map change) := by
  apply List.ext_getElem?
  intro index
  simp only [List.getElem?_modify, List.getElem?_map]
  cases children[index]? with
  | none => rfl
  | some child => by_cases here : place = index <;> simp [here, map_counted]

theorem map_promote (node : Node α) (place : Nat) :
    (node.map change).promote place =
      ((node.promote place).1.map change, (node.promote place).2) := by
  have samePriority (children : List (Node α)) :
      (children.map (map change))[place]?.map Node.priority =
        children[place]?.map Node.priority := by
    rw [List.getElem?_map]
    cases children[place]? <;> simp
  simp only [promote, map_children, map_modify_counted, samePriority, placeFor_map,
    moveForward_map, map_firsts]
  simp [map_eq]

theorem map_setChild (node : Node α) (place : Nat) (child : Node α) :
    (node.map change).setChild place (child.map change) =
      (node.setChild place child).map change := by
  simp [setChild, map_eq, List.map_set]

theorem map_finish (node : Node α) (names : List Bytes) (value : α) :
    (node.map change).finish names (change value) = (node.finish names value).map change := by
  simp [finish, map_eq]

theorem map_single (kind : NodeKind) (text : Pattern) :
    (single kind text : Node α).map change = single kind text := by
  simp [single, map_eq]

theorem map_empty : ({} : Node α).map change = {} := by
  simp [map_eq]

theorem map_withText (node : Node α) (text : Pattern) :
    (node.map change).withText text = (node.withText text).map change := by
  simp [withText, map_eq]

theorem map_addWild (node child : Node α) :
    (node.map change).addWild (child.map change) = (node.addWild child).map change := by
  simp only [addWild, map_addChild]
  simp [map_eq]

theorem map_addFixed (node child : Node α) (beyond : Pattern) :
    (node.map change).addFixed (child.map change) beyond =
      (node.addFixed child beyond).map change := by
  simp only [addFixed, map_addChild, map_firsts]
  simp [map_eq]

/-- The function that adds the rest of a route acts alike before and after the change. -/
def Natural (before : Node α -> Pattern -> Except RouteError (Node α))
    (after : Node β -> Pattern -> Except RouteError (Node β)) : Prop :=
  ∀ node rest, after (node.map change) rest = (before node rest).map (map change)

variable {change} {before : Node α -> Pattern -> Except RouteError (Node α)}
  {after : Node β -> Pattern -> Except RouteError (Node β)}

theorem map_extend (natural : Natural change before after) (base : Node α) (beyond : Pattern)
    (names : List Bytes) (value : α) :
    extend after (base.map change) beyond names (change value) =
      (extend before base beyond names value).map (map change) := by
  simp only [extend]
  split
  · simp only [map_finish]
    rfl
  · split
    · exact natural base beyond
    · have made := natural (single .fixed .empty) beyond
      rw [map_single] at made
      rw [made]
      cases before (single .fixed .empty) beyond with
      | error reason => rfl
      | ok child =>
          simp only [Except.map, bind, Except.bind, pure, Except.pure, map_addFixed]

theorem natural_build (fuel : Nat) (names : List Bytes) (value : α) :
    Natural change (fun node rest => build fuel node rest names value)
      (fun node rest => build fuel node rest names (change value)) := by
  induction fuel with
  | zero => intro node rest; rfl
  | succ fuel ih =>
      intro node rest
      simp only [build]
      cases rest.wildcard? with
      | error reason => rfl
      | ok found =>
          cases found with
          | none => simp only [bind, Except.bind, pure, Except.pure, Except.map, map_withText, map_finish]
          | some wild =>
              obtain ⟨first, last⟩ := wild
              have cut : (if 0 < first then (node.map change).withText (rest.take first)
                  else node.map change) =
                    (if 0 < first then node.withText (rest.take first) else node).map change := by
                split
                · exact map_withText change node _
                · rfl
              simp only [bind, Except.bind, pure, Except.pure, cut]
              generalize (if 0 < first then node.withText (rest.take first) else node) = node
              split
              · split
                · rfl
                · rw [← map_single change, map_finish, map_addWild]
                  rfl
              · split
                · rfl
                · split
                  · rw [← map_single change, map_extend ih]
                    cases extend _ _ _ names value with
                    | error reason => rfl
                    | ok child => simp only [Except.map, map_addWild]
                  · rw [← map_single change, map_extend ih]
                    cases extend _ _ _ names value with
                    | error reason => rfl
                    | ok child =>
                        rw [← map_single change]
                        simp only [Except.map, map_addFollower, map_addWild]

theorem natural_buildAll (names : List Bytes) (value : α) :
    Natural change (fun node rest => node.buildAll rest names value)
      (fun node rest => node.buildAll rest names (change value)) :=
  fun node rest => natural_build (rest.length + 1) names value node rest

theorem map_split (node : Node α) (count : Nat) :
    (node.map change).split count = (node.split count).map change := by
  simp [split, map_eq]

theorem childPlace?_map (node : Node α) (rest : Pattern) :
    (node.map change).childPlace? rest = node.childPlace? rest := by
  simp [childPlace?]

theorem firstBranch_map (fuel : Nat) (node : Node α) (route : Pattern) :
    firstBranch fuel (node.map change) route = firstBranch fuel node route := by
  induction fuel generalizing node route with
  | zero => simp [firstBranch]
  | succ fuel ih =>
      simp only [firstBranch, map_children, map_names]
      cases node.children with
      | nil => rfl
      | cons child rest => simp [ih]

mutual
theorem depth_map (node : Node α) : (node.map change).depth = node.depth := by
  match node with
  | { children, .. } =>
      simp only [map, depth]
      rw [depths_map children]

theorem depths_map (children : List (Node α)) :
    depths (mapAll change children) = depths children := by
  match children with
  | [] => rfl
  | child :: rest =>
      simp only [mapAll, depths]
      rw [depth_map child, depths_map rest]
end

theorem conflict_map (route rest : Pattern) (node : Node α) :
    conflict route rest (node.map change) = conflict route rest node := by
  simp only [conflict, map_text, map_names, depth_map, firstBranch_map]

theorem natural_insertFollower (natural : Natural change before after) (names : List Bytes)
    (value : α) :
    Natural change (insertFollower names value before)
      (insertFollower names (change value) after) := by
  intro node rest
  have found : ((node.map change).children.zipIdx.find? fun entry =>
      entry.1.text.bytes == (rest.take rest.segmentLength).bytes) =
        (node.children.zipIdx.find? fun entry =>
          entry.1.text.bytes == (rest.take rest.segmentLength).bytes).map
            fun entry => (entry.1.map change, entry.2) := by
    rw [map_children, List.zipIdx_map, List.find?_map]
    simp only [Function.comp_def, Prod.map_fst, map_text]
    rfl
  simp only [insertFollower, found]
  cases node.children.zipIdx.find? _ with
  | some entry =>
      obtain ⟨child, place⟩ := entry
      simp only [Option.map_some, map_counted, natural child.counted rest]
      cases before child.counted rest with
      | error reason => rfl
      | ok deeper => simp only [Except.map, bind, Except.bind, pure, Except.pure, map_setChild]
  | none =>
      simp only [Option.map_none]
      split
      · rfl
      · rw [← map_single change, map_extend (natural_buildAll names value)]
        cases extend _ _ _ names value with
        | error reason => rfl
        | ok child => simp only [Except.map, bind, Except.bind, pure, Except.pure, map_addFollower]

theorem map_insertFixed (natural : Natural change before after) (node : Node α) (place : Nat)
    (rest : Pattern) :
    insertFixed after (node.map change) place rest =
      (insertFixed before node place rest).map (map change) := by
  simp only [insertFixed, map_promote, map_children, List.getElem?_map]
  cases (node.promote place).1.children[(node.promote place).2]? with
  | none => rfl
  | some child =>
      simp only [Option.map_some, natural child rest]
      cases before child rest with
      | error reason => rfl
      | ok deeper => simp only [Except.map, bind, Except.bind, pure, Except.pure, map_setChild]

theorem natural_insertNew (names : List Bytes) (value : α) :
    Natural change (insertNew names value) (insertNew names (change value)) := by
  intro node rest
  have added : ({ node.map change with firsts := (node.map change).firsts ++ rest.bytes.take 1 } :
      Node β).addChild {} =
        (({ node with firsts := node.firsts ++ rest.bytes.take 1 } : Node α).addChild {}
          |>.map (map change) id) := by
    rw [← map_empty change]
    have widened : ({ node.map change with
        firsts := (node.map change).firsts ++ rest.bytes.take 1 } : Node β) =
          ({ node with firsts := node.firsts ++ rest.bytes.take 1 } : Node α).map change := by
      simp [map_eq]
    rw [widened, map_addChild]
    rfl
  simp only [insertNew, added, Prod.map]
  exact map_insertFixed (natural_buildAll names value) _ _ rest

theorem natural_insertWild (natural : Natural change before after) (route : Pattern) :
    Natural change (insertWild before route) (insertWild after route) := by
  intro node rest
  simp only [insertWild, map_children, List.getLast?_map]
  cases node.children.getLast? with
  | none => rfl
  | some child =>
      simp only [Option.map_some, map_counted, map_text, map_kind, conflict_map,
        natural child.counted rest]
      split
      · rfl
      · cases before child.counted rest with
        | error reason => rfl
        | ok deeper =>
            simp only [Except.map, bind, Except.bind, pure, Except.pure, List.length_map,
              map_setChild]

theorem natural_insertBeyond (natural : Natural change before after) (names : List Bytes)
    (value : α) (route : Pattern) :
    Natural change (insertBeyond names value before route)
      (insertBeyond names (change value) after route) := by
  intro node rest
  simp only [insertBeyond, map_kind, map_wild, childPlace?_map]
  split
  · exact natural_insertFollower natural names value node rest
  · split
    · exact map_insertFixed natural node _ rest
    · split
      · exact natural_insertNew names value node rest
      · split
        · exact natural_insertWild natural route node rest
        · exact natural_buildAll names value node rest

theorem natural_insertBelow (names : List Bytes) (value : α) (route : Pattern) (fuel : Nat) :
    Natural change (insertBelow names value route fuel)
      (insertBelow names (change value) route fuel) := by
  induction fuel with
  | zero => intro node rest; rfl
  | succ fuel ih =>
      intro node rest
      have cut : (if commonLength rest node.text < node.text.length then
          (node.map change).split (commonLength rest node.text) else node.map change) =
            (if commonLength rest node.text < node.text.length then
              node.split (commonLength rest node.text) else node).map change := by
        split
        · exact map_split node _
        · rfl
      simp only [insertBelow, map_text, cut]
      generalize (if commonLength rest node.text < node.text.length then
        node.split (commonLength rest node.text) else node) = reached
      split
      · simp only [map_value, Option.isSome_map, conflict_map, map_finish]
        split <;> rfl
      · exact natural_insertBeyond ih names value route reached _

/-- A tree of changed values is the changed tree. -/
theorem map_insert (root : Node α) (path : String) (value : α) :
    (root.map change).insert path (change value) = (root.insert path value).map (map change) := by
  simp only [insert]
  cases (Pattern.ofText path).normalize with
  | error reason => rfl
  | ok normal =>
      obtain ⟨route, names⟩ := normal
      simp only [bind, Except.bind, map_counted, map_text, map_children, List.isEmpty_map]
      split
      · exact natural_buildAll names value root.counted route
      · exact natural_insertBelow names value route _ root.counted route

/-! ## Looking up -/

theorem named_map (node : Node α) (captured : List Bytes) :
    (node.map change).named captured = node.named captured := by
  simp [named]

def Match.map (change : α -> β) (found : Match α) : Match β := ⟨change found.value, found.params⟩

section Search

variable {search : Node α -> Bytes -> List Bytes -> Option (Match α)}
  {searchAfter : Node β -> Bytes -> List Bytes -> Option (Match β)}

theorem lookupFixed_map (natural : ∀ node path captured,
      searchAfter (node.map change) path captured =
        (search node path captured).map (Match.map change))
    (node : Node α) (path : Bytes) (captured : List Bytes) :
    lookupFixed searchAfter (node.map change) path captured =
      (lookupFixed search node path captured).map (Match.map change) := by
  simp only [lookupFixed, map_firsts, map_children]
  cases node.firsts.zipIdx.find? _ with
  | none => rfl
  | some entry =>
      simp only [Option.bind_some, List.getElem?_map]
      cases node.children[entry.2]? with
      | none => rfl
      | some child => exact natural child path captured

theorem lookupWild_map (natural : ∀ node path captured,
      searchAfter (node.map change) path captured =
        (search node path captured).map (Match.map change))
    (child : Node α) (path : Bytes) (captured : List Bytes) :
    lookupWild searchAfter (child.map change) path captured =
      (lookupWild search child path captured).map (Match.map change) := by
  simp only [lookupWild, map_kind, map_value, map_text, map_children, named_map]
  split
  · cases child.value <;> rfl
  · split
    · rfl
    · rw [List.find?_map]
      simp only [Function.comp_def, map_text]
      cases child.children.find? _ with
      | some follower =>
          simp only [Option.map_some, map_text]
          exact natural follower _ _
      | none =>
          simp only [Option.map_none]
          split
          · cases child.value <;> rfl
          · rfl

end Search

theorem lookupFrom_map (fuel : Nat) (node : Node α) (path : Bytes) (captured : List Bytes) :
    lookupFrom fuel (node.map change) path captured =
      (lookupFrom fuel node path captured).map (Match.map change) := by
  induction fuel generalizing node path captured with
  | zero => rfl
  | succ fuel ih =>
      simp only [lookupFrom, map_text, map_value, named_map, map_children, map_wild]
      split
      · split
        · cases node.value <;> rfl
        · rfl
      · split
        · rfl
        · rw [lookupFixed_map ih]
          cases lookupFixed (lookupFrom fuel) node _ captured with
          | some found => rfl
          | none =>
              simp only [Option.map_none, Option.none_or]
              split
              · rw [List.getLast?_map]
                cases node.children.getLast? with
                | none => rfl
                | some child => exact lookupWild_map ih child _ captured
              · rfl

/-- A path finds in a changed tree the changed value of what it finds in the tree. -/
theorem map_lookup (root : Node α) (path : Bytes) :
    (root.map change).lookup path = (root.lookup path).map (Match.map change) :=
  lookupFrom_map _ root path []

end HttpService.Node
