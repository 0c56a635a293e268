import HttpService.Proofs.Registration
import Mathlib.Data.List.Nodup
/-! # Routes without parameters

A route tree without parameters spells out its paths (`Node.spelled`): the texts along a branch, one
after the other. Where the children of every node begin with different bytes (`Node.isLiteral`), a
path is found exactly if it is spelled out: `lookup_literal`. So a request matches such routes by
nothing but its method and its whole path: `Route.match?_literal`, which asks for a condition on the
paths alone that can be computed (`Route.areLiteral`). -/
set_option autoImplicit false

namespace HttpService

namespace Node

variable {α : Type}

mutual
/-- The paths that a tree spells out, with their values. -/
def spelled (node : Node α) : List (Bytes × α) :=
  match node with
  | { text, children, value, .. } =>
      (value.toList.map fun value => (text.bytes, value)) ++
        (spelledAll children).map fun entry => (text.bytes ++ entry.1, entry.2)

def spelledAll : List (Node α) -> List (Bytes × α)
  | [] => []
  | child :: rest => spelled child ++ spelledAll rest
end

mutual
/-- The tree has no parameters, and children are told apart by their first bytes. -/
def isLiteral (node : Node α) : Bool :=
  match node with
  | { text, wild, firsts, children, .. } =>
      !text.bytes.isEmpty && !wild &&
        decide (firsts.map some = children.map fun child => child.text.bytes.head?) &&
        decide firsts.Nodup && areLiteral children

def areLiteral : List (Node α) -> Bool
  | [] => true
  | child :: rest => isLiteral child && areLiteral rest
end

structure Literal (node : Node α) : Prop where
  text : node.text.bytes ≠ []
  wild : node.wild = false
  firsts : node.firsts.map some = node.children.map fun child => child.text.bytes.head?
  distinct : node.firsts.Nodup
  children : ∀ child ∈ node.children, child.isLiteral = true

theorem areLiteral_iff (children : List (Node α)) :
    areLiteral children = true ↔ ∀ child ∈ children, child.isLiteral = true := by
  induction children with
  | nil => simp [areLiteral]
  | cons child rest hypothesis => simp [areLiteral, hypothesis]

theorem literal_of_isLiteral {node : Node α} (literal : node.isLiteral = true) :
    node.Literal := by
  cases node with
  | mk kind text priority wild firsts children value names =>
      simp only [isLiteral, Bool.and_eq_true, Bool.not_eq_true', List.isEmpty_eq_false_iff,
        decide_eq_true_eq, areLiteral_iff] at literal
      obtain ⟨⟨⟨⟨nonempty, wild⟩, firsts⟩, distinct⟩, children⟩ := literal
      exact ⟨nonempty, wild, firsts, distinct, children⟩

theorem mem_spelledAll (children : List (Node α)) (entry : Bytes × α) :
    entry ∈ spelledAll children ↔ ∃ child ∈ children, entry ∈ child.spelled := by
  induction children with
  | nil => simp [spelledAll]
  | cons child rest hypothesis => simp [spelledAll, hypothesis]

/-- A path ends with the text of a node or goes on below one of its children. -/
theorem mem_spelled (node : Node α) (path : Bytes) (value : α) :
    (path, value) ∈ node.spelled ↔
      path = node.text.bytes ∧ node.value = some value ∨
        ∃ child ∈ node.children, ∃ rest, path = node.text.bytes ++ rest ∧
          (rest, value) ∈ child.spelled := by
  cases node with
  | mk kind text priority wild firsts children kept names =>
      simp only [spelled, List.mem_append, List.mem_map, Option.mem_toList, mem_spelledAll,
        Prod.mk.injEq, Prod.exists]
      constructor
      · rintro (⟨_, present, rfl, rfl⟩ | ⟨rest, _, ⟨child, member, below⟩, rfl, rfl⟩)
        · exact .inl ⟨rfl, present⟩
        · exact .inr ⟨child, member, rest, rfl, below⟩
      · rintro (⟨rfl, present⟩ | ⟨child, member, rest, rfl, below⟩)
        · exact .inl ⟨value, present, rfl, rfl⟩
        · exact .inr ⟨rest, value, ⟨child, member, below⟩, rfl, rfl⟩

theorem head?_of_spelled {node : Node α} (literal : node.isLiteral = true) {path : Bytes}
    {value : α} (present : (path, value) ∈ node.spelled) :
    path.head? = node.text.bytes.head? ∧ path ≠ [] := by
  have nonempty := (literal_of_isLiteral literal).text
  rcases (mem_spelled node path value).mp present with ⟨rfl, _⟩ | ⟨_, _, rest, rfl, _⟩
  · exact ⟨rfl, nonempty⟩
  · cases texts : node.text.bytes with
    | nil => exact absurd texts nonempty
    | cons first others => exact ⟨rfl, by simp⟩

/-- The first bytes find the child that begins as the path does. -/
theorem lookupFixed_literal {node : Node α} (literal : node.Literal)
    (deeper : Node α -> Bytes -> List Bytes -> Option (Match α)) (path : Bytes)
    (captured : List Bytes) (found : Match α) :
    lookupFixed deeper node path captured = some found ↔
      ∃ child ∈ node.children, child.text.bytes.head? = path.head? ∧ path ≠ [] ∧
        deeper child path captured = some found := by
  have paired (place : Nat) : node.firsts[place]?.map some =
      node.children[place]?.map fun child => child.text.bytes.head? := by
    rw [← List.getElem?_map, ← List.getElem?_map, literal.firsts]
  simp only [lookupFixed, Option.bind_eq_some_iff]
  constructor
  · rintro ⟨⟨first, place⟩, chosen, child, here, reached⟩
    have begins := List.find?_some chosen
    have listed := List.mem_zipIdx_iff_getElem?.mp (List.mem_of_find?_eq_some chosen)
    have same := paired place
    simp only at here listed begins
    rw [listed, here] at same
    rw [beq_iff_eq] at begins
    refine ⟨child, List.mem_of_getElem? here, (Option.some.inj same).symm.trans begins, ?_, reached⟩
    rintro rfl
    cases begins
  · rintro ⟨child, member, begins, nonempty, reached⟩
    obtain ⟨place, here⟩ := List.getElem?_of_mem member
    cases path with
    | nil => exact absurd rfl nonempty
    | cons first rest =>
        have same := paired place
        rw [here, Option.map_some, begins, List.head?_cons] at same
        obtain ⟨byte, listed, equal⟩ := Option.map_eq_some_iff.mp same
        obtain rfl := Option.some.inj equal
        have present : (byte, place) ∈ node.firsts.zipIdx :=
          List.mem_zipIdx_iff_getElem?.mpr listed
        cases chosen : node.firsts.zipIdx.find? fun entry =>
            some entry.1 == (byte :: rest).head? with
        | none =>
            have passed := List.find?_eq_none.mp chosen _ present
            simp at passed
        | some entry =>
            obtain ⟨other, index⟩ := entry
            have equal := List.find?_some chosen
            have alsoListed := List.mem_zipIdx_iff_getElem?.mp (List.mem_of_find?_eq_some chosen)
            simp only [List.head?_cons, beq_iff_eq, Option.some.injEq] at equal alsoListed
            subst other
            have inside : index < node.firsts.length := by
              rw [List.getElem?_eq_some_iff] at alsoListed
              exact alsoListed.1
            have samePlace : index = place :=
              (List.getElem?_inj inside literal.distinct).mp (alsoListed.trans listed.symm)
            subst samePlace
            exact ⟨_, rfl, child, here, reached⟩

theorem lookupFrom_literal (fuel : Nat) {node : Node α} (literal : node.isLiteral = true)
    {path : Bytes} (enough : path.length < fuel) (found : Match α) :
    lookupFrom fuel node path [] = some found ↔
      (path, found.value) ∈ node.spelled ∧ found.params = [] := by
  induction fuel generalizing node path with
  | zero => omega
  | succ fuel hypothesis =>
      have shape := literal_of_isLiteral literal
      have nonempty (child : Node α) (member : child ∈ node.children) (rest : Bytes)
          (value : α) (below : (rest, value) ∈ child.spelled) : 0 < rest.length :=
        List.length_pos_iff.mpr (head?_of_spelled (shape.children child member) below).2
      rw [mem_spelled]
      have size : node.text.length = node.text.bytes.length := rfl
      by_cases short : path.length ≤ node.text.length
      case pos =>
        have notBelow : ¬ ∃ child ∈ node.children, ∃ rest, path = node.text.bytes ++ rest ∧
            (rest, found.value) ∈ child.spelled := by
          rintro ⟨child, member, rest, rfl, below⟩
          have further := nonempty child member rest _ below
          simp only [List.length_append] at short
          omega
        simp only [lookupFrom, if_pos short, notBelow, or_false]
        by_cases whole : path = node.text.bytes
        · cases found with
          | mk value params =>
              simp only [whole, if_true, true_and, named, List.zip_nil_right,
                Option.map_eq_some_iff, Match.mk.injEq]
              constructor
              · rintro ⟨_, present, rfl, rfl⟩
                exact ⟨present, rfl⟩
              · rintro ⟨present, rfl⟩
                exact ⟨value, present, rfl, rfl⟩
        · simp [whole]
      case neg =>
        have notWhole : path ≠ node.text.bytes := by
          rintro rfl
          exact short (Nat.le_refl _)
        simp only [lookupFrom, if_neg short, shape.wild, notWhole, false_and,
          false_or, Bool.false_eq_true, if_false, Option.or_none]
        by_cases front : node.text.bytes.isPrefixOf path = true
        case neg =>
          have notBelow : ¬ ∃ child ∈ node.children, ∃ rest, path = node.text.bytes ++ rest ∧
              (rest, found.value) ∈ child.spelled := by
            rintro ⟨child, member, rest, rfl, below⟩
            exact front (List.isPrefixOf_iff_prefix.mpr (List.prefix_append _ _))
          simp [front, notBelow]
        case pos =>
          obtain ⟨rest, rfl⟩ := List.isPrefixOf_iff_prefix.mp front
          have smaller : rest.length < fuel := by
            have positive := List.length_pos_iff.mpr shape.text
            simp only [List.length_append] at enough
            omega
          simp only [front, Bool.not_true, Bool.false_eq_true, if_false, size, List.drop_left,
            List.append_cancel_left_eq, exists_eq_left', lookupFixed_literal shape]
          constructor
          · rintro ⟨child, member, _, _, reached⟩
            obtain ⟨below, bare⟩ :=
              (hypothesis (shape.children child member) smaller).mp reached
            exact ⟨⟨child, member, below⟩, bare⟩
          · rintro ⟨⟨child, member, below⟩, bare⟩
            obtain ⟨begins, further⟩ := head?_of_spelled (shape.children child member) below
            exact ⟨child, member, begins.symm, further,
              (hypothesis (shape.children child member) smaller).mpr ⟨below, bare⟩⟩

/-- A path is found in a literal tree exactly if it is spelled out there, and nothing is captured. -/
theorem lookup_literal {root : Node α} (literal : root.isLiteral = true) (path : Bytes)
    (found : Match α) :
    root.lookup path = some found ↔ (path, found.value) ∈ root.spelled ∧ found.params = [] :=
  lookupFrom_literal (path.length + 2) literal (by omega) found

section Change

variable {β : Type} (change : α -> β)

mutual
theorem spelled_map (node : Node α) :
    (node.map change).spelled = node.spelled.map fun entry => (entry.1, change entry.2) := by
  match node with
  | { text, children, value, .. } =>
      simp only [map, spelled, spelledAll_mapAll children, List.map_append, List.map_map]
      cases value <;> rfl

theorem spelledAll_mapAll (children : List (Node α)) :
    spelledAll (mapAll change children) =
      (spelledAll children).map fun entry => (entry.1, change entry.2) := by
  match children with
  | [] => rfl
  | child :: rest =>
      simp only [mapAll, spelledAll, List.map_append]
      rw [spelled_map child, spelledAll_mapAll rest]
end

mutual
theorem isLiteral_map (node : Node α) : (node.map change).isLiteral = node.isLiteral := by
  match node with
  | { text, wild, firsts, children, .. } =>
      simp only [map, isLiteral, areLiteral_mapAll children]
      simp only [mapAll_eq, List.map_map, Function.comp_def, map_text]

theorem areLiteral_mapAll (children : List (Node α)) :
    areLiteral (mapAll change children) = areLiteral children := by
  match children with
  | [] => rfl
  | child :: rest =>
      simp only [mapAll, areLiteral]
      rw [isLiteral_map child, areLiteral_mapAll rest]
end

end Change

end Node

namespace Route

def areLiteral (paths : List String) : Bool :=
  match paths.foldlM (fun tree path => tree.insert path path) ({} : Node String) with
  | .error _ => false
  | .ok tree =>
      tree.isLiteral && decide paths.Nodup &&
        (tree.spelled.all fun entry => entry.1 == Bytes.ofText entry.2) &&
        paths.all fun path => (tree.spelled.map Prod.snd).contains path

section Literal

variable {method : Method} {routes : List Route}

theorem tree_paths (same : ∀ route ∈ routes, route.method = method) :
    (routes.map path).foldlM (fun tree path => tree.insert path path) ({} : Node String) =
      (tree method routes).map (Node.map path) := by
  have all : (routes.filter fun route => route.method = method) = routes :=
    List.filter_eq_self.mpr fun route member => decide_eq_true (same route member)
  have mapped := foldlM_insert_map path id routes {}
  rw [Node.map_empty] at mapped
  simp only [tree, all]
  exact mapped

theorem tree_literal (literal : areLiteral (routes.map path) = true)
    (same : ∀ route ∈ routes, route.method = method) :
    ∃ root, tree method routes = .ok root ∧ root.isLiteral = true ∧ (routes.map path).Nodup ∧
      (∀ bytes route, (bytes, route) ∈ root.spelled -> bytes = Bytes.ofText route.path) ∧
      ∀ route ∈ routes, ∃ bytes other, (bytes, other) ∈ root.spelled ∧ other.path = route.path := by
  rw [areLiteral, tree_paths same] at literal
  cases built : tree method routes with
  | error reason =>
      rw [built] at literal
      cases literal
  | ok root =>
      rw [built] at literal
      simp only [Except.map, Node.isLiteral_map, Node.spelled_map, Bool.and_eq_true,
        decide_eq_true_eq, List.all_eq_true, List.mem_map, List.contains_iff_mem, List.map_map,
        forall_exists_index, and_imp, beq_iff_eq] at literal
      obtain ⟨⟨⟨literal, distinct⟩, spelled⟩, complete⟩ := literal
      refine ⟨root, rfl, literal, distinct, ?_, ?_⟩
      · intro bytes route present
        exact spelled _ (bytes, route) present rfl
      · intro route member
        obtain ⟨⟨bytes, other⟩, present, equal⟩ := complete route.path route member rfl
        exact ⟨bytes, other, present, equal⟩

theorem ofRoutes_literal (literal : areLiteral (routes.map path) = true)
    (same : ∀ route ∈ routes, route.method = method) (layers : List Layer) :
    ∃ router, Router.ofRoutes layers routes = .ok router := by
  refine Router.ofRoutes_ok ?_ layers
  intro other
  by_cases asked : other = method
  · subst asked
    obtain ⟨root, built, _⟩ := tree_literal literal same
    exact ⟨root, built⟩
  · have none : (routes.filter fun route => route.method = other) = [] := by
      refine List.filter_eq_nil_iff.mpr fun route member => ?_
      rw [same route member, decide_eq_true_eq]
      exact Ne.symm asked
    exact ⟨{}, by rw [tree, none]; rfl⟩

/-- **Literal routes** are matched by their method and their whole path, and by nothing else. -/
theorem match?_literal (literal : areLiteral (routes.map path) = true)
    (same : ∀ route ∈ routes, route.method = method) (request : Request) (route : Route)
    (params : List (String × String)) :
    match? routes request = some (route, params) ↔
      request.method = method ∧ route ∈ routes ∧ request.uri.path = Bytes.ofText route.path ∧
        params = [] := by
  obtain ⟨root, built, literal, distinct, spelled, complete⟩ := tree_literal literal same
  constructor
  · intro matched
    obtain ⟨member, named⟩ := mem_of_match? matched
    have asked : request.method = method := named.symm.trans (same route member)
    rw [match?, asked, built] at matched
    obtain ⟨found, reached, parts⟩ := Option.map_eq_some_iff.mp matched
    obtain ⟨present, bare⟩ := (Node.lookup_literal literal _ _).mp reached
    rw [Prod.mk.injEq, bare] at parts
    obtain ⟨rfl, rfl⟩ := parts
    exact ⟨asked, member, spelled _ _ present, rfl⟩
  · rintro ⟨rfl, member, whole, rfl⟩
    obtain ⟨bytes, other, present, samePath⟩ := complete route member
    have otherBytes := spelled bytes other present
    rw [samePath, ← whole] at otherBytes
    subst otherBytes
    have reached : root.lookup request.uri.path = some ⟨other, []⟩ :=
      (Node.lookup_literal literal _ _).mpr ⟨present, rfl⟩
    have matched : match? routes request = some (other, []) := by
      rw [match?, built]
      simp only [reached]
      rfl
    have equal : other = route :=
      List.inj_on_of_nodup_map distinct (mem_of_match? matched).1 member samePath
    rw [matched, equal]

end Literal

end Route

end HttpService
