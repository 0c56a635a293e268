import HttpService.Proofs.RouteTrees
import HttpService.Router
/-! # Registered routes

A router is filled one route at a time, and what it keeps of a route is a handler that all layers
are wrapped around already. `find?_ofRoutes` says what it finds for a request: of the routes that
were registered under exactly the request's method, the one that their tree gives for the path, with
the layers of the router around the layers of the route around its handler. Routes under other
methods have no influence. -/
set_option autoImplicit false

namespace HttpService

theorem exists_of_bind {ε α β : Type} {first : Except ε α} {next : α -> Except ε β} {b : β}
    (passed : first >>= next = .ok b) : ∃ a, first = .ok a ∧ next a = .ok b := by
  cases first with
  | error reason => cases passed
  | ok a => exact ⟨a, rfl, passed⟩

def Request.get (path : String) : Request where
  method := .get
  uri := ⟨false, Bytes.ofText path, none⟩
  headers := .empty
  body := []

structure Route where
  method : Method
  path : String
  layers : List Layer
  handler : Handler

namespace Route

def inside (route : Route) : Handler := compose route.layers route.handler

def whole (layers : List Layer) (route : Route) : Handler := compose layers route.inside

def tree (method : Method) (routes : List Route) : Except RouteError (Node Route) :=
  (routes.filter fun route => route.method = method).foldlM
    (fun tree route => tree.insert route.path route) {}

/-- The route that a request matches among those under its method, with what its path captured. -/
def match? (routes : List Route) (request : Request) : Option (Route × List (String × String)) :=
  match tree request.method routes with
  | .error _ => none
  | .ok tree =>
      (tree.lookup request.uri.path).map fun found =>
        (found.value,
          found.params.map fun (name, value) => (Request.textOf name, Request.textOf value))

theorem tree_append_same (routes : List Route) (route : Route) (before : Node Route)
    (built : tree route.method routes = .ok before) :
    tree route.method (routes ++ [route]) = before.insert route.path route := by
  simp only [tree, List.filter_append, List.foldlM_append] at built ⊢
  rw [built]
  simp only [decide_true, List.filter_cons_of_pos, List.filter_nil, List.foldlM_cons,
    List.foldlM_nil, bind_pure]
  rfl

theorem tree_append_other (routes : List Route) (route : Route) (method : Method)
    (other : route.method ≠ method) :
    tree method (routes ++ [route]) = tree method routes := by
  simp [tree, List.filter_append, other]

theorem tree_front {method : Method} {routes rest : List Route} {root : Node Route}
    (built : tree method (routes ++ rest) = .ok root) : ∃ front, tree method routes = .ok front := by
  rw [tree, List.filter_append, List.foldlM_append] at built
  obtain ⟨front, ok, _⟩ := exists_of_bind built
  exact ⟨front, ok⟩

/-- A tree of items that stand for others is the tree of the others with these in their places. -/
theorem foldlM_insert_map {α β : Type} (stands : α -> β) (path : β -> String) (added : List α)
    (start : Node α) :
    (added.map stands).foldlM (fun tree item => Node.insert tree (path item) item)
        (start.map stands) =
      (added.foldlM (fun tree item => Node.insert tree (path (stands item)) item) start).map
        (Node.map stands) := by
  induction added generalizing start with
  | nil => rfl
  | cons item rest ih =>
      simp only [List.map_cons, List.foldlM_cons, Node.map_insert]
      cases start.insert (path (stands item)) item with
      | error reason => rfl
      | ok grown => exact ih grown

/-- What a request matches is a route under its method. -/
theorem mem_of_match? {routes : List Route} {request : Request} {route : Route}
    {params : List (String × String)} (found : match? routes request = some (route, params)) :
    route ∈ routes ∧ route.method = request.method := by
  -- In the tree of the routes with their membership, every value is a member.
  have attached := foldlM_insert_map Subtype.val path
    (routes.filter fun route => route.method = request.method).attach {}
  rw [List.attach_map_subtype_val, Node.map_empty] at attached
  simp only [match?, tree, attached] at found
  split at found
  next => cases found
  next tree built =>
    cases grown : (routes.filter fun route => route.method = request.method).attach.foldlM
        (fun tree item => tree.insert item.val.path item) ({} : Node _) with
    | error reason => simp [grown, Except.map] at built
    | ok members =>
        simp only [grown, Except.map, Except.ok.injEq] at built
        rw [← built, Node.map_lookup] at found
        cases reached : members.lookup request.uri.path with
        | none => simp [reached] at found
        | some member =>
            simp only [reached, Option.map_some, Option.some.injEq, Prod.mk.injEq] at found
            have present := member.value.property
            rw [← found.1]
            simpa [Node.Match.map] using present

end Route

namespace Node

variable {α : Type}

theorem lookup_empty (path : Bytes) : ({} : Node α).lookup path = none := by
  cases path with
  | nil => rfl
  | cons byte rest => simp [lookup, lookupFrom, lookupFixed, Pattern.length, Pattern.empty]

end Node

namespace Router

def ofRoutes (layers : List Layer) (routes : List Route) : Except RouteError Router :=
  routes.foldlM
    (fun router route => router.add route.method route.path route.layers route.handler) { layers }

/-- The router keeps just these routes, under each method the tree of what is kept of them. -/
def Keeps (layers : List Layer) (router : Router) (routes : List Route) : Prop :=
  router.layers = layers ∧
    ∀ method : Method, ∃ tree, Route.tree method routes = .ok tree ∧
      (router.routes.find? method.name).getD {} = tree.map (Route.whole layers)

theorem keeps_nil (layers : List Layer) : Keeps layers { layers } [] := by
  refine ⟨rfl, ?_⟩
  intro method
  refine ⟨{}, rfl, ?_⟩
  rw [Node.map_empty]
  rfl

/-- Adding a route succeeds as adding it to the tree of the routes before does. -/
theorem add_eq {layers : List Layer} {router : Router} {route : Route} {tree : Node Route}
    (sameLayers : router.layers = layers)
    (kept : (router.routes.find? route.method.name).getD {} = tree.map (Route.whole layers)) :
    router.add route.method route.path route.layers route.handler =
      (tree.insert route.path route).map fun grown =>
        { router with
          routes := router.routes.insert route.method.name (grown.map (Route.whole layers)) } := by
  have inserted : router.add route.method route.path route.layers route.handler =
      ((tree.map (Route.whole layers)).insert route.path (route.whole layers)).map fun grown =>
        { router with routes := router.routes.insert route.method.name grown } := by
    simp only [add, sameLayers, kept]
    rfl
  rw [inserted, Node.map_insert]
  cases tree.insert route.path route <;> rfl

theorem keeps_add {layers : List Layer} {router next : Router} {routes : List Route}
    (keeps : Keeps layers router routes) (route : Route)
    (added : router.add route.method route.path route.layers route.handler = .ok next) :
    Keeps layers next (routes ++ [route]) := by
  obtain ⟨sameLayers, trees⟩ := keeps
  obtain ⟨tree, built, kept⟩ := trees route.method
  rw [add_eq sameLayers kept] at added
  cases grows : tree.insert route.path route with
  | error reason => simp [grows, Except.map] at added
  | ok grown =>
      simp only [grows, Except.map, Except.ok.injEq] at added
      subst next
      refine ⟨sameLayers, ?_⟩
      intro method
      by_cases same : route.method = method
      · subst method
        refine ⟨grown, (Route.tree_append_same routes route tree built).trans grows, ?_⟩
        simp [Dictionary.find?_insert]
      · obtain ⟨other, otherBuilt, otherKept⟩ := trees method
        have differs : route.method.name ≠ method.name := by
          intro equal
          apply same
          cases hm : route.method
          cases method
          simp_all
        refine ⟨other, (Route.tree_append_other routes route method same).trans otherBuilt, ?_⟩
        simpa [Dictionary.find?_insert, differs] using otherKept

theorem keeps_foldlM {layers : List Layer} (added : List Route) :
    ∀ {router next : Router} {routes : List Route}, Keeps layers router routes ->
      added.foldlM (fun router route =>
        router.add route.method route.path route.layers route.handler) router = .ok next ->
      Keeps layers next (routes ++ added) := by
  induction added with
  | nil =>
      intro router next routes keeps built
      simp only [List.foldlM_nil, pure, Except.pure, Except.ok.injEq] at built
      rw [← built, List.append_nil]
      exact keeps
  | cons route rest ih =>
      intro router next routes keeps built
      rw [List.foldlM_cons] at built
      cases stepped : router.add route.method route.path route.layers route.handler with
      | error reason => simp [stepped, bind, Except.bind] at built
      | ok between =>
          simp only [stepped, bind, Except.bind] at built
          have extended := ih (keeps_add keeps route stepped) built
          rwa [List.append_assoc] at extended

theorem foldlM_add_ok {layers : List Layer} (added : List Route) :
    ∀ {router : Router} {routes : List Route}, Keeps layers router routes ->
      (∀ method, ∃ root, Route.tree method (routes ++ added) = .ok root) ->
      ∃ next, added.foldlM (fun router route =>
        router.add route.method route.path route.layers route.handler) router = .ok next := by
  induction added with
  | nil =>
      intro router routes _ _
      exact ⟨router, rfl⟩
  | cons route rest ih =>
      intro router routes keeps trees
      have regrouped : routes ++ route :: rest = (routes ++ [route]) ++ rest := by simp
      rw [regrouped] at trees
      obtain ⟨root, whole⟩ := trees route.method
      obtain ⟨front, grows⟩ := Route.tree_front whole
      obtain ⟨tree, built, kept⟩ := keeps.2 route.method
      rw [Route.tree_append_same routes route tree built] at grows
      have stepped := add_eq keeps.1 kept
      rw [grows, Except.map] at stepped
      obtain ⟨next, filled⟩ := ih (keeps_add keeps route stepped) trees
      refine ⟨next, ?_⟩
      rw [List.foldlM_cons, stepped]
      exact filled

theorem ofRoutes_ok {routes : List Route}
    (trees : ∀ method, ∃ root, Route.tree method routes = .ok root) (layers : List Layer) :
    ∃ router, ofRoutes layers routes = .ok router :=
  foldlM_add_ok routes (keeps_nil layers) trees

/-- What a router finds for a request, in terms of the routes it was made of. -/
theorem find?_ofRoutes {layers : List Layer} {routes : List Route} {router : Router}
    (built : ofRoutes layers routes = .ok router) (request : Request) :
    router.find? request =
      (Route.match? routes request).map fun found => (found.1.whole layers, found.2) := by
  obtain ⟨-, trees⟩ := keeps_foldlM routes (keeps_nil layers) built
  obtain ⟨tree, treeBuilt, kept⟩ := trees request.method
  rw [List.nil_append] at treeBuilt
  have looked : ((router.routes.find? request.method.name).getD {}).lookup request.uri.path =
      (tree.lookup request.uri.path).map (Node.Match.map (Route.whole layers)) := by
    rw [kept, Node.map_lookup]
  simp only [Route.match?, treeBuilt, find?]
  cases stored : router.routes.find? request.method.name with
  | none =>
      rw [stored, Option.getD_none, Node.lookup_empty] at looked
      cases found : tree.lookup request.uri.path with
      | none => rfl
      | some reached => simp [found] at looked
  | some node =>
      rw [stored, Option.getD_some] at looked
      simp only [bind, Option.bind, looked]
      cases tree.lookup request.uri.path <;> rfl

end Router

end HttpService
