import HttpService.Route.Pattern
/-! # Route trees

Routes as a tree of text fragments. Below a fragment stand the fragments that may follow it, each
with another first byte, and last, perhaps, a parameter. Below a parameter stand the texts that may
follow it in its segment, longest first. `Node.insert` adds a route and refuses one that conflicts
with a present route; `Node.lookup` finds the route of a path, trying a fixed text before a
parameter and going back to the parameter when the fixed text leads nowhere. -/
set_option autoImplicit false

namespace HttpService

/-- What a node of a route tree stands for. -/
inductive NodeKind where
  /-- Exactly its text. -/
  | fixed
  /-- The rest of a segment, but for what its children want after it. -/
  | parameter
  /-- The whole rest of a path. -/
  | catchAll
deriving DecidableEq, Inhabited

structure Node (α : Type) where
  kind : NodeKind := .fixed
  text : Pattern := .empty
  /-- How many routes were added through this node. -/
  priority : Nat := 0
  /-- Is the last child a parameter? -/
  wild : Bool := false
  /-- The first bytes of the fixed children. -/
  firsts : Bytes := []
  children : List (Node α) := []
  value : Option α := none
  /-- The names that the parameters of this node's route were given. -/
  names : List Bytes := []

namespace Node

variable {α : Type}

instance : Inhabited (Node α) := ⟨{}⟩

/-- Adds a child before the parameter, if there is one. Returns its place too. -/
def addChild (node : Node α) (child : Node α) : Node α × Nat :=
  let place := if node.wild then node.children.length - 1 else node.children.length
  ({ node with children := node.children.take place ++ child :: node.children.drop place }, place)

/-- Adds the text that may follow a parameter; longer texts come first. -/
def addFollower (node : Node α) (child : Node α) : Node α × Nat :=
  let place :=
    (node.children.takeWhile fun other => child.text.length ≤ other.text.length).length
  ({ node with children := node.children.take place ++ child :: node.children.drop place }, place)

/-- Where a child of the given priority belongs that stands at `place`. -/
def placeFor (children : List (Node α)) (priority : Nat) : Nat -> Nat
  | 0 => 0
  | place + 1 =>
      match children[place]? with
      | some before =>
          if before.priority < priority then placeFor children priority place else place + 1
      | none => place + 1

/-- Moves the element at `source` to `target`, which is not behind it. -/
def moveForward {β : Type} (items : List β) (source target : Nat) : List β :=
  match items[source]? with
  | none => items
  | some item =>
      let others := items.eraseIdx source
      others.take target ++ item :: others.drop target

def counted (node : Node α) : Node α := { node with priority := node.priority + 1 }

/-- Counts one more route through a child and moves it before those with fewer. -/
def promote (node : Node α) (place : Nat) : Node α × Nat :=
  let children := node.children.modify place counted
  let priority := (children[place]?.map Node.priority).getD 0
  let target := placeFor children priority place
  ({ node with
      children := moveForward children place target
      firsts := if target = place then node.firsts else moveForward node.firsts place target },
    target)

def setChild (node : Node α) (place : Nat) (child : Node α) : Node α :=
  { node with children := node.children.set place child }

def finish (node : Node α) (names : List Bytes) (value : α) : Node α :=
  { node with value := some value, names }

def single (kind : NodeKind) (text : Pattern) : Node α := { kind, text, priority := 1 }

def withText (node : Node α) (text : Pattern) : Node α := { node with text }

def addWild (node : Node α) (child : Node α) : Node α :=
  { (node.addChild child).1 with wild := true }

/-- Adds a fixed child that begins as `beyond` does. -/
def addFixed (node : Node α) (child : Node α) (beyond : Pattern) : Node α :=
  { (node.addChild child).1 with firsts := node.firsts ++ beyond.bytes.take 1 }

/-- Goes on below a new node with the rest of its route; `make` makes the rest of a route out of a
node without a route of its own. -/
def extend (make : Node α -> Pattern -> Except RouteError (Node α)) (base : Node α)
    (beyond : Pattern) (names : List Bytes) (value : α) : Except RouteError (Node α) :=
  if beyond.bytes.isEmpty then pure (base.finish names value)
  else if beyond.startsWild then make base beyond
  else do return base.addFixed (← make (single .fixed .empty) beyond) beyond

/-- Makes the rest of a route out of a node without a route of its own. -/
def build : Nat -> Node α -> Pattern -> List Bytes -> α -> Except RouteError (Node α)
  | 0, node, _, _, _ => pure node
  | fuel + 1, node, rest, names, value => do
      match (← rest.wildcard?) with
      | none => return (node.withText rest).finish names value
      | some (first, last) =>
          let node := if 0 < first then node.withText (rest.take first) else node
          let rest := rest.drop first
          let last := last - first
          if rest.bytes[1]? = some Pattern.star then
            if last ≠ rest.length then throw .catchAllPlace
            else return node.addWild ((single .catchAll rest).finish names value)
          else
            let ending := rest.segmentLength
            let follower := (rest.take ending).drop last
            if follower.hasWildcard then throw .parameterSegment
            else
              let below (base : Node α) : Except RouteError (Node α) :=
                extend (fun node rest => build fuel node rest names value) base
                  (rest.drop ending) names value
              let parameter := single .parameter (rest.take last)
              if follower.bytes.isEmpty then return node.addWild (← below parameter)
              else
                return node.addWild (parameter.addFollower (← below (single .fixed follower))).1

/-- Makes the rest of a route; its length bounds the number of parameters. -/
def buildAll (node : Node α) (rest : Pattern) (names : List Bytes) (value : α) :
    Except RouteError (Node α) :=
  build (rest.length + 1) node rest names value

/-- How many bytes at the front agree, braces that stand for themselves being different from those
that do not. -/
def commonLength (left right : Pattern) : Nat :=
  let agrees (entry : (UInt8 × UInt8) × Nat) : Bool :=
    entry.1.1 == entry.1.2 && left.isEscaped entry.2 == right.isEscaped entry.2
  ((left.bytes.zip right.bytes).zipIdx.takeWhile agrees).length

/-- Appends the texts along the first children, down to a leaf, whose names are returned. -/
def firstBranch : Nat -> Node α -> Pattern -> Pattern × List Bytes
  | 0, node, route => (route, node.names)
  | fuel + 1, node, route =>
      match node.children with
      | [] => (route, node.names)
      | child :: _ => firstBranch fuel child (route.append child.text)

mutual
/-- The number of nodes on the longest way down. -/
def depth (node : Node α) : Nat :=
  match node with
  | { children, .. } => depths children + 1

def depths : List (Node α) -> Nat
  | [] => 0
  | child :: rest => max (depth child) (depths rest)
end

/-- The conflict of a route with a node, `rest` being the part of the route not yet placed. -/
def conflict (route rest : Pattern) (node : Node α) : RouteError :=
  if rest.bytes = node.text.bytes then .conflict (route.restore node.names).text
  else
    let start := route.truncate (route.length - rest.length)
    let start :=
      if node.text.bytes.reverse.isPrefixOf start.bytes.reverse then start
      else start.append node.text
    let (whole, names) := firstBranch node.depth node start
    .conflict (whole.restore names).text

/-- Splits a node after `count` bytes of its text. -/
def split (node : Node α) (count : Nat) : Node α :=
  { node with
    children := [{ node with
      kind := .fixed
      text := node.text.drop count
      priority := node.priority - 1 }]
    firsts := (node.text.bytes.drop count).take 1
    text := node.text.take count
    wild := false
    value := none
    names := [] }

/-- The place of the fixed child that begins as `rest` does. -/
def childPlace? (node : Node α) (rest : Pattern) : Option Nat :=
  match rest.bytes.head? with
  | none => none
  | some first =>
      if (first = Pattern.opening || first = Pattern.closing) && !rest.isEscaped 0 then none
      else (node.firsts.zipIdx.find? fun entry => entry.1 == first).map Prod.snd

section Insertion

variable (names : List Bytes) (value : α)

/-- Adds the rest of a route below a parameter, whose children are what may follow it in its
segment. `deeper` adds the rest of a route below a child. -/
def insertFollower (deeper : Node α -> Pattern -> Except RouteError (Node α)) (node : Node α)
    (rest : Pattern) : Except RouteError (Node α) :=
  let ending := rest.segmentLength
  let follower := rest.take ending
  match node.children.zipIdx.find? fun entry => entry.1.text.bytes == follower.bytes with
  | some (child, place) => do return node.setChild place (← deeper child.counted rest)
  | none =>
      if follower.hasWildcard then throw .parameterSegment
      else do
        let child ← extend (fun node rest => node.buildAll rest names value)
          (single .fixed follower) (rest.drop ending) names value
        return (node.addFollower child).1

/-- Adds the rest of a route below the fixed child at a place. -/
def insertFixed (deeper : Node α -> Pattern -> Except RouteError (Node α)) (node : Node α)
    (place : Nat) (rest : Pattern) : Except RouteError (Node α) :=
  let (node, place) := node.promote place
  match node.children[place]? with
  | none => pure node
  | some child => do return node.setChild place (← deeper child rest)

/-- Adds the rest of a route as a new fixed child. -/
def insertNew (node : Node α) (rest : Pattern) : Except RouteError (Node α) :=
  let (node, place) := { node with firsts := node.firsts ++ rest.bytes.take 1 }.addChild {}
  insertFixed (fun child rest => child.buildAll rest names value) node place rest

/-- Adds the rest of a route below the parameter of a node. -/
def insertWild (deeper : Node α -> Pattern -> Except RouteError (Node α)) (route : Pattern)
    (node : Node α) (rest : Pattern) : Except RouteError (Node α) :=
  match node.children.getLast? with
  | none => pure node
  | some child =>
      let child := child.counted
      let differs := child.text.length ≤ rest.length
        && rest.bytes.take child.text.length ≠ child.text.bytes
      if differs || child.kind = .catchAll then throw (conflict route rest child)
      else do return node.setChild (node.children.length - 1) (← deeper child rest)

/-- Adds the rest of a route below a node that it goes beyond. -/
def insertBeyond (deeper : Node α -> Pattern -> Except RouteError (Node α)) (route : Pattern)
    (node : Node α) (rest : Pattern) : Except RouteError (Node α) :=
  if node.kind = .parameter then insertFollower names value deeper node rest
  else match node.childPlace? rest with
    | some place => insertFixed deeper node place rest
    | none =>
        if !rest.startsWild && node.kind ≠ .catchAll then insertNew names value node rest
        else if node.wild then insertWild deeper route node rest
        else node.buildAll rest names value

/-- Adds the rest of a route below a node. `route` is the whole of it. -/
def insertBelow (route : Pattern) : Nat -> Node α -> Pattern -> Except RouteError (Node α)
  | 0, node, _ => pure node
  | fuel + 1, node, rest =>
      let common := commonLength rest node.text
      let node := if common < node.text.length then node.split common else node
      if rest.length ≤ common then
        if node.value.isSome then throw (conflict route rest node)
        else pure (node.finish names value)
      else insertBeyond names value (insertBelow route fuel) route node (rest.drop common)

end Insertion

def insert (root : Node α) (path : String) (value : α) : Except RouteError (Node α) := do
  let (route, names) ← (Pattern.ofText path).normalize
  let root := root.counted
  if root.text.bytes.isEmpty && root.children.isEmpty then root.buildAll route names value
  else insertBelow names value route (route.length + 2) root route

/-- A value with what was captured on the way, each under the name its route gave it. -/
structure Match (α : Type) where
  value : α
  params : List (Bytes × Bytes)

/-- The values captured, in order, under the names of the node's route. -/
def named (node : Node α) (captured : List Bytes) : List (Bytes × Bytes) :=
  node.names.zip captured

section Search

variable (deeper : Node α -> Bytes -> List Bytes -> Option (Match α))

/-- Finds the route of a path below the fixed child that begins as the path does. -/
def lookupFixed (node : Node α) (path : Bytes) (captured : List Bytes) : Option (Match α) :=
  (node.firsts.zipIdx.find? fun entry => some entry.1 == path.head?).bind fun entry =>
    (node.children[entry.2]?).bind fun child => deeper child path captured

/-- Finds the route of a path below a parameter. -/
def lookupWild (child : Node α) (path : Bytes) (captured : List Bytes) : Option (Match α) :=
  match child.kind with
  | .catchAll =>
      child.value.map fun value =>
        ⟨value, child.named captured ++ [((child.text.bytes.drop 2).dropLast, path)]⟩
  | _ =>
      let before := (path.takeWhile (· != Pattern.slash)).length
      let last := before = path.length
      let ending := if last then before else before + 1
      let fits (follower : Node α) : Bool :=
        follower.text.length < ending
          && follower.text.bytes == (path.take ending).drop (ending - follower.text.length)
      if before = 0 then none
      else match child.children.find? fits with
        | some follower =>
            let start := ending - follower.text.length
            deeper follower (path.drop start) (captured ++ [path.take start])
        | none =>
            if last then child.value.map fun value => ⟨value, child.named (captured ++ [path])⟩
            else none

end Search

/-- Finds the route of a path below a node, `captured` being the values captured so far. -/
def lookupFrom : Nat -> Node α -> Bytes -> List Bytes -> Option (Match α)
  | 0, _, _, _ => none
  | fuel + 1, node, path, captured =>
      if path.length ≤ node.text.length then
        if path = node.text.bytes then
          node.value.map fun value => ⟨value, node.named captured⟩
        else none
      else if !node.text.bytes.isPrefixOf path then none
      else
        let path := path.drop node.text.length
        (lookupFixed (lookupFrom fuel) node path captured).or
          (if node.wild then
            node.children.getLast?.bind fun child =>
              lookupWild (lookupFrom fuel) child path captured
          else none)

def lookup (root : Node α) (path : Bytes) : Option (Match α) :=
  lookupFrom (path.length + 2) root path []

end Node

end HttpService
