import LocaleKeys.Index
import LocaleKeys.Search

/-!
# Call graphs

Which methods of a class call which, and which callbacks call a method. A relative key in a method
belongs to the actions from which the method is reached; the graph has to be free of cycles for
that.

The graph is a plain list of nodes and a plain list of edges, and it is the order of these lists in
which it is searched. That order is the insertion order which the directed graphs of graph libraries
document: the nodes stand in the order in which they were first added, by themselves or as the start
or the end of an edge, and the edges from a node, as well as those to a node, in the order in which
they were first added. What is added again keeps its place.
-/

namespace LocaleKeys

/-- The call graph of a class. -/
structure CallGraph where
  /-- The methods of the class. -/
  methods : List MethodDef
  /-- The callbacks of the class. -/
  callbacks : List Registration
  /-- The names of all callers and methods, in the order in which they were first added. -/
  nodes : List String
  /-- Caller and called method, each pair once, in the order in which they were first added. This is
  the order of the calls. -/
  edges : List (String × String)
  /-- The methods that callbacks call, each with the numbers of these callbacks. -/
  triggers : List (String × List Nat)
  deriving DecidableEq, Repr, Inhabited

namespace CallGraph

/-- A list with one more element, unless it is there already. -/
def insertNew {α : Type} [DecidableEq α] (xs : List α) (x : α) : List α :=
  if xs.contains x then xs else xs ++ [x]

/-- The triggers with one more. -/
def link (number : Nat) (name : String) : List (String × List Nat) → List (String × List Nat)
  | [] => [(name, [number])]
  | (n, numbers) :: rest =>
    if n = name then (n, insertNew numbers number) :: rest
    else (n, numbers) :: link number name rest

/-- The pairs of callbacks and methods that the calls in callbacks make. -/
def callLinks (calls : List BareCall) : List (Nat × String) :=
  calls.filterMap fun c =>
    match c.caller with
    | .callback number => some (number, c.name)
    | .method _ => none

/-- The pairs of callbacks and methods that registrations name. -/
def namedLinks (callbacks : List Registration) : List (Nat × String) :=
  callbacks.zipIdx.flatMap fun (r, number) => r.methods.map fun name => (number, name)

/-- The pairs of callers and methods that the calls in methods make. -/
def callEdges (calls : List BareCall) : List (String × String) :=
  calls.filterMap fun c =>
    match c.caller with
    | .method m => some (m.name, c.name)
    | .callback _ => none

/-- The call graph of a class. Only calls of the class's own methods count. -/
def ofContext (c : Context) : CallGraph :=
  let calls := c.calls.filter fun call => c.hasMethod call.name
  let edges := (callEdges calls).foldl insertNew []
  let links := callLinks calls ++ (namedLinks c.callbacks).filter fun l => c.hasMethod l.2
  { methods := c.methods
    callbacks := c.callbacks
    nodes := (edges.map (·.1)).foldl insertNew (c.methods.map (·.name))
    edges
    triggers := links.foldl (fun triggers l => link l.1 l.2 triggers) [] }

/-- The methods that a method calls, in the order of the calls. -/
def callees (g : CallGraph) (name : String) : List String :=
  (g.edges.filter (·.1 = name)).map (·.2)

/-- The methods that call a method, in the order of the calls. -/
def callers (g : CallGraph) (name : String) : List String :=
  (g.edges.filter (·.2 = name)).map (·.1)

/-- How deep a search can go: a path holds each node once, and the search may start outside. -/
def depth (g : CallGraph) : Nat :=
  g.nodes.length + 2

/-- The first cycle, as the methods along it in call order, if there is one. -/
def cycle? (g : CallGraph) : Option (List String) :=
  match Search.visitAll g.callees (fun _ s => s) g.depth () g.nodes with
  | .ok _ => none
  | .error cycle => some cycle

/-- The actions for which a callback runs: those it is limited to, or else the public methods that
it does not leave out. A limit that is not known gives none. -/
def actions (g : CallGraph) (r : Registration) : List String :=
  let allowed (excluded : List String) : List String :=
    ((g.methods.filter (·.visibility = .pub)).map (·.name)).filter (!excluded.contains ·)
  match r.only, r.except with
  | some only, _ => (only.names?.getD []).foldl insertNew []
  | none, some except => (except.names?.map allowed).getD []
  | none, none => allowed []

/-- The actions for which the callback with a number runs. -/
def actionsOf (g : CallGraph) (number : Nat) : List String :=
  (g.callbacks[number]?.map g.actions).getD []

/-- The numbers of the callbacks that call a method. -/
def callbacksOf (g : CallGraph) (name : String) : List Nat :=
  (g.triggers.lookup name).getD []

/-- The actions that a method adds to those that reach it: itself if everyone may call it, and those
of the callbacks that call it. -/
def ownActions (g : CallGraph) (name : String) : List String :=
  ((g.methods.filter fun m => m.name = name && m.visibility = .pub).map (·.name)) ++
    (g.callbacksOf name).flatMap g.actionsOf

/-- The actions that reach a method, in the order in which a search along callers meets them, or a
cycle of methods in call order. -/
def roots (g : CallGraph) (name : String) : Except (List String) (List String) :=
  let enter (name : String) (found : List String) := (g.ownActions name).foldl insertNew found
  match Search.visit g.callers enter g.depth [] ([], []) name with
  | .ok (_, found) => .ok found
  | .error cycle => .error cycle.reverse

end CallGraph

end LocaleKeys
