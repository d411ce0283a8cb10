import LocaleKeys.Outline.OfTree

/-!
# Indexes

The index of a file lists its namespaces, each with its methods, callbacks and calls, and its call
sites, each with the namespace it stands in and who makes the call.
-/

namespace LocaleKeys

/-- Who makes a call. -/
inductive Caller where
  /-- A method. -/
  | method (m : MethodDef)
  /-- A callback, by its number among those of the namespace. -/
  | callback (number : Nat)
  deriving DecidableEq, Repr, Inhabited

/-- A call without a receiver. -/
structure BareCall where
  /-- Who makes it. -/
  caller : Caller
  /-- The name that is called. -/
  name : String
  /-- The line of the call. -/
  line : Nat
  deriving DecidableEq, Repr, Inhabited

/-- A namespace with what was found in it. -/
structure Context where
  /-- The namespace. -/
  space : Space
  /-- Its methods, each name once. -/
  methods : List MethodDef
  /-- Its callbacks. -/
  callbacks : List Registration
  /-- The calls without a receiver in it. -/
  calls : List BareCall
  deriving DecidableEq, Repr, Inhabited

/-- A call site with its surroundings. -/
structure Placed where
  /-- The number of the namespace in which it stands. -/
  context : Nat
  /-- Who makes the call. -/
  caller : Option Caller
  /-- The site. -/
  site : Site
  deriving DecidableEq, Repr, Inhabited

/-- The index of a file. -/
structure Index where
  /-- The namespaces, that of the file first. -/
  contexts : List Context
  /-- The call sites, in document order. -/
  sites : List Placed
  deriving DecidableEq, Repr, Inhabited

namespace Item

mutual

/-- The number of namespaces in an item. -/
def spaceCount : Item → Nat
  | .space _ body => spaceCountAll body + 1
  | .owned _ body => spaceCountAll body
  | _ => 0

/-- The number of namespaces in items. -/
def spaceCountAll : List Item → Nat
  | [] => 0
  | i :: is => i.spaceCount + spaceCountAll is

end

mutual

/-- The methods that an item defines in the namespace around it. -/
def definitions : Item → List MethodDef
  | .owned (.method m) body => m :: definitionsAll body
  | .owned _ body => definitionsAll body
  | _ => []

/-- The methods that items define in the namespace around them. -/
def definitionsAll : List Item → List MethodDef
  | [] => []
  | i :: is => i.definitions ++ definitionsAll is

end

mutual

/-- The callbacks that an item registers in the namespace around it. -/
def registrations : Item → List Registration
  | .owned (.callback r) body => r :: registrationsAll body
  | .owned _ body => registrationsAll body
  | _ => []

/-- The callbacks that items register in the namespace around them. -/
def registrationsAll : List Item → List Registration
  | [] => []
  | i :: is => i.registrations ++ registrationsAll is

end

/-- Who makes the calls in code with this owner, where `callbacks` callbacks are registered before
it. -/
def callerOf (callbacks : Nat) : Owner → Option Caller
  | .nobody => none
  | .method m => some (.method m)
  | .callback _ => some (.callback callbacks)

/-- The number of callbacks registered once the owner of some code is known. -/
def callbacksWithin (callbacks : Nat) : Owner → Nat
  | .callback _ => callbacks + 1
  | _ => callbacks

mutual

/-- The calls without a receiver that an item makes in the namespace around it. -/
def calls (caller : Option Caller) (callbacks : Nat) : Item → List BareCall
  | .owned owner body => callsAll (callerOf callbacks owner) (callbacksWithin callbacks owner) body
  | .bareCall name line => (caller.map fun c => ⟨c, name, line⟩).toList
  | _ => []

/-- The calls without a receiver that items make in the namespace around them. -/
def callsAll (caller : Option Caller) (callbacks : Nat) : List Item → List BareCall
  | [] => []
  | i :: is =>
    i.calls caller callbacks ++ callsAll caller (callbacks + i.registrations.length) is

end

mutual

/-- The call sites of an item in the namespace with the number `here`, where `spaces` namespaces are
opened before it. -/
def sites (here spaces callbacks : Nat) (caller : Option Caller) : Item → List Placed
  | .space _ body => sitesAll spaces (spaces + 1) 0 none body
  | .owned owner body =>
    sitesAll here spaces (callbacksWithin callbacks owner) (callerOf callbacks owner) body
  | .site s => [⟨here, caller, s⟩]
  | _ => []

/-- The call sites of items in the namespace with the number `here`. -/
def sitesAll (here spaces callbacks : Nat) (caller : Option Caller) : List Item → List Placed
  | [] => []
  | i :: is =>
    i.sites here spaces callbacks caller ++
      sitesAll here (spaces + i.spaceCount) (callbacks + i.registrations.length) caller is

end

/-- The methods that the items of a body name in calls such as `private :name`, in order. -/
def directives : List Item → List (String × Visibility)
  | [] => []
  | .directive names v :: is => names.map (fun name => (name, v)) ++ directives is
  | _ :: is => directives is

end Item

namespace Context

/-- Methods with one more, which replaces an earlier one of its name and comes last. -/
def addMethod (methods : List MethodDef) (m : MethodDef) : List MethodDef :=
  methods.filter (·.name ≠ m.name) ++ [m]

/-- A method with the visibility of the last directive that names it, if there is one. -/
def directed (directives : List (String × Visibility)) (m : MethodDef) : MethodDef :=
  match directives.reverse.lookup m.name with
  | some v => { m with visibility := v }
  | none => m

/-- A namespace with what the items of its body hold. -/
def ofBody (space : Space) (body : List Item) : Context where
  space
  methods := ((Item.definitionsAll body).foldl addMethod []).map (directed (Item.directives body))
  callbacks := Item.registrationsAll body
  calls := Item.callsAll none 0 body

/-- The method with a given name. -/
def method? (c : Context) (name : String) : Option MethodDef :=
  c.methods.find? (·.name = name)

/-- Is there a method with this name? -/
def hasMethod (c : Context) (name : String) : Bool :=
  c.methods.any (·.name = name)

/-- The methods that everyone may call. -/
def publicMethods (c : Context) : List MethodDef :=
  c.methods.filter (·.visibility = .pub)

/-- The visibility that a definition has in the end: a later definition of the same name keeps the
directives from it. -/
def finalVisibility (c : Context) (m : MethodDef) : Visibility :=
  match c.method? m.name with
  | some current => if current.start = m.start then current.visibility else m.visibility
  | none => m.visibility

end Context

namespace Item

mutual

/-- The namespaces of an item inside the namespace `outer`, each before those in it. -/
def contexts (outer : Space) : Item → List Context
  | .space s body => Context.ofBody (outer.within s) body :: contextsAll (outer.within s) body
  | .owned _ body => contextsAll outer body
  | _ => []

/-- The namespaces of items inside the namespace `outer`. -/
def contextsAll (outer : Space) : List Item → List Context
  | [] => []
  | i :: is => i.contexts outer ++ contextsAll outer is

end

end Item

namespace Index

/-- The index of an outline. -/
def ofOutline (outline : Outline) : Index where
  contexts := Context.ofBody Space.root outline :: Item.contextsAll Space.root outline
  sites := Item.sitesAll 0 1 0 none outline

/-- The index of a syntax tree. -/
def ofTree (settings : Settings) (root : Ast.Node) : Index :=
  ofOutline (Outline.ofTree settings root)

/-- The number of lookups. -/
def lookupCount (index : Index) : Nat :=
  index.sites.countP fun p => p.site matches .lookup _

end Index

end LocaleKeys
