import LocaleKeys.CallGraph
import LocaleKeys.Event
import LocaleKeys.Key
import LocaleKeys.Occurrence
import LocaleKeys.Path

/-!
# Resolution

What becomes of each call site: the keys it uses, or the reason why it is dropped. In plain mode a
key has to be complete by itself. With conventions, a relative key in a controller is completed by
the controller's segments and the actions that reach the lookup, and record helpers have keys too.
-/

namespace LocaleKeys

/-- What becomes of a call site. -/
inductive Verdict where
  /-- It uses keys. -/
  | found (occurrences : List Occurrence)
  /-- It is dropped. -/
  | dropped (event : Event)
  /-- It is passed over. -/
  | ignored
  deriving DecidableEq, Repr, Inhabited

namespace Verdict

/-- The uses of keys in a verdict. -/
def occurrences : Verdict → List Occurrence
  | .found os => os
  | _ => []

/-- What a verdict says. -/
def events : Verdict → List Event
  | .dropped e => [e]
  | _ => []

end Verdict

/-- What the text of a lookup alone says about its key. -/
inductive KeyReading where
  /-- The key is complete. -/
  | complete (key : String)
  /-- The key is relative; the dot at its start is left out. -/
  | relative (key : String)
  /-- There is no key to be had. -/
  | unusable (reason : DropReason)
  deriving DecidableEq, Repr, Inhabited

namespace Lookup

/-- A key with the scope of the lookup, if there is anything left then. -/
def withScope (l : Lookup) (key : String) : KeyReading :=
  match Key.absolute? key l.options with
  | some full => if full = "" then .unusable .nonLiteralScope else .complete full
  | none => .unusable .nonLiteralScope

/-- What the text of a lookup alone says about its key. -/
def reading (settings : Settings) (l : Lookup) : KeyReading :=
  match l.key with
  | none => .unusable .nonLiteralKey
  | some key =>
    if key.text = "" then .unusable .nonLiteralKey
    else if key.interpolated && settings.strict then .unusable .interpolatedKey
    else if l.options.get? "scope" matches some (.dynamic _) then .unusable .nonLiteralScope
    else if Key.isRelative key.text then
      match l.form with
      | .qualified => l.withScope (Key.stripDots key.text)
      | .short =>
        if Key.isDots key.text then .unusable .emptyRelativeKey
        else .relative (String.ofList (key.text.toList.drop 1))
    else l.withScope key.text

/-- A use of a key by a lookup. -/
def occurrence (l : Lookup) (d : Document) (key : String) : Occurrence where
  key
  raw := (l.key.map (·.text)).getD ""
  path := d.path
  line := l.line
  column := l.column
  text := d.lineText l.line
  default := l.options.default?

/-- A lookup is dropped. -/
def drop (l : Lookup) (d : Document) (reason : DropReason) : Verdict :=
  .dropped (.lookupDropped d.path l.line reason)

end Lookup

namespace Helper

/-- A use of a key by a record helper. -/
def occurrence (h : Helper) (d : Document) (key : String) : Occurrence where
  key
  raw := key
  path := d.path
  line := h.line
  column := h.column
  text := d.lineText h.line

/-- What becomes of a record helper under the conventions. -/
def verdict (h : Helper) (d : Document) : Verdict :=
  match h.kind with
  | .modelName => .found [h.occurrence d (Key.ofModel h.model h.argument)]
  | .attributeName =>
    match h.argument with
    | some (.literal name) =>
      if name = "" then .dropped (.helperDropped d.path h.line)
      else .found [h.occurrence d (Key.ofAttribute h.model name)]
    | _ => .dropped (.helperDropped d.path h.line)

end Helper

namespace Resolve

/-- Do the conventions of controllers apply to a namespace? It is a class whose name has the suffix
of controllers, in a file below one of the roots. -/
def applies (settings : Settings) (path : String) (c : Context) : Bool :=
  Path.underRoots path settings.roots && c.space.kind = .classSpace &&
    c.space.constants.getLast?.any (Name.endsIn · settings.controllerSuffix)

/-- The call graph of a namespace to which the conventions apply. -/
def graph? (settings : Settings) (path : String) (c : Context) : Option CallGraph :=
  if applies settings path c then some (CallGraph.ofContext c) else none

/-- The first cycle among the controllers of an index. -/
def cycle? (settings : Settings) (path : String) (contexts : List Context) :
    Option (List String) :=
  contexts.findSome? fun c => (graph? settings path c).bind CallGraph.cycle?

/-- The actions that reach a call. -/
def reaching (g : CallGraph) : Option Caller → Except (List String) (List String)
  | some (.method m) => g.roots m.name
  | some (.callback number) => .ok (g.actionsOf number)
  | none => .ok []

/-- What becomes of a lookup with a relative key under the conventions. -/
def relative (settings : Settings) (d : Document) (index : Index) (p : Placed) (l : Lookup)
    (key : String) : Except (List String) Verdict :=
  match index.contexts[p.context]? with
  | none => .ok (l.drop d .outsideController)
  | some c =>
    match graph? settings d.path c with
    | none => .ok (l.drop d .outsideController)
    | some g =>
      match reaching g p.caller with
      | .error cycle => .error cycle
      | .ok [] => .ok (l.drop d .noAction)
      | .ok actions =>
        .ok (.found (actions.map fun action =>
          l.occurrence d (Key.join (c.space.segments ++ [action, key]))))

/-- What becomes of a call site. -/
def site (settings : Settings) (d : Document) (index : Index) (p : Placed) :
    Except (List String) Verdict :=
  match p.site with
  | .helper h =>
    match settings.mode with
    | .plain => .ok .ignored
    | .conventions => .ok (h.verdict d)
  | .lookup l =>
    match l.reading settings with
    | .unusable reason => .ok (l.drop d reason)
    | .complete key => .ok (.found [l.occurrence d key])
    | .relative key =>
      match settings.mode with
      | .plain => .ok (l.drop d .relativeWithoutScope)
      | .conventions => relative settings d index p l key

/-- What becomes of call sites, up to the first that cannot be resolved because of a cycle. -/
def sites (settings : Settings) (d : Document) (index : Index) :
    List Placed → List Verdict × Option (List String)
  | [] => ([], none)
  | p :: ps =>
    match site settings d index p with
    | .error cycle => ([], some cycle)
    | .ok verdict =>
      let (verdicts, cycle) := sites settings d index ps
      (verdict :: verdicts, cycle)

/-- What becomes of all call sites of an index. With conventions, no site is looked at if the
methods of a controller call each other in a cycle. -/
def all (settings : Settings) (d : Document) (index : Index) :
    List Verdict × Option (List String) :=
  match settings.mode with
  | .plain => sites settings d index index.sites
  | .conventions =>
    match cycle? settings d.path index.contexts with
    | some cycle => ([], some cycle)
    | none => sites settings d index index.sites

end Resolve

end LocaleKeys
