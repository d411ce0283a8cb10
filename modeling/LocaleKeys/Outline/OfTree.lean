import LocaleKeys.Outline

/-!
# The outline of a syntax tree

The tree is walked in document order. Bare words such as `private` in the body of a class change the
visibility of the methods after them; calls such as `private :name` and `private def …` change that
of the named ones only.
-/

namespace LocaleKeys.Outline

open Ast

/-- Where a node stands. -/
inductive Place where
  /-- Directly in the body of a class, a module or a file. -/
  | body
  /-- Directly in the body of an object's own class. -/
  | singletonBody
  /-- Anywhere else. -/
  | inside
  deriving DecidableEq, Repr, Inhabited

/-- What a call directly in a body is. -/
inductive BodyCall where
  /-- It sets the visibility of the methods that are defined in its arguments. -/
  | wrapper (visibility : Visibility)
  /-- It sets the visibility of the methods that its arguments name. -/
  | directive (names : List String) (visibility : Visibility)
  /-- It registers a callback. -/
  | callback (r : Registration)
  /-- It is a call like any other. -/
  | plain
  deriving Repr, Inhabited

/-- The block of a call: the child in that role, or else the first child that is a block. -/
def blockTest (children : List Node) (c : Node) : Bool :=
  if children.any (Node.plays .block) then c.plays .block else c.isNamed && c.kind.isBlock

/-- The callback that a call registers. -/
def registration (call method : Node) : Registration :=
  let arguments := Arguments.ofCall call
  { registrar := method.text
    line := call.line
    methods := arguments.positional.filterMap Node.plainText?
    inline := arguments.positional.any (·.kind = .lambda) ||
      call.children.any (blockTest call.children)
    only := arguments.options.get? "only"
    except := arguments.options.get? "except" }

/-- The visibility that a call sets for the methods in its arguments. -/
def visibilityCall? (method : Node) (arguments : Option Node) : Option BodyCall :=
  match Visibility.ofName? method.text, arguments with
  | some v, some arguments =>
    if arguments.named.any (·.kind = .method) then some (.wrapper v)
    else
      match Node.plainTexts? arguments.named with
      | some (name :: names) => some (.directive (name :: names) v)
      | _ => none
  | _, _ => none

/-- What a call directly in a body is. -/
def bodyCall (settings : Settings) (call : Node) : BodyCall :=
  match call.child? .receiver, call.child? .method with
  | none, some method =>
    match visibilityCall? method (call.child? .arguments) with
    | some b => b
    | none =>
      if settings.callbackMacros.contains method.text then .callback (registration call method)
      else .plain
  | _, _ => .plain

/-- The visibility of the methods after a node of a body. -/
def visibilityAfter (place : Place) (v : Visibility) (n : Node) : Visibility :=
  if place = .body && n.kind = .identifier then (Visibility.ofName? n.text).getD v else v

/-- The namespace that a class or module definition adds. The last constant of a class loses the
suffix of controllers in its key segment. -/
def spaceOf (settings : Settings) (definition : Node) : Space :=
  let names := ((definition.child? .name).map Node.constantPath).getD []
  let isClass := definition.kind = .classDef
  { kind := if isClass then .classSpace else .moduleSpace
    constants := names
    segments :=
      if isClass then
        names.dropLast.map Name.underscore ++
          (names.getLast?.map fun name =>
            Name.underscore (Name.stripSuffix name settings.controllerSuffix)).toList
      else names.map Name.underscore
    line := definition.line }

/-- Is a child of a definition without a body one of its statements? -/
def isStatement (c : Node) : Bool :=
  c.isNamed && c.kind ≠ .superclass &&
    !(c.plays .name || c.plays .superclass || c.plays .parameters || c.plays .object ||
      c.plays .value)

/-- Is the left side of an assignment more than a variable? -/
def isTarget (c : Node) : Bool :=
  c.plays .left && c.kind ≠ .identifier && c.kind ≠ .leftAssignmentList

/-- Has a definition with these children a body? -/
def hasBody (children : List Node) : Bool :=
  children.any (Node.plays .body)

/-- Who owns the code of a method definition. In the body of an object's own class nobody does;
elsewhere it is the method, if it has a name. -/
def methodOwner? (place : Place) (v : Visibility) (definition : Node) : Option Owner :=
  if place = .singletonBody then some .nobody
  else
    (definition.child? .name).map fun name =>
      .method ⟨name.text, v, definition.line, definition.tag.start⟩

/-- A call without a receiver, if it has the form of one. -/
def bareCallOf (call : Node) : List Item :=
  match call.child? .receiver, call.child? .method with
  | none, some method =>
    if method.kind = .identifier then [.bareCall method.text method.line] else []
  | _, _ => []

mutual

/-- The outline of a node. `v` is the visibility of the methods that are defined there. -/
def items (settings : Settings) (place : Place) (v : Visibility) : Node → List Item
  | ⟨t, cs⟩ =>
    match t.kind with
    | .classDef | .moduleDef =>
      [.space (spaceOf settings ⟨t, cs⟩)
        (if hasBody cs then bodyItems settings .body cs
          else memberItems settings .body isStatement .pub cs)]
    | .method =>
      match methodOwner? place v ⟨t, cs⟩ with
      | none => []
      | some owner =>
        [.owned owner
          (if hasBody cs then firstItems settings .pub (Node.plays .body) cs
            else eachItems settings (fun _ => .pub) isStatement cs)]
    | .singletonMethod =>
      [.owned .nobody
        (if hasBody cs then firstItems settings .pub (Node.plays .body) cs
          else eachItems settings (fun _ => .pub) isStatement cs)]
    | .singletonClass =>
      [.owned .nobody
        (if hasBody cs then bodyItems settings .singletonBody cs
          else memberItems settings .singletonBody isStatement .pub cs)]
    | .methodParameters | .parameters | .blockParameters | .lambdaParameters
    | .exceptionVariable | .comment => []
    | .call =>
      match if place = .body then bodyCall settings ⟨t, cs⟩ else .plain with
      | .wrapper w => wrappedItems settings w v cs
      | .directive names w => [.directive names w]
      | .callback r =>
        [.owned (.callback r)
          (callbackItems settings cs ++ firstItems settings .pub (blockTest cs) cs)]
      | .plain =>
        (Site.ofCall settings ⟨t, cs⟩).map .site ++ bareCallOf ⟨t, cs⟩ ++
          eachItems settings (fun _ => v) (fun c => c.isNamed && !c.plays .method) cs
    | .identifier =>
      if place = .body && (Visibility.ofName? t.text).isSome then []
      else [.bareCall t.text t.line]
    | .assignment | .operatorAssignment =>
      firstItems settings v isTarget cs ++ firstItems settings v (Node.plays .right) cs
    | _ => eachItems settings (fun _ => v) Node.isNamed cs

/-- The outline of the nodes that pass a test, one after another. -/
def eachItems (settings : Settings) (v : Node → Visibility) (test : Node → Bool) :
    List Node → List Item
  | [] => []
  | c :: cs =>
    (if test c then items settings .inside (v c) c else []) ++ eachItems settings v test cs

/-- The outline of the first node that passes a test. -/
def firstItems (settings : Settings) (v : Visibility) (test : Node → Bool) :
    List Node → List Item
  | [] => []
  | c :: cs => if test c then items settings .inside v c else firstItems settings v test cs

/-- The outline of the statements in the child that is the body. -/
def bodyItems (settings : Settings) (place : Place) : List Node → List Item
  | [] => []
  | ⟨t, ds⟩ :: cs =>
    if Node.plays .body ⟨t, ds⟩ then
      if t.kind = .bodyStatement then memberItems settings place Node.isNamed .pub ds
      else items settings place .pub ⟨t, ds⟩
    else bodyItems settings place cs

/-- The outline of the members of a body that pass a test. `v` is the visibility in force. -/
def memberItems (settings : Settings) (place : Place) (test : Node → Bool) (v : Visibility) :
    List Node → List Item
  | [] => []
  | c :: cs =>
    if test c then
      items settings place v c ++
        memberItems settings place test (visibilityAfter place v c) cs
    else memberItems settings place test v cs

/-- The outline of the arguments of a call that sets the visibility `w` of the methods defined in
them, from the call's children. -/
def wrappedItems (settings : Settings) (w v : Visibility) : List Node → List Item
  | [] => []
  | ⟨t, ds⟩ :: cs =>
    if Node.plays .arguments ⟨t, ds⟩ then
      eachItems settings (fun c => if c.kind = .method then w else v) Node.isNamed ds
    else wrappedItems settings w v cs

/-- The outline of the arguments of a call that registers a callback, from the call's children. -/
def callbackItems (settings : Settings) : List Node → List Item
  | [] => []
  | ⟨t, ds⟩ :: cs =>
    if Node.plays .arguments ⟨t, ds⟩ then callbackArguments settings false ds
    else callbackItems settings cs

/-- The outline of arguments of a call that registers a callback. The code of a lambda is the
callback's own; a name of a method holds no code; nobody owns the code of any other positional
argument. `seen` tells whether a positional argument came before. -/
def callbackArguments (settings : Settings) (seen : Bool) : List Node → List Item
  | [] => []
  | c :: cs =>
    if c.isNamed && Arguments.isPositional seen c.kind (cs.filter Node.isNamed) then
      (if c.kind = .lambda then items settings .inside .pub c
        else if c.plainText?.isSome then []
        else [.owned .nobody (items settings .inside .pub c)]) ++
        callbackArguments settings true cs
    else callbackArguments settings seen cs

end

/-- The outline of a file. -/
def ofTree (settings : Settings) (root : Node) : Outline :=
  memberItems settings .body Node.isNamed .pub root.children

end LocaleKeys.Outline
