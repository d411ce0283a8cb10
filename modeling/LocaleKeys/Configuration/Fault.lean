import LocaleKeys.Configuration
import LocaleKeys.Scan

/-!
# Faults of configurations

The suffix of controllers and the marker of comments have to be texts. That is found out only where
a scan needs them: the suffix when a class is named, and again when it is asked whether a class is
a controller; the marker when the comments of a file are read, after all else.
-/

namespace LocaleKeys

open Data Ast

namespace Item

mutual

/-- Does an item define a class by name? -/
def namesClass : Item → Bool
  | .space s body => (s.kind = .classSpace && !s.constants.isEmpty) || namesClassAny body
  | .owned _ body => namesClassAny body
  | _ => false

/-- Does one of some items define a class by name? -/
def namesClassAny : List Item → Bool
  | [] => false
  | i :: is => i.namesClass || namesClassAny is

end

end Item

namespace Configuration

/-- The fault of a value where a text is needed. -/
def textFault? (need : TextNeed) : Value → Option Fault
  | .str _ => none
  | v => some (.notText need v.typeName)

/-- What keeps a file from being outlined. A suffix that counts as false is not taken off names, so
that it need not be a text. -/
def outlineFault? (c : Configuration) (outline : Outline) : Option Fault :=
  if c.controllerSuffix.isTrue && Item.namesClassAny outline then
    textFault? .suffix c.controllerSuffix
  else none

/-- What keeps controllers from being told apart from other classes. -/
def controllerFault? (c : Configuration) (path : String) (contexts : List Context) :
    Option Fault :=
  if c.mode = .conventions && Path.underRoots path c.settings.roots &&
      contexts.any (fun x => x.space.kind = .classSpace && !x.space.constants.isEmpty) then
    textFault? .suffix c.controllerSuffix
  else none

/-- What keeps the comments of a file from being read. -/
def markerFault? (c : Configuration) : Option Fault :=
  textFault? .marker c.marker

/-- What stops the scan of a tree under a configuration, given the scan under its settings. A
malformed source and a missing text come first, then a suffix that is no text, then a cycle, then a
marker that is no text. -/
def fault? (c : Configuration) (path : String) (root : Node) (r : Report) : Option Fault :=
  match r.outcome with
  | .error (.cyclic p methods) => ((atNames c path root).or (some (.cyclic p methods)))
  | .error f => some f
  | .ok _ => (atNames c path root).or c.markerFault?
where
  /-- What a suffix that is no text keeps from being done. -/
  atNames (c : Configuration) (path : String) (root : Node) : Option Fault :=
    let outline := Outline.ofTree c.settings root
    (c.outlineFault? outline).or (c.controllerFault? path (Index.ofOutline outline).contexts)

end Configuration

end LocaleKeys
