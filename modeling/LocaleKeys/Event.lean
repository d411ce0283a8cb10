import LocaleKeys.Data.Value
import LocaleKeys.Mode

/-!
# Events

What a scan says about its work: when it begins and ends, and which sites and comments it drops.
-/

namespace LocaleKeys

open Data

/-- Why a lookup gives no key. -/
inductive DropReason where
  /-- The key is no literal, or empty. -/
  | nonLiteralKey
  /-- The key is interpolated and the scan is strict. -/
  | interpolatedKey
  /-- The scope is not known, or nothing is left of scope and key. -/
  | nonLiteralScope
  /-- The key consists of dots. -/
  | emptyRelativeKey
  /-- The key is relative and no conventions apply. -/
  | relativeWithoutScope
  /-- The key is relative and stands outside a controller. -/
  | outsideController
  /-- The key is relative and no action reaches it. -/
  | noAction
  deriving DecidableEq, Repr, Inhabited

/-- The words for a reason. -/
def DropReason.words : DropReason → String
  | .nonLiteralKey => "non-literal key"
  | .interpolatedKey => "interpolated key"
  | .nonLiteralScope => "non-literal scope"
  | .emptyRelativeKey => "empty relative key"
  | .relativeWithoutScope => "relative key without scope"
  | .outsideController => "relative key outside a controller"
  | .noAction => "no public action reaches relative key"

/-- Something a scan says. -/
inductive Event where
  /-- The scan of a file begins. -/
  | started (path : String) (mode : Mode)
  /-- A lookup is dropped. -/
  | lookupDropped (path : String) (line : Nat) (reason : DropReason)
  /-- A record helper is dropped. -/
  | helperDropped (path : String) (line : Nat)
  /-- The expression in a comment cannot be read. -/
  | hintUnreadable (path : String) (line : Nat)
  /-- A lookup in a comment is dropped. -/
  | hintDropped (path : String) (line : Nat)
  /-- The scan of a file ends. -/
  | finished (path : String) (occurrences sites contexts : Nat)
  deriving DecidableEq, Repr, Inhabited

namespace Event

/-- The name of an event. -/
def name : Event → String
  | .started .. => "scan.start"
  | .lookupDropped .. => "call_site.dropped"
  | .helperDropped .. => "record_helper.dropped"
  | .hintUnreadable .. => "magic_comment.unparsable"
  | .hintDropped .. => "magic_comment.dropped"
  | .finished .. => "scan.finish"

/-- What an event says, by name. -/
def fields : Event → List (String × Value)
  | .started path mode => [("path", .str path), ("mode", .str mode.name)]
  | .lookupDropped path line reason =>
    [("path", .str path), ("line", .int line), ("reason", .str reason.words)]
  | .helperDropped path line => [("path", .str path), ("line", .int line)]
  | .hintUnreadable path line => [("path", .str path), ("line", .int line)]
  | .hintDropped path line => [("path", .str path), ("line", .int line)]
  | .finished path occurrences sites contexts =>
    [("path", .str path), ("occurrences", .int occurrences), ("call_sites", .int sites),
      ("contexts", .int contexts)]

end Event

end LocaleKeys
