import ComponentNaming.Options.Basic
import ComponentNaming.Text.Quoted

/-!
# Events

A run reports what it does. Each event has a level, a message, and possibly a detail, which
is a text under a key. The wording of all of them is here.
-/

set_option autoImplicit false

namespace ComponentNaming

/-- How much an event matters. -/
inductive Level where
  | warn
  | debug
  | trace
  deriving DecidableEq, Repr

/-- The name of a level. -/
def Level.label : Level → String
  | warn => "WARN"
  | debug => "DEBUG"
  | trace => "TRACE"

/-- What a run reports. -/
inductive Event where
  /-- The given options were rejected, and the default ones are used. -/
  | rejected (reason : Options.Rejection)
  /-- The run looks for these wrappers. -/
  | configured (wrappers : Wrappers)
  /-- There are no wrappers to look for, so the program is left alone. -/
  | skipped
  /-- A component was named. -/
  | named (name : String)

namespace Event

/-- The level of an event. -/
def level : Event → Level
  | rejected _ => .warn
  | configured _ => .debug
  | skipped => .debug
  | named _ => .trace

/-- The message of an event. -/
def message : Event → String
  | rejected _ => "ignoring plugin config, using default hocs"
  | configured _ => "hoc name transform configured"
  | skipped => "no hocs configured, skipping"
  | named _ => "naming hoc argument"

/-- The detail of an event, with its key. -/
def detail? : Event → Option (String × String)
  | rejected reason => some ("err", reason.message)
  | configured wrappers => some ("hocs", Text.quoteList wrappers.names)
  | skipped => none
  | named name => some ("name", name)

end Event

end ComponentNaming
