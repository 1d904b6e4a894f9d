import LocaleRelay.Journal.Event
import LocaleRelay.Process.Launch

/-!
# Journal entries

Everything that an action lets the outside see besides its result and the files: the events it
logs, the tools it asks, the processes it starts and what those write to the terminal.
-/

namespace LocaleRelay

open Files

/-- A question to one of the tools that a run depends on. -/
inductive Request where
  | isRepository (path : RawPath)
  | clone (remote : String) (path : RawPath)
  | pull (path : RawPath) (remote : String)
  | headCommit (path : RawPath)
  | lint
  | credentials
  | push (path : RawPath) (remote : String) (vars : Variables)
  deriving Repr, DecidableEq

/-- One entry of the journal: an event was logged, a tool was asked, a process was started, or bytes
went to one of the two streams of the terminal. -/
inductive Entry where
  | event (event : Event)
  | request (request : Request)
  | launch (launch : Launch)
  | terminal (stream : Stream) (bytes : ByteArray)

namespace Entry

/-- The event of an entry. -/
def event? : Entry → Option Event
  | event e => some e
  | _ => none

/-- The request of an entry. -/
def request? : Entry → Option Request
  | request r => some r
  | _ => none

/-- The started process of an entry. -/
def launch? : Entry → Option Launch
  | launch l => some l
  | _ => none

/-- The bytes that an entry sends to a stream of the terminal. -/
def terminal? (stream : Stream) : Entry → Option ByteArray
  | terminal s bytes => if s = stream then some bytes else none
  | _ => none

/-- An entry made inside a span: its event carries the span, unless it has one of its own. -/
def within (span : Span) : Entry → Entry
  | event e => event { e with span := e.span.or (some span) }
  | other => other

end Entry

namespace Journal

/-- The events of a journal, in order. -/
def events (entries : List Entry) : List Event := entries.filterMap Entry.event?

/-- The requests of a journal, in order. -/
def requests (entries : List Entry) : List Request := entries.filterMap Entry.request?

/-- The started processes of a journal, in order. -/
def launches (entries : List Entry) : List Launch := entries.filterMap Entry.launch?

/-- What a journal sends to a stream of the terminal. -/
def terminal (stream : Stream) (entries : List Entry) : ByteArray :=
  (entries.filterMap (Entry.terminal? stream)).foldl (· ++ ·) ByteArray.empty

/-- The events of two journals in a row. -/
theorem events_append (first second : List Entry) :
    events (first ++ second) = events first ++ events second := List.filterMap_append

/-- The requests of two journals in a row. -/
theorem requests_append (first second : List Entry) :
    requests (first ++ second) = requests first ++ requests second := List.filterMap_append

/-- The processes of two journals in a row. -/
theorem launches_append (first second : List Entry) :
    launches (first ++ second) = launches first ++ launches second := List.filterMap_append

end Journal

end LocaleRelay
