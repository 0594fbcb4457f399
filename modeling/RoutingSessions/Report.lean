/-
  RoutingSessions.Report — the lines that the program prints.

  Main statement:
    * `showMilliseconds_of_lt` — a time below a second is shown in milliseconds.
-/
import RoutingSessions.Pipeline
import RoutingSessions.Toml.Writer
import RoutingSessions.Settings.Document

namespace RoutingSessions.Report

/-! ## Times -/

/-- The digits of a number of thousandths, without zeros at the end. -/
def thousandths (n : Nat) : String :=
  let digits := [n / 100 % 10, n / 10 % 10, n % 10]
  let shown := (digits.reverse.dropWhile (· = 0)).reverse
  String.ofList (shown.map fun d => Char.ofNat (48 + d))

/-- A time in milliseconds, shown in seconds if there is at least one. -/
def showMilliseconds (ms : Nat) : String :=
  if ms < 1000 then s!"{ms}ms"
  else if ms % 1000 = 0 then s!"{ms / 1000}s"
  else s!"{ms / 1000}.{thousandths (ms % 1000)}s"

theorem showMilliseconds_of_lt {ms : Nat} (h : ms < 1000) :
    showMilliseconds ms = s!"{ms}ms" := by
  simp [showMilliseconds, h]

/-! ## A run -/

/-- The name and version of the program. -/
def version : String := "1.0.10"

/-- What is printed before a run: the settings, and the trace with its number of
announcements. -/
def header (s : Settings) (trace : String) (announcements : Nat) : List String :=
  let delay := showMilliseconds s.commands.retryDelay
  let timeout := showMilliseconds s.commands.requestTimeout
  [s!"HDDS Partition Router v{version}", "=====================================",
    s!"Service: {s.name}", s!"Target:  {s.commands.targetRouter}",
    s!"Retry:   every {delay}, {timeout} per request",
    s!"Trace:   {trace} ({announcements} events)", ""]

/-- A change of what is needed. -/
def changeLine (c : Change) : String :=
  match c.resource.route with
  | none => s!"  {c.action.label} session {c.resource.session.text}"
  | some r => s!"  {c.action.label} route   {c.resource.session.text} / {r.text}"

/-- A request that was sent. -/
def requestLine (r : Request) : String := s!"  {r.action.label} {r.entity}"

/-- A live session. -/
def sessionLine (s : Roster.Summary) : String :=
  let routes := s.routes.map fun (r, count) => s!"{r.text} x{count}"
  s!"  {s.session.text}: " ++ ", ".intercalate routes

/-- What was counted. -/
def tallyLines (t : Tally) : List String :=
  ["--- Commander Statistics ---",
    s!"  {t.attempts} attempts, {t.successes} acknowledged, {t.failures} rejected, "
      ++ s!"{t.timeouts} timed out, {t.superseded} superseded, {t.namingErrors} naming errors"]

/-- A titled part of the report. -/
def part (title : String) (lines : List String) : List String := title :: lines ++ [""]

/-- What is printed after a run. -/
def results (p : Pipeline) : List String :=
  let changes := p.delivery.subscribers.flatMap fun s => s.recorder.changes
  part "Lifecycle events:" (changes.map changeLine)
    ++ part "Commands:" (p.exchange.sent.map fun s => requestLine s.order.request)
    ++ part "Live sessions:" (p.observer.roster.snapshot.map sessionLine)
    ++ tallyLines p.exchange.outbox.tally

/-! ## Notes -/

/-- A field of a note; only texts and numbers stand in notes. -/
def fieldText (field : String × Document.Value) : String :=
  match field.2 with
  | .text s => s!" {field.1}={s}"
  | .integer i => s!" {field.1}={i}"
  | _ => ""

/-- A note. -/
def noteLine (n : Note) : String :=
  s!"{n.level.label} {n.message}" ++ String.join (n.fields.map fieldText)

/-- The notes that are shown when notes of that level are wanted. -/
def noteLines (level : String) (notes : List Note) : List String :=
  (notes.filter fun n => decide (n.level.depth ≤ Level.depthOfName level)).map noteLine

/-! ## Settings -/

/-- What is printed of acceptable settings that give so many filters. -/
def summary (s : Settings) (filters : Nat) : List String :=
  [ "Configuration valid!", "", s!"Service: {s.name}",
    s!"Target:  {s.commands.targetRouter} (retry {s.commands.retryDelay} ms, "
      ++ s!"timeout {s.commands.requestTimeout} ms)",
    s!"Domain route: {s.naming.domainRoute}", s!"Filters: {filters}"]

/-- What is printed of settings that are not acceptable. -/
def rejection (fault : SettingsFault) : String :=
  s!"Configuration invalid: {Settings.invalidMessage fault}"

/-- The text of the example settings file. -/
def exampleFile : String :=
  "# HDDS Partition Router Configuration\n# Generated by hdds-partition-router gen-config\n\n"
    ++ Toml.write Settings.sample.value ++ "\n"

end RoutingSessions.Report
