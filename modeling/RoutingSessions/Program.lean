/-
  RoutingSessions.Program — what the program does, over any matcher, any store of files and
  any turns of the engine.

  Playing back a trace sends nothing: every command that the service would send is
  acknowledged at once.  The trace is taken in without a break, and after which of its
  announcements the engine has its turn is left open: an order that is not tried before
  a newer one comes is superseded.  Notes go with the diagnostics, down to the level
  asked for.

  Main statements:
    * `play_append` — a trace may be cut anywhere, and its parts played one after the
      other.
    * `play_congr` — what is observed and recorded does not depend on the engine.
-/
import RoutingSessions.Help
import RoutingSessions.Report

namespace RoutingSessions

/-- Where the program reads and writes files. -/
structure FileStore (m : Type → Type) where
  /-- The bytes of a file, if there is one at the path. -/
  read : String → m (Option (List UInt8))
  /-- Writes a text to a file, and says whether that was possible. -/
  write : String → String → m Bool

/-- What a run of the program leaves. -/
structure Execution where
  exitCode : Nat
  /-- The lines printed. -/
  output : List String
  /-- The lines printed as diagnostics. -/
  diagnostics : List String
deriving DecidableEq, Inhabited

namespace Execution

/-- The program did what it was asked. -/
def success (output : List String) : Execution := ⟨0, output, []⟩

/-- The program could not do what it was asked. -/
def failure (diagnostics : List String) : Execution := ⟨1, [], diagnostics⟩

end Execution

namespace Program

/-! ## Diagnostics -/

/-- The wording of an unreadable file. -/
def fileMessage : FileError → String
  | .notFound => "cannot read file"
  | .notUtf8 => "stream did not contain valid UTF-8"

/-- The wording of trouble with a structured text. -/
def troubleMessage : Document.Trouble → String
  | .fault .malformed => "syntax error"
  | .fault .cutShort => "unexpected end of text"
  | .data e => e.message

/-- The wording of why settings are not accepted. -/
def settingsMessage : Settings.Error → String
  | .file e => fileMessage e
  | .text t => troubleMessage t
  | .invalid fault => Settings.invalidMessage fault

/-- The wording of why a trace cannot be read. -/
def traceMessage : TraceError → String
  | .file e => fileMessage e
  | .json line t => s!"line {line}: invalid JSON: {troubleMessage t}"
  | .handle line e => invalidHandleMessage line e

/-! ## Playing back -/

/-- What the outbox has noted between two states of the service. -/
def notedSince (before after : Pipeline) : List Note :=
  after.exchange.outbox.notes.drop before.exchange.outbox.notes.length

/-- Takes in the announcements of a trace without a break; after each of them the engine has its
turn or not.  What is noted comes second. -/
def play : List (Notification × Bool) → Pipeline → Pipeline × List Note
  | [], p => (p, [])
  | (n, turn) :: ns, p =>
    let seen := p.observe n
    let first := if turn then seen.1.serve else seen.1
    let rest := play ns first
    (rest.1, seen.2.2 ++ notedSince p first ++ rest.2)

theorem play_append (first second : List (Notification × Bool)) (p : Pipeline) :
    play (first ++ second) p
      = ((play second (play first p).1).1,
          (play first p).2 ++ (play second (play first p).1).2) := by
  induction first generalizing p with
  | nil => simp [play]
  | cons n ns ih => simp [play, ih]

/-- **What is observed and recorded does not depend on the turns of the engine.** -/
theorem play_congr {first second : List (Notification × Bool)}
    (h : first.map (·.1) = second.map (·.1)) {p q : Pipeline} (hobserver : p.observer = q.observer)
    (hdelivery : p.delivery = q.delivery) :
    (play first p).1.observer = (play second q).1.observer
      ∧ (play first p).1.delivery = (play second q).1.delivery := by
  induction first generalizing second p q with
  | nil =>
    obtain rfl := List.map_eq_nil_iff.1 h.symm
    exact ⟨hobserver, hdelivery⟩
  | cons a first ih =>
    obtain ⟨n, turn⟩ := a
    obtain ⟨b, rest, rfl, hb, hrest⟩ := List.map_eq_cons_iff.1 h.symm
    obtain ⟨m, turn'⟩ := b
    obtain rfl : m = n := hb
    -- a turn touches neither observer nor delivery
    have hserve : ∀ (t : Bool) (r : Pipeline),
        (if t then r.serve else r).observer = r.observer
          ∧ (if t then r.serve else r).delivery = r.delivery := by
      intro t r
      cases t <;> exact ⟨rfl, rfl⟩
    refine ih hrest.symm ?_ ?_
    · rw [(hserve turn _).1, (hserve turn' _).1]
      show (p.observer.notice m).1 = (q.observer.notice m).1
      rw [hobserver]
    · rw [(hserve turn _).2, (hserve turn' _).2]
      show (p.delivery.publish (p.observer.notice m).2).1
        = (q.delivery.publish (q.observer.notice m).2).1
      rw [hobserver, hdelivery]

/-- Gives the engine its turn, and lets so many seconds pass at most, until nothing is pending. -/
def settle (seconds : Nat) (p : Pipeline) : Pipeline :=
  { p with exchange := (Exchange.settle (1000 * seconds) p.serve.exchange).1 }

/-- What is noted when the service ends. -/
def closingNotes (p : Pipeline) : List Note :=
  p.close.2 ++ [.shutDown p.exchange.outbox.pendingCount]

/-- The report on a trace that is played back, when the engine has its turn after these
announcements. -/
def replay (matcher : Expression.Matcher) (turn : Nat → Bool) (s : Settings)
    (logLevel path : String) (seconds : Nat) (trace : List Notification) : Execution :=
  match Pipeline.start matcher s [] with
  | .error fault => .failure ["Error: " ++ Settings.invalidMessage fault]
  | .ok p =>
    let played := play (trace.zipIdx.map fun (n, i) => (n, turn i)) p
    let settled := settle seconds played.1
    ⟨0, Report.header s path trace.length ++ Report.results settled,
      Report.noteLines logLevel
        (played.2 ++ notedSince played.1 settled ++ closingNotes settled)⟩

/-! ## Commands -/

variable {m : Type → Type} [Monad m] (matcher : Expression.Matcher) (turn : Nat → Bool)

/-- The settings in a file; those by default if no file is named. -/
def loadSettings (files : FileStore m) (path : Option String) :
    m (Except Settings.Error Settings) :=
  match path with
  | none => return .ok {}
  | some path => return Settings.load matcher (← files.read path)

/-- Plays back the trace in a file. -/
def run (files : FileStore m) (logLevel config : Option String) (events : String)
    (seconds : Nat) : m Execution := do
  match ← loadSettings matcher files config with
  | .error e => return .failure ["Error: " ++ settingsMessage e]
  | .ok s =>
    match Trace.load (← files.read events) with
    | .error e => return .failure ["Error: " ++ traceMessage e]
    | .ok trace => return replay matcher turn s (logLevel.getD s.logLevel) events seconds trace

/-- Writes example settings to a file. -/
def generate (files : FileStore m) (output : String) : m Execution := do
  if ← files.write output Report.exampleFile then
    return .success [s!"Generated configuration file: {output}"]
  else return .failure ["Error: cannot write file"]

/-- Looks at a settings file. -/
def validate (files : FileStore m) (config : String) : m Execution := do
  match Settings.load matcher (← files.read config) with
  | .error e => return .failure ["Configuration invalid: " ++ settingsMessage e]
  | .ok s =>
    match s.buildFilters matcher with
    | .error fault => return .failure ["Error: " ++ Settings.invalidMessage fault]
    | .ok filters => return .success (Report.summary s filters.length)

/-- Does what the program is asked. -/
def invoke (files : FileStore m) (a : Arguments) : m Execution :=
  match a.invocation with
  | .run config events seconds => run matcher turn files a.logLevel config events seconds
  | .generate output => generate files output
  | .validate config => validate matcher files config

/-- Runs the program on a command line. -/
def execute (files : FileStore m) (arguments : List String) : m Execution :=
  match Arguments.read arguments with
  | .ok a => invoke matcher turn files a
  | .error (.help topic) => return .success (Help.text topic)
  | .error .version => return .success [s!"hdds-partition-router {Report.version}"]
  | .error .misuse =>
    return ⟨2, [], ["error: the arguments are not acceptable", "",
      "For more information, try '--help'."]⟩

end Program

end RoutingSessions
