/-
  What a disposal reports of itself. A transcript has a line for each event that the disposal reports,
  and one for all that others have said in the course of each call: hooks, those who are woken, and
  services that are let go (`Transcript`). Taking it down makes no difference to what is done
  (`HostStage.along_transcribed`), and its lines are all that listeners have heard
  (`heard_attempt`).

  A poll of a hook reports a warning just if it settles the hook with a record that deserves one
  (`own_pollHook`). So a shutdown reports the warnings of the records it has made, in their order
  (`ensures_startNext`, `ensures_pollShutdown`), and a disposal its beginning, those warnings and its end
  (`ensures_attempt_transcribed`). `disposal_announced` sets this against the report.
-/
import HostBench.Proofs.Disposal.Rehearsal
import HostBench.Proofs.Disposal.Told

namespace HostBench

open Trace (Event)

variable {σ H ρ V F W α β : Type}

/-! ## Transcripts -/

/-- A line of a transcript. -/
inductive Transcript.Line where
  /-- The disposal reports an event. -/
  | own (e : Event)
  /-- Others have been called, and said these events. -/
  | others (events : List Event)

/-- A state, and the lines that were taken down up to it. -/
structure Transcript (σ : Type) where
  now : σ
  lines : List Transcript.Line

namespace Transcript

/-- The event of a line that the disposal reports. -/
def Line.own? : Line → Option Event
  | .own e => some e
  | .others _ => none

/-- All events of a line. -/
def Line.events : Line → List Event
  | .own e => [e]
  | .others events => events

/-- The events that the disposal reports. -/
def own (t : Transcript σ) : List Event := t.lines.filterMap Line.own?

/-- All events that have been said. -/
def said (t : Transcript σ) : List Event := t.lines.flatMap Line.events

/-- The transcript that begins in a state. -/
def opened (s : σ) : Transcript σ := ⟨s, []⟩

/-- Goes on to a state with another line. -/
def take (t : Transcript σ) (line : Line) (s : σ) : Transcript σ := ⟨s, t.lines ++ [line]⟩

@[simp] theorem own_take (t : Transcript σ) (line : Line) (s : σ) :
    (t.take line s).own = t.own ++ line.own?.toList := by
  unfold own take
  rw [List.filterMap_append]
  cases line <;> rfl

@[simp] theorem said_take (t : Transcript σ) (line : Line) (s : σ) :
    (t.take line s).said = t.said ++ line.events := by
  unfold said take
  rw [List.flatMap_append, List.flatMap_singleton]

end Transcript

/-- A place of the state that a transcript is about. -/
def Place.transcribed (p : Place σ α) : Place (Transcript σ) α :=
  ⟨fun t => p.get t.now, fun a t => ⟨p.set a t.now, t.lines⟩⟩

/-- Does what is done to the state, and takes down what is heard of it. -/
def overhear (heard : σ → List Event) (m : StateM σ α) : StateM (Transcript σ) α := fun t =>
  ((m t.now).1, t.take (.others ((heard (m t.now).2).drop (heard t.now).length)) (m t.now).2)

/-- A stage on which a transcript is taken down. -/
def HostStage.transcribed (stage : HostStage σ H ρ V F W) (heard : σ → List Event) :
    HostStage (Transcript σ) H ρ V F W where
  timer := stage.timer.transcribed
  waker := stage.waker
  report e t := ((), t.take (.own e) (stage.report e t.now).2)
  start := stage.start
  poll r := overhear heard (stage.poll r)
  abandon r := overhear heard (stage.abandon r)
  provider i := (stage.provider i).transcribed
  lifetime i := (stage.lifetime i).transcribed
  wake w := overhear heard (stage.wake w)
  discard := overhear heard stage.discard

theorem Place.along_transcribed (p : Place σ α) : p.transcribed.Along Transcript.now p :=
  ⟨fun _ => rfl, fun _ _ => rfl⟩

theorem mirrors_overhear (heard : σ → List Event) (m : StateM σ α) :
    Mirrors Transcript.now (overhear heard m) m := fun _ => ⟨rfl, rfl⟩

theorem HostStage.along_transcribed (stage : HostStage σ H ρ V F W) (heard : σ → List Event) :
    HostStage.Along Transcript.now (stage.transcribed heard) stage where
  timer := stage.timer.along_transcribed
  waker := rfl
  report _ _ := ⟨rfl, rfl⟩
  start := rfl
  poll _ := mirrors_overhear heard _
  abandon _ := mirrors_overhear heard _
  lifetime i := (stage.lifetime i).along_transcribed
  provider i := (stage.provider i).along_transcribed
  wake _ := mirrors_overhear heard _
  discard := mirrors_overhear heard _

/-! ## What listeners hear -/

/-- Nothing that was heard is taken back. -/
def OnlyAdds (heard : σ → List Event) (m : StateM σ α) : Prop := ∀ s, heard s <+: heard (m s).2

/-- Listeners hear what is reported to them, one event after the other. All that a stage calls may say
more, and nothing is said by a look at the timer, the lifetime or the provider. -/
structure HostStage.Heard (stage : HostStage σ H ρ V F W) (h : Host) (heard : σ → List Event) :
    Prop where
  timer : ∀ t s, heard (stage.timer.set t s) = heard s
  lifetime : ∀ l s, heard ((stage.lifetime h.lifetime).set l s) = heard s
  provider : ∀ p s, heard ((stage.provider h.provider).set p s) = heard s
  report : ∀ e s, heard (stage.report e s).2 = heard s ++ [e]
  poll : ∀ r, OnlyAdds heard (stage.poll r)
  abandon : ∀ r, OnlyAdds heard (stage.abandon r)
  wake : ∀ w, OnlyAdds heard (stage.wake w)
  discard : OnlyAdds heard stage.discard

/-- All that was heard since `before` is in the transcript. -/
def Transcript.Whole (heard : σ → List Event) (before : List Event) (t : Transcript σ) : Prop :=
  heard t.now = before ++ t.said

section
variable {stage : HostStage σ H ρ V F W} {h : Host} {heard : σ → List Event} {before : List Event}

theorem keeps_overhear {m : StateM σ α} (adds : OnlyAdds heard m) :
    Keeps (Transcript.Whole heard before) (overhear heard m) := by
  intro t whole
  have same : heard t.now = before ++ t.said := whole
  have more : heard t.now ++ (heard (m t.now).2).drop (heard t.now).length = heard (m t.now).2 :=
    List.prefix_iff_eq_append.mp (adds t.now)
  show heard (m t.now).2 = before ++ (t.take _ _).said
  rw [Transcript.said_take, ← List.append_assoc, ← same]
  exact more.symm

theorem HostStage.Heard.composed (hears : stage.Heard h heard) :
    (stage.transcribed heard).Composed (keepsKind (Transcript.Whole heard before))
      h.lifetime h.provider where
  timer := ⟨keeps_read _, fun a t whole => (hears.timer a t.now).trans whole⟩
  report e t whole := by
    have same : heard t.now = before ++ t.said := whole
    show heard (stage.report e t.now).2 = before ++ (t.take (.own e) _).said
    rw [hears.report, Transcript.said_take, ← List.append_assoc, ← same]
    rfl
  poll r := keeps_overhear (hears.poll r)
  abandon r := keeps_overhear (hears.abandon r)
  lifetime := ⟨keeps_read _, fun l t whole => (hears.lifetime l t.now).trans whole⟩
  provider := ⟨keeps_read _, fun p t whole => (hears.provider p t.now).trans whole⟩
  wake w := keeps_overhear (hears.wake w)
  discard := keeps_overhear hears.discard

/-- The transcript of an attempt has all that is heard in the course of it. -/
theorem heard_attempt [BEq W] (hears : stage.Heard h heard) (fresh : h.report = none)
    {acts : List (StateM σ Unit)} (adds : ∀ act ∈ acts, OnlyAdds heard act) (s : σ) :
    heard (h.attempt (stage.transcribed heard) (acts.map (overhear heard)) (.opened s)).2.now =
      heard s ++
        (h.attempt (stage.transcribed heard) (acts.map (overhear heard)) (.opened s)).2.said := by
  refine Host.lasts_attempt hears.composed fresh ?_ ?_
  · intro act' hact'
    obtain ⟨act, hact, rfl⟩ := List.mem_map.mp hact'
    exact keeps_overhear (adds act hact)
  · exact (hears.lifetime _ _).trans (List.append_nil _).symm

end

/-! ## Warnings -/

/-- The warning that a record deserves. -/
def ShutdownRecord.warning? (host : String) (timeout : Duration) (r : ShutdownRecord) : Option Event :=
  match r.status with
  | .completed => none
  | .failed e => some (.hookFailed host r.label e.message)
  | .timedOut => some (.hookTimedOut host r.label timeout)

/-- The warnings that a poll of a hook reports. -/
def Step.warnings (host : String) (timeout : Duration) :
    Step (RunningHook ρ) ShutdownRecord → List Event
  | .done r => (r.warning? host timeout).toList
  | _ => []

section
variable (stage : HostStage σ H ρ V F W) (heard : σ → List Event) (host : String)
  (timeout : Duration)

@[simp] theorem own_overhear (m : StateM σ α) (t : Transcript σ) :
    (overhear heard m t).2.own = t.own := by
  unfold overhear
  rw [Transcript.own_take]
  exact List.append_nil _

@[simp] theorem own_report (e : Event) (t : Transcript σ) :
    ((stage.transcribed heard).report e t).2.own = t.own ++ [e] := Transcript.own_take t (.own e) _

@[simp] theorem own_lift (limit : Option Pause) (t : Transcript σ) :
    ((stage.transcribed heard).lift limit t).2.own = t.own := by
  cases limit <;> rfl

variable [BEq W]

theorem own_isUp (fresh : Bool) (limit : Option Pause) (t : Transcript σ) :
    ((stage.transcribed heard).isUp fresh limit t).2.own = t.own := rfl

/-- **One poll of a hook.** It reports the warning that the record of the hook deserves, and nothing as
long as there is no record. -/
theorem own_pollHook (h : RunningHook ρ) (t : Transcript σ) :
    (Shutdown.pollHook (stage.transcribed heard).toStage host timeout h t).2.own =
      t.own ++ (Shutdown.pollHook (stage.transcribed heard).toStage host timeout h t).1.warnings
        host timeout := by
  cases polled : (stage.transcribed heard).poll h.routine t with
  | mk progress t' =>
    have quiet : t'.own = t.own := by
      have answer : ((stage.transcribed heard).poll h.routine t).2 = t' := by rw [polled]
      rw [← answer]
      exact own_overhear heard _ t
    cases progress with
    | panicked message =>
      rw [Shutdown.pollHook_of_panicked polled]
      show ((stage.transcribed heard).lift h.limit t').2.own = t.own ++ []
      rw [own_lift, quiet, List.append_nil]
    | finished result =>
      rw [Shutdown.pollHook_of_finished polled]
      cases result with
      | ok u =>
        show ((stage.transcribed heard).lift h.limit t').2.own = t.own ++ []
        rw [own_lift, quiet, List.append_nil]
      | error e =>
        show ((stage.transcribed heard).report (.hookFailed host h.label e.message)
          ((stage.transcribed heard).lift h.limit t').2).2.own = t.own ++ [_]
        rw [own_report, own_lift, quiet]
    | waiting r =>
      cases asked : (stage.transcribed heard).isUp
          (!((stage.transcribed heard).timer.get t).exhausted) h.limit t' with
      | mk answer u =>
        have still : u.own = t.own := by
          have after : ((stage.transcribed heard).isUp
            (!((stage.transcribed heard).timer.get t).exhausted) h.limit t').2 = u := by rw [asked]
          rw [← after, own_isUp, quiet]
        obtain ⟨limit, up⟩ := answer
        cases up with
        | true =>
          rw [Shutdown.pollHook_of_up polled asked]
          show ((stage.transcribed heard).report (.hookTimedOut host h.label timeout)
            ((stage.transcribed heard).abandon r u).2).2.own = t.own ++ [_]
          rw [own_report]
          show (overhear heard (stage.abandon r) u).2.own ++ [_] = _
          rw [own_overhear, still]
        | false =>
          rw [Shutdown.pollHook_of_waiting polled asked]
          show u.own = t.own ++ []
          rw [still, List.append_nil]

end

/-! ## Shutdowns -/

namespace Shutdown

/-- How far a shutdown of `n` hooks has got: each has a record, is running, or is still to run. What it
has reported after what was reported `before` are the warnings of the records. -/
def Reports (host : String) (timeout : Duration) (before : List Event) (n : Nat) :
    Step (Shutdown H ρ) (List ShutdownRecord) → Transcript σ → Prop
  | .waiting s, t => s.host = host ∧ s.timeout = timeout ∧
      s.records.length + s.running.toList.length + s.queue.length = n ∧
      t.own = before ++ s.records.filterMap (·.warning? host timeout)
  | .done records, t => records.length = n ∧
      t.own = before ++ records.filterMap (·.warning? host timeout)
  | .panicked _, _ => True

variable [BEq W] (stage : HostStage σ H ρ V F W) (heard : σ → List Event) {host : String}
  {timeout : Duration} {before : List Event} {n : Nat}

/-- One more record brings its warning. -/
theorem filterMap_concat {records : List ShutdownRecord} {r : ShutdownRecord} :
    (records ++ [r]).filterMap (·.warning? host timeout) =
      records.filterMap (·.warning? host timeout) ++ (r.warning? host timeout).toList := by
  rw [List.filterMap_append]
  cases warned : r.warning? host timeout <;> simp [warned]

/-- **The hooks of a queue**, one after the other. -/
theorem ensures_startNext (queue : List (Hook H)) (records : List ShutdownRecord) :
    Ensures (fun t => records.length + queue.length = n ∧
        t.own = before ++ records.filterMap (·.warning? host timeout))
      (startNext (stage.transcribed heard).toStage host timeout queue records)
      (Reports host timeout before n) := by
  induction queue generalizing records with
  | nil =>
    rintro t ⟨count, told⟩
    exact ⟨count, told⟩
  | cons hook queue ih =>
    rintro t ⟨count, told⟩
    rw [startNext_cons]
    have reported := own_pollHook stage heard host timeout
      ((stage.transcribed heard).launch timeout hook t) t
    generalize pollHook (stage.transcribed heard).toStage host timeout
      ((stage.transcribed heard).launch timeout hook t) t = x at reported ⊢
    obtain ⟨step, u⟩ := x
    rw [List.length_cons] at count
    cases step with
    | panicked message => trivial
    | waiting h =>
      refine ⟨rfl, rfl, ?_, ?_⟩
      · simp only [Option.toList_some, List.length_singleton]
        omega
      · exact reported.trans ((List.append_nil _).trans told)
    | done r =>
      refine ih (records ++ [r]) u ⟨?_, ?_⟩
      · rw [List.length_append, List.length_singleton]
        omega
      · rw [filterMap_concat, ← List.append_assoc, ← told]
        exact reported

/-- **One poll of a shutdown.** -/
theorem ensures_pollShutdown (s : Shutdown H ρ) :
    Ensures (Reports host timeout before n (.waiting s)) (s.poll (stage.transcribed heard).toStage)
      (Reports host timeout before n) := by
  obtain ⟨name, limit, running, queue, records⟩ := s
  rintro t ⟨rfl, rfl, count, told⟩
  cases running with
  | none =>
    refine ensures_startNext stage heard queue records t ⟨?_, told⟩
    simpa using count
  | some h =>
    rw [poll_of_running]
    have reported := own_pollHook stage heard name limit h t
    generalize pollHook (stage.transcribed heard).toStage name limit h t = x at reported ⊢
    obtain ⟨step, u⟩ := x
    cases step with
    | panicked message => trivial
    | waiting h' =>
      exact ⟨rfl, rfl, count, reported.trans ((List.append_nil _).trans told)⟩
    | done r =>
      refine ensures_startNext stage heard queue (records ++ [r]) u ⟨?_, ?_⟩
      · simp only [Option.toList_some, List.length_singleton] at count
        rw [List.length_append, List.length_singleton]
        exact count
      · rw [filterMap_concat, ← List.append_assoc, ← told]
        exact reported

end Shutdown

/-! ## Disposals -/

/-- The events of a disposal with this report, in order. -/
def ShutdownReport.events (settings : Settings) (r : ShutdownReport) : List Event :=
  .shutdownInitiated settings.hostName r.records.length settings.shutdownTimeout ::
    r.records.filterMap (·.warning? settings.hostName settings.shutdownTimeout) ++
      [.disposed settings.hostName r.released r.isClean]

namespace Host

variable (stage : HostStage σ H ρ V F W) (heard : σ → List Event) {h : Host}

/-- Those who are woken say what they say themselves. -/
theorem own_wakes (woken : List W) (t : Transcript σ) :
    (woken.forM (stage.transcribed heard).wake t).2.own = t.own := by
  have each : ∀ w, Keeps (fun u : Transcript σ => u.own = t.own)
      ((stage.transcribed heard).wake w) :=
    fun w u same => (own_overhear heard (stage.wake w) u).trans same
  exact keeps_forM each woken t rfl

theorem own_markStopped (t : Transcript σ) :
    (h.markStopped (stage.transcribed heard) t).2.own = t.own := own_wakes stage heard _ _

theorem own_release (t : Transcript σ) :
    (h.release (stage.transcribed heard) t).2.own = t.own :=
  own_overhear heard stage.discard _

/-- The end of a disposal reports the end. -/
theorem own_finish (records : List ShutdownRecord) (t : Transcript σ) :
    (h.finish (stage.transcribed heard) records t).2.own =
      t.own ++ [.disposed h.settings.hostName
        (h.finish (stage.transcribed heard) records t).1.2.released
        (h.finish (stage.transcribed heard) records t).1.2.isClean] := by
  have last := own_report stage heard
    (.disposed h.settings.hostName (h.finish (stage.transcribed heard) records t).1.2.released
      (h.finish (stage.transcribed heard) records t).1.2.isClean)
    (h.release (stage.transcribed heard) (h.markStopped (stage.transcribed heard) t).2).2
  rw [own_release, own_markStopped] at last
  exact last

/-- The beginning of a disposal reports it, with the number of hooks that are handed over. -/
theorem own_enterStopping (t : Transcript σ) :
    (h.enterStopping (stage.transcribed heard) t).2.own =
      t.own ++ [.shutdownInitiated h.settings.hostName
        (h.enterStopping (stage.transcribed heard) t).1.length h.settings.shutdownTimeout] := by
  have woken := own_wakes stage heard
    ((stage.lifetime h.lifetime).get t.now).beginStopping.2.2
    (((stage.transcribed heard).lifetime h.lifetime).set
      ((stage.lifetime h.lifetime).get t.now).beginStopping.1 t)
  have last := own_report stage heard
    (.shutdownInitiated h.settings.hostName (h.enterStopping (stage.transcribed heard) t).1.length
      h.settings.shutdownTimeout)
    (((stage.lifetime h.lifetime).get t.now).beginStopping.2.2.forM (stage.transcribed heard).wake
      (((stage.transcribed heard).lifetime h.lifetime).set
        ((stage.lifetime h.lifetime).get t.now).beginStopping.1 t)).2
  rw [woken] at last
  exact last

/-- What a disposal of a host with `n` hooks has reported, and what it has come to. -/
def Reports (h : Host) (n : Nat) : Step (Disposal H ρ) (Host × ShutdownReport) → Transcript σ → Prop
  | .waiting d, t => d.host = h ∧ Shutdown.Reports h.settings.hostName h.settings.shutdownTimeout
      [.shutdownInitiated h.settings.hostName n h.settings.shutdownTimeout] n (.waiting d.shutdown) t
  | .done (h', report), t => h' = h.reporting report ∧ report.records.length = n ∧
      t.own = report.events h.settings
  | .panicked _, _ => True

variable [BEq W] {n : Nat}

/-- **One poll of a disposal.** -/
theorem ensures_pollDisposal_transcribed (d : Disposal H ρ) :
    Ensures (h.Reports n (.waiting d)) (pollDisposal (stage.transcribed heard) d) (h.Reports n) := by
  obtain ⟨host, shutdown⟩ := d
  rintro t ⟨rfl, reports⟩
  have polled := Shutdown.ensures_pollShutdown stage heard shutdown t reports
  simp only [pollDisposal, bind, StateT.bind]
  generalize shutdown.poll (stage.transcribed heard).toStage t = x at polled ⊢
  obtain ⟨step, u⟩ := x
  cases step with
  | waiting s => exact ⟨rfl, polled⟩
  | panicked message => trivial
  | done records =>
    obtain ⟨count, told⟩ := polled
    refine ⟨rfl, count, ?_⟩
    show (host.finish (stage.transcribed heard) records u).2.own = _
    rw [own_finish]
    show u.own ++ _ = _
    rw [told]
    unfold ShutdownReport.events
    show _ = Event.shutdownInitiated _ records.length _ :: records.filterMap _ ++ _
    rw [count]
    rfl

theorem ensures_dispose_transcribed (unreported : h.report = none) (s : σ) :
    h.Reports (h.enterStopping (stage.transcribed heard) (.opened s)).1.length
      (h.dispose (stage.transcribed heard) (.opened s)).1
      (h.dispose (stage.transcribed heard) (.opened s)).2 := by
  rw [dispose_of_fresh unreported]
  refine ensures_pollDisposal_transcribed stage heard _ _ ⟨rfl, rfl, rfl, ?_, ?_⟩
  · simp
  · rw [own_enterStopping]
    rfl

/-- **All polls of a disposal**, and what is done in between. -/
theorem ensures_follow_transcribed (acts : List (StateM σ Unit))
    (step : Step (Disposal H ρ) (Host × ShutdownReport)) :
    Ensures (h.Reports n step)
      (follow (stage.transcribed heard) (acts.map (overhear heard)) step)
      fun ending t => ∀ h' report, ending = .returned h' report →
        h' = h.reporting report ∧ report.records.length = n ∧ t.own = report.events h.settings := by
  induction acts generalizing step with
  | nil =>
    rintro t reports h' report returned
    cases step with
    | waiting d => cases returned
    | panicked message => cases returned
    | done x =>
      cases returned
      exact reports
  | cons act acts ih =>
    rintro t reports
    cases step with
    | panicked message =>
      intro h' report returned
      cases returned
    | done x =>
      intro h' report returned
      cases returned
      exact reports
    | waiting d =>
      obtain ⟨same, name, limit, count, told⟩ := reports
      have acted : h.Reports n (.waiting d) (overhear heard act t).2 :=
        ⟨same, name, limit, count, (own_overhear heard act t).trans told⟩
      exact ih _ _ (ensures_pollDisposal_transcribed stage heard d _ acted)

theorem ensures_attempt_transcribed (unreported : h.report = none) (acts : List (StateM σ Unit))
    (s : σ) {h' : Host} {report : ShutdownReport}
    (returned : (h.attempt (stage.transcribed heard) (acts.map (overhear heard)) (.opened s)).1 =
      .returned h' report) :
    h' = h.reporting report ∧
      (h.attempt (stage.transcribed heard) (acts.map (overhear heard)) (.opened s)).2.own =
        report.events h.settings := by
  obtain ⟨host, -, told⟩ := ensures_follow_transcribed stage heard acts _ _
    (ensures_dispose_transcribed stage heard unreported s) h' report returned
  exact ⟨host, told⟩

end Host

/-! ## In words -/

/-- An event in words: how much it matters, what it says, and its fields. -/
structure Trace.Wording where
  level : Trace.Level
  message : String
  fields : List (String × Trace.Field)

/-- What listeners are told of an event. -/
def Trace.Event.wording (e : Event) : Trace.Wording := ⟨e.level, e.message, e.fields⟩

/-- The warning about a record, if it says that the hook failed or took too long. -/
def ShutdownRecord.warnings (host : String) (timeout : Duration) (r : ShutdownRecord) :
    List Trace.Wording :=
  match r.status with
  | .completed => []
  | .failed e => [⟨.warn, "shutdown hook failed",
      [("host", .text host), ("hook", .text r.label), ("error", .text e.message)]⟩]
  | .timedOut => [⟨.warn, "shutdown hook timed out",
      [("host", .text host), ("hook", .text r.label), ("timeout_ms", Event.millis timeout)]⟩]

/-- A report in the words of the events: the beginning with the number of records, the warnings about
the records in their order, and the end with what the report says of the whole. -/
def ShutdownReport.wordings (settings : Settings) (r : ShutdownReport) : List Trace.Wording :=
  ⟨.info, "graceful shutdown initiated", [("host", .text settings.hostName),
    ("hooks", .nat r.records.length), ("timeout_ms", Event.millis settings.shutdownTimeout)]⟩ ::
  r.records.flatMap (·.warnings settings.hostName settings.shutdownTimeout) ++
  [⟨.info, "test host disposed", [("host", .text settings.hostName), ("released", .nat r.released),
    ("clean", .bool r.isClean)]⟩]

theorem ShutdownRecord.wording_warning (host : String) (timeout : Duration) (r : ShutdownRecord) :
    (r.warning? host timeout).toList.map Event.wording = r.warnings host timeout := by
  unfold warning? warnings
  cases r.status <;> rfl

theorem ShutdownReport.wording_events (settings : Settings) (r : ShutdownReport) :
    (r.events settings).map Event.wording = r.wordings settings := by
  have warned : ∀ records : List ShutdownRecord,
      (records.filterMap (·.warning? settings.hostName settings.shutdownTimeout)).map Event.wording =
        records.flatMap (·.warnings settings.hostName settings.shutdownTimeout) := by
    intro records
    induction records with
    | nil => rfl
    | cons record records ih =>
      rw [List.flatMap_cons, ← ih, ← ShutdownRecord.wording_warning, ← List.map_append]
      cases h : record.warning? settings.hostName settings.shutdownTimeout <;> simp [h]
  unfold events wordings
  rw [List.map_append, List.map_cons, warned]
  rfl

/-- The words are a warning that a hook failed or took too long. -/
def Trace.Wording.IsHookWarning (x : Trace.Wording) : Prop :=
  x.message = "shutdown hook failed" ∨ x.message = "shutdown hook timed out"

/-- A record says that its hook has completed just if there is no warning about it. -/
theorem ShutdownRecord.completed_iff (host : String) (timeout : Duration) (r : ShutdownRecord) :
    r.status = .completed ↔ ∀ x ∈ r.warnings host timeout, ¬ x.IsHookWarning := by
  unfold warnings
  cases status : r.status with
  | completed => simp
  | failed e => simp [Trace.Wording.IsHookWarning]
  | timedOut => simp [Trace.Wording.IsHookWarning]

/-- A report is clean just if there is no warning about a hook in its words. -/
theorem ShutdownReport.isClean_iff (settings : Settings) (r : ShutdownReport) :
    r.isClean = true ↔ ∀ x ∈ r.wordings settings, ¬ x.IsHookWarning := by
  have frame : ∀ x ∈ r.wordings settings, x.IsHookWarning →
      ∃ record ∈ r.records, x ∈ record.warnings settings.hostName settings.shutdownTimeout := by
    intro x hx warns
    unfold wordings at hx
    simp only [List.cons_append, List.mem_cons, List.mem_append, List.mem_flatMap,
      List.not_mem_nil, or_false] at hx
    rcases hx with rfl | found | rfl
    · simp [Trace.Wording.IsHookWarning] at warns
    · exact found
    · simp [Trace.Wording.IsHookWarning] at warns
  have clean : r.isClean = true ↔ ∀ record ∈ r.records, record.status = .completed := by
    unfold isClean
    simp
  rw [clean]
  constructor
  · intro completed x hx warns
    obtain ⟨record, hrecord, about⟩ := frame x hx warns
    exact (record.completed_iff _ _).mp (completed record hrecord) x about warns
  · intro silent record hrecord
    refine (record.completed_iff settings.hostName settings.shutdownTimeout).mpr fun x hx => ?_
    apply silent x
    unfold wordings
    exact List.mem_append_left _
      (List.mem_cons_of_mem _ (List.mem_flatMap.mpr ⟨record, hrecord, hx⟩))

/-! ## The transcript of a disposal -/

/-- What the transcript of a disposal that returns has, line by line. -/
structure Host.Announced [BEq W] (stage : HostStage σ H ρ V F W) (h : Host) (heard : σ → List Event)
    (acts : List (StateM σ Unit)) (s : σ) (h' : Host) (report : ShutdownReport) (s' : σ)
    (lines : List Transcript.Line) : Prop where
  /-- The lines are those of the disposal that comes to this. -/
  taken : h.attempt (stage.transcribed heard) (acts.map (overhear heard)) (.opened s) =
    (.returned h' report, ⟨s', lines⟩)
  /-- They are all that was heard. -/
  all_heard : heard s' = heard s ++ lines.flatMap Transcript.Line.events
  /-- What others did not say is the report in the words of the events. -/
  own : (lines.filterMap Transcript.Line.own?).map Event.wording = report.wordings h.settings
  /-- The report is clean just if no warning was given. -/
  clean_iff : report.isClean = true ↔
    ∀ e ∈ lines.filterMap Transcript.Line.own?, ¬ e.wording.IsHookWarning
  /-- Every later disposal gives the same report, and reports only that there is nothing to do. -/
  again : ∀ acts' u, ∃ e v, h'.attempt stage acts' u = (.returned h' report, v) ∧
    heard v = heard u ++ [e] ∧
    e.wording = ⟨.debug, "test host already disposed", [("host", .text h.settings.hostName)]⟩

/-- **The events of a disposal agree with its report.** Whatever the hooks do, and whatever is done
between two polls: a disposal that returns has reported its beginning with the number of the records,
then a warning for each record of a hook that failed or took too long, in the order of the records, and
then its end with what the report says of the whole. -/
theorem disposal_announced [BEq W] {stage : HostStage σ H ρ V F W} {h h' : Host}
    {heard : σ → List Event} {acts : List (StateM σ Unit)} {s s' : σ} {report : ShutdownReport}
    (hears : stage.Heard h heard) (adds : ∀ act ∈ acts, OnlyAdds heard act)
    (unreported : h.report = none) (returned : h.attempt stage acts s = (.returned h' report, s')) :
    ∃ lines, h.Announced stage heard acts s h' report s' lines := by
  obtain ⟨answer, after⟩ := mirrors_attempt (stage.along_transcribed heard) h
    (mirrors_overhear heard) acts (.opened s)
  have complete := heard_attempt hears unreported adds s
  have in_words := report.wording_events h.settings
  generalize told : h.attempt (stage.transcribed heard) (acts.map (overhear heard)) (.opened s) = x
    at answer after complete
  obtain ⟨ending, now, lines⟩ := x
  have same : h.attempt stage acts (Transcript.opened s).now = (.returned h' report, s') := returned
  rw [same] at answer after
  cases answer
  cases after
  obtain ⟨reporting, own⟩ := Host.ensures_attempt_transcribed stage heard unreported acts s (by rw [told])
  rw [told] at own
  have own_eq : lines.filterMap Transcript.Line.own? = report.events h.settings := own
  refine ⟨lines, told, complete, ?_, ?_, ?_⟩
  · rw [own_eq, in_words]
  · rw [report.isClean_iff h.settings, own_eq, ← in_words]
    exact List.forall_mem_map
  · intro acts' u
    have kept : h'.report = some report := by rw [reporting]; rfl
    have name : h'.settings = h.settings := by rw [reporting]; rfl
    refine ⟨.alreadyDisposed h.settings.hostName, _, Host.attempt_of_reported kept acts' u, ?_, rfl⟩
    rw [hears.report, name]

namespace Rehearsal

/-- The stage of the rehearsal with listeners. Hooks invoke an adapter at every poll, and services that
are let go say farewell. -/
def aloud : HostStage (Scene × List Event) Job Job String Unit Unit where
  timer := ⟨fun s => s.1.timer, fun t s => ({ s.1 with timer := t }, s.2)⟩
  waker := ()
  report e s := ((), (s.1, s.2 ++ [e]))
  start hook := hook.body
  poll job s := ((poll job s.1).1, ((poll job s.1).2, s.2 ++ [.adapterInvoked "bank" 0]))
  abandon job s := ((), ((abandon job s.1).2, s.2))
  provider _ := ⟨fun s => s.1.provider, fun p s => ({ s.1 with provider := p }, s.2)⟩
  lifetime _ := ⟨fun s => s.1.lifetime, fun l s => ({ s.1 with lifetime := l }, s.2)⟩
  wake _ := return ()
  discard s := ((), (s.1, s.2 ++ [.eventAppended 0 "services" "farewell"]))

/-- A second passes, and nothing is said. -/
def quietSecond : StateM (Scene × List Event) Unit := fun s => ((), ((second s.1).2, s.2))

theorem heard_aloud (h : Host) : aloud.Heard h Prod.snd where
  timer _ _ := rfl
  lifetime _ _ := rfl
  provider _ _ := rfl
  report _ _ := rfl
  poll _ s := List.prefix_append s.2 _
  abandon _ s := List.prefix_refl s.2
  wake _ s := List.prefix_refl s.2
  discard s := List.prefix_append s.2 _

/-- The four hooks of the rehearsal, one of which fails and one takes too long. -/
theorem four_announced : ∃ h' report s' lines,
    report.records.map ShutdownRecord.status = [.completed, .failed ⟨"no"⟩, .timedOut, .completed] ∧
      host.Announced aloud Prod.snd (List.replicate 9 quietSecond) (four, []) h' report s' lines := by
  have adds : ∀ act ∈ List.replicate 9 quietSecond, OnlyAdds Prod.snd act := by
    intro act hact s
    rw [List.eq_of_mem_replicate hact]
    exact List.prefix_refl s.2
  have reported : ((host.attempt aloud (List.replicate 9 quietSecond) (four, [])).1.report?.map
      fun report => report.records.map ShutdownRecord.status) =
        some [.completed, .failed ⟨"no"⟩, .timedOut, .completed] := by decide +kernel
  obtain ⟨report, found, statuses⟩ := Option.map_eq_some_iff.mp reported
  obtain ⟨h', s', returned⟩ := Ending.exists_returned found
  obtain ⟨lines, announced⟩ := disposal_announced (heard_aloud host) adds rfl returned
  exact ⟨h', report, s', lines, statuses, announced⟩

end Rehearsal

end HostBench
