import BuilderRelay.Program.Relay
import BuilderRelay.Proofs.Startup.FirstFailure

/-!
# One report for every failure

`Reports r e` says that a run shows one event of level error, with the stage, the kind and the text
of `e`, that this is the last event, and that the run exits with a failure. Neither startup nor
serving logs anything of that level itself, and no log level hides a report, so a run that fails
anywhere after its command line reports one error; a run that ends on the command line logs nothing.
-/

namespace BuilderRelay.Program

open Startup (Check)

/-! ## Runs that report an error -/

structure Reports (r : ProgramRun) (e : StartupError) : Prop where
  errors : r.shown.filter (·.level = .error) = [⟨.error, "Relay startup failed",
    [("stage", e.stage.name), ("kind", e.kind.name), ("error", e.message)]⟩]
  last : ∀ event ∈ r.shown, event.level = .error → r.shown.getLast? = some event
  printed : ∀ event ∈ r.shown, event.level = .error →
    ∃ lines, r.lines = lines ++ textLines (event.line r.format)
  exitCode : r.exitCode = 1

def Quiet (log : List LogEvent) : Prop := ∀ event ∈ log, event.level ≠ .error

theorem quiet_append {log log' : List LogEvent} (h : Quiet log) (h' : Quiet log') :
    Quiet (log ++ log') := by
  intro event hevent
  rcases List.mem_append.mp hevent with hevent | hevent
  · exact h event hevent
  · exact h' event hevent

theorem shows_error (level : LogLevel) : level.shows .error := by
  cases level <;> rfl

/-- A report behind a quiet log is shown at every level. -/
theorem reports_of_log {r : ProgramRun} {e : StartupError} (before : List LogEvent)
    (hlog : r.log = before ++ [failureEvent e]) (hquiet : Quiet before) (hexit : r.exitCode = 1) :
    Reports r e := by
  have hshown : r.shown = before.filter (fun event => r.level.shows event.level) ++
      [failureEvent e] := by
    rw [ProgramRun.shown, hlog, List.filter_append]
    congr 1
    exact List.filter_cons_of_pos (shows_error r.level)
  have hnone : (before.filter fun event => r.level.shows event.level).filter
      (·.level = .error) = [] := by
    rw [List.filter_eq_nil_iff]
    intro event hevent
    have hlevel := hquiet event (List.mem_filter.mp hevent).1
    simpa using hlevel
  have herrors : r.shown.filter (·.level = .error) = [failureEvent e] := by
    rw [hshown, List.filter_append, hnone]
    rfl
  have honly : ∀ event ∈ r.shown, event.level = .error → event = failureEvent e := by
    intro event hevent hlevel
    have hmem : event ∈ r.shown.filter (·.level = .error) :=
      List.mem_filter.mpr ⟨hevent, decide_eq_true hlevel⟩
    rw [herrors] at hmem
    exact List.mem_singleton.mp hmem
  refine ⟨herrors, fun event hevent hlevel => ?_, fun event hevent hlevel => ?_, hexit⟩
  · rw [honly event hevent hlevel, hshown, List.getLast?_concat]
  · rw [honly event hevent hlevel, ProgramRun.lines, hshown, List.flatMap_append,
      ← List.append_assoc, List.flatMap_singleton]
    exact ⟨_, rfl⟩

/-! ## What startup and serving log -/

section

variable (bls : Bls.Scheme) (d : Dependencies) (c : Config)

theorem quiet_announcements (k : Check) : Quiet (k.announcements c) := by
  cases k <;> simp [Quiet]

theorem quiet_milestones (k : Check) : Quiet (k.milestones bls d c) := by
  intro event hevent
  cases k with
  | network | beaconSynced | keyScalar =>
      obtain ⟨_, -, rfl⟩ := List.mem_map.mp hevent
      simp
  | cacheConnected =>
      obtain rfl := List.mem_singleton.mp hevent
      simp
  | listenAddress =>
      obtain ⟨_, -, hevent⟩ := List.mem_flatMap.mp hevent
      obtain ⟨_, -, rfl⟩ := List.mem_map.mp hevent
      simp
  | endpointGiven | endpointAddress | beaconReached | beaconAnswered | statusReadable
  | keyEncoding => simp at hevent

theorem quiet_eventsOf (ks : List Check) : Quiet (Startup.eventsOf bls d c ks) := by
  intro event hevent
  rcases List.mem_append.mp hevent with hevent | hevent
  · obtain ⟨k, -, hk⟩ := List.mem_flatMap.mp hevent
    exact quiet_append (quiet_announcements c k) (quiet_milestones bls d c k) event hk
  · obtain ⟨k, -, hk⟩ := List.mem_flatMap.mp hevent
    exact quiet_announcements c k event hk

theorem quiet_prepare : Quiet (Startup.prepare bls d c).log := by
  rw [Startup.prepare_follows.log, Startup.follow_log]
  exact quiet_eventsOf bls d c Check.all

end

theorem quiet_listen (r : Relay) (signal : StopSignal) (host : String → Listening) :
    Quiet (r.listen signal host).log := by
  unfold Relay.listen
  cases host r.listenAddr <;> simp [Quiet]

section

variable {bls : Bls.Scheme} {d : Dependencies} {signal : StopSignal} {c : Config}

theorem quiet_startAndServe : Quiet (startAndServe bls d signal c).log := by
  have hprepare := quiet_prepare bls d c
  unfold startAndServe
  cases hp : (Startup.prepare bls d c).result with
  | error e => simpa [Attempt.andThen, hp] using hprepare
  | ok p =>
      have hlisten := quiet_listen p.relay signal d.listen
      simpa [Attempt.andThen, hp] using quiet_append hprepare hlisten

theorem startAndServe_of_error {e : StartupError}
    (h : (Startup.prepare bls d c).result = .error e) :
    (startAndServe bls d signal c).result = .error e := by
  simp [startAndServe, Attempt.andThen, h]

/-- What is logged before the end of a run, its name and version first. -/
def beforeEnding (bls : Bls.Scheme) (d : Dependencies) (signal : StopSignal) (c : Config) :
    List LogEvent :=
  ⟨.info, s!"{serviceName} {serviceVersion}", []⟩ :: (startAndServe bls d signal c).log

theorem quiet_beforeEnding : Quiet (beforeEnding bls d signal c) := by
  intro event hevent
  rcases List.mem_cons.mp hevent with rfl | hevent
  · simp
  · exact quiet_startAndServe event hevent

theorem runConfigured_of_error {e : StartupError}
    (h : (startAndServe bls d signal c).result = .error e) :
    Reports (runConfigured bls d signal c) e := by
  apply reports_of_log (beforeEnding bls d signal c)
  · simp only [runConfigured, h, ending]
    rfl
  · exact quiet_beforeEnding
  · simp only [runConfigured, h, ending]

end

end BuilderRelay.Program
