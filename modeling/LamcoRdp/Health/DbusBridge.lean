/-
LamcoRdp/Health/DbusBridge.lean

Who hears of the health: `start_health_dbus_bridge` of `health/mod.rs`.

The bridge is an observer of the monitor's state that looks at the overall health.
However its wake-ups fall between the monitor's events, the signals it sends form a
chain of real changes, they tell of states that there were in that order, and a bridge
at rest has told the overall health as it is (`health_signals`).
-/
import LamcoRdp.Health.Monitor
import LamcoRdp.Lib.Watch

namespace LamcoRdp

open Runs Watch

/-! ### The bridge -/

/-- The text of a health value on D-Bus. -/
def SubsystemHealth.toText : SubsystemHealth → String
  | .healthy => "healthy"
  | .degraded reason => "degraded: " ++ reason
  | .failed reason => "failed: " ++ reason
  | .notApplicable => "not applicable"

/-- The part of a detail that tells of one subsystem. -/
def detailPart (name : String) (health : SubsystemHealth) : List String :=
  if health.isHealthy then [] else [name ++ " " ++ health.toText]

/-- `health_change_detail`. -/
def healthChangeDetail (state : SessionHealthState) : String :=
  match detailPart "session" state.session ++ detailPart "video" state.video ++
      detailPart "input" state.input ++ detailPart "clipboard" state.clipboard with
  | [] => "all subsystems healthy"
  | part :: parts => parts.foldl (fun text p => text ++ "; " ++ p) part

/-- `SessionHealthChanged`. -/
structure SessionHealthChanged where
  oldHealth : OverallHealth
  newHealth : OverallHealth
  detail : String
  deriving DecidableEq

/-- The monitor with the bridge that watches it. -/
abbrev HealthBridge := Watch.Watched SessionHealthMonitor OverallHealth

/-- The overall health, which the bridge looks at. -/
def overallHealth (m : SessionHealthMonitor) : OverallHealth := m.state.overall

namespace HealthBridge

/-- A bridge that watches a new monitor. -/
def init : HealthBridge := Watch.Watched.init .new

/-- The monitor handles an event, or the bridge takes a step. -/
def step (b : HealthBridge) (a : Act (Bool × HealthEvent)) : Option HealthBridge :=
  b.act SessionHealthMonitor.handleEvent overallHealth a

/-- The signals sent. -/
def signals (b : HealthBridge) : List SessionHealthChanged :=
  b.log.map fun r => ⟨r.1, r.2.state.overall, healthChangeDetail r.2.state⟩

end HealthBridge

/-- The overall health is that of the subsystems, and the flag mirrors it. -/
structure SessionHealthMonitor.Consistent (m : SessionHealthMonitor) : Prop where
  overall : m.state.recomputeOverall = m.state
  sessionValid : m.sessionValid = decide (m.state.overall ≠ .invalid)

theorem recomputeOverall_idem (s : SessionHealthState) :
    s.recomputeOverall.recomputeOverall = s.recomputeOverall := by
  have hparts : ∀ o, ({ s with overall := o } : SessionHealthState).recomputeOverall =
      s.recomputeOverall := fun _ => rfl
  have hform : ∃ o, s.recomputeOverall = { s with overall := o } := by
    rw [SessionHealthState.recomputeOverall]
    split_ifs
    · exact ⟨_, rfl⟩
    · exact ⟨_, rfl⟩
    · exact ⟨_, rfl⟩
    · exact ⟨_, rfl⟩
  obtain ⟨o, ho⟩ := hform
  rw [ho, hparts, ho]

theorem SessionHealthMonitor.consistent_handleEvent (m : SessionHealthMonitor)
    (e : Bool × HealthEvent) : (m.handleEvent e).Consistent :=
  ⟨recomputeOverall_idem _, rfl⟩

theorem SessionHealthMonitor.consistent_run (events : List (Bool × HealthEvent)) :
    (run events).Consistent := by
  rcases List.eq_nil_or_concat events with rfl | ⟨before, e, rfl⟩
  · exact ⟨rfl, rfl⟩
  · -- what was published last makes it so, whatever came before
    rw [List.concat_eq_append, run, List.foldl_append]
    exact consistent_handleEvent _ e

/-- **The signals of the bridge**, however its steps fall between the events of the monitor.
The monitor does what it does without the bridge, and its state is consistent.  The signals
form a chain of changes of the overall health, told of states that there were in that order;
and a bridge that waits and has seen every version has told the overall health as it is. -/
theorem health_signals {acts : List (Act (Bool × HealthEvent))} {b : HealthBridge}
    (h : Run (StepOf HealthBridge.step) .init acts b) :
    b.state = SessionHealthMonitor.run (updates acts) ∧ b.state.Consistent ∧
      b.Ok overallHealth := by
  have hstate : b.state = SessionHealthMonitor.run (updates acts) := state_run h
  refine ⟨hstate, ?_, ok_run h⟩
  rw [hstate]
  exact SessionHealthMonitor.consistent_run _

/-- A failure, a recovery before the bridge is woken, and a failure after. -/
theorem health_signals_coalesced :
    ∃ b, (Run (StepOf HealthBridge.step) .init
        [.start, .update (true, .inputFailed "gone" true), .update (true, .inputRecovered), .wake,
          .read, .update (true, .clipboardFailed "gone"), .wake, .read] b ∧
        b.signals = [⟨.healthy, .degraded, "clipboard failed: gone"⟩]) ∧
      b.state.Consistent ∧ b.Ok overallHealth := by
  have hrun : ([.start, .update (true, .inputFailed "gone" true), .update (true, .inputRecovered),
      .wake, .read, .update (true, .clipboardFailed "gone"), .wake, .read].foldlM
        HealthBridge.step .init).map HealthBridge.signals =
      some [⟨.healthy, .degraded, "clipboard failed: gone"⟩] := rfl
  obtain ⟨b, hb, hsignals⟩ := Run.exists_of_foldlM HealthBridge.signals hrun
  exact ⟨b, ⟨hb, hsignals⟩, (health_signals hb).2⟩

end LamcoRdp
