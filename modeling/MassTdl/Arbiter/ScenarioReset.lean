/-
This file is about the reset between two scenarios. It does not reach what the node remembers of
an encounter: the target of a commitment, the gate of the beam, and the rule and target that are
active or were released. The cached messages stay as well. So a node forgets a scenario exactly
if it remembers no encounter, and the cached messages are sent anew before the first tick.
-/

import MassTdl.Arbiter.LiveConflict

namespace MassL3.M4

open MassL3.Risk

/-! ### What the reset leaves -/

/-- The fields that the reset does not reach, with their construction defaults. -/
structure Encounter where
  colregsRule15CommitTargetKey : String := ""
  lastColregsTargetAbaftBeam : Bool := true
  activeColregsRuleId : Option UInt8 := none
  activeColregsTargetKey : String := ""
  releasedColregsRuleId : Option UInt8 := none
  releasedColregsTargetKey : String := ""
  releasedColregsRearmHold : Bool := false

def Decision.encounter (decision : Decision) : Encounter where
  colregsRule15CommitTargetKey := decision.colregsRule15CommitTargetKey
  lastColregsTargetAbaftBeam := decision.lastColregsTargetAbaftBeam
  activeColregsRuleId := decision.activeColregsRuleId
  activeColregsTargetKey := decision.activeColregsTargetKey
  releasedColregsRuleId := decision.releasedColregsRuleId
  releasedColregsTargetKey := decision.releasedColregsTargetKey
  releasedColregsRearmHold := decision.releasedColregsRearmHold

/-- The state of a fresh node that remembers an encounter. -/
def Encounter.remembered (encounter : Encounter) : Decision where
  colregsRule15CommitTargetKey := encounter.colregsRule15CommitTargetKey
  lastColregsTargetAbaftBeam := encounter.lastColregsTargetAbaftBeam
  activeColregsRuleId := encounter.activeColregsRuleId
  activeColregsTargetKey := encounter.activeColregsTargetKey
  releasedColregsRuleId := encounter.releasedColregsRuleId
  releasedColregsTargetKey := encounter.releasedColregsTargetKey
  releasedColregsRearmHold := encounter.releasedColregsRearmHold

/-- The reset forgets everything but the encounter. -/
theorem Decision.resetCrossRunState_eq (decision : Decision) :
    decision.resetCrossRunState = decision.encounter.remembered := rfl

/-- The reset restores the state of a fresh node exactly if no encounter is remembered. -/
theorem Decision.resetCrossRunState_eq_iff (decision : Decision) :
    decision.resetCrossRunState = {} ↔ decision.encounter = {} := by
  rw [resetCrossRunState_eq]
  constructor
  · intro fresh
    exact congrArg Decision.encounter fresh
  · intro nothing
    rw [nothing]
    rfl

/-! ### Later messages -/

/-- Everything a node publishes on a list of events. -/
def Node.outputs (params : Parameters) (node : Node) : List Event → List Output
  | [] => []
  | event :: later =>
      (node.published params event).toList ++ (node.step params event).outputs params later

/-- At the first tick the messages cached before make no difference any more. -/
def Supersedes : List Event → Inbox → Inbox → Prop
  | [], _, _ => True
  | .arbitrationTimer _ _ :: _, inbox, other => inbox = other
  | event :: later, inbox, other => Supersedes later (inbox.receive event) (other.receive event)

/-- Without a state from before, two nodes publish the same once their cached messages are
superseded. -/
theorem outputs_of_supersedes (params : Parameters) {later : List Event} {inbox other : Inbox}
    (superseded : Supersedes later inbox other) :
    (Node.mk inbox {}).outputs params later = (Node.mk other {}).outputs params later := by
  induction later generalizing inbox other with
  | nil => rfl
  | cons event later inductionHypothesis =>
    cases event with
    | arbitrationTimer now expired =>
      obtain rfl : inbox = other := superseded
      rfl
    | oddState msg | gncExecutionOdd msg | worldState msg | modeCmd msg | missionGoal msg
    | colregsConstraint msg | plannedRoute msg => exact inductionHypothesis superseded
    | scenarioLoaded => exact inductionHypothesis superseded

/-- Every tick of the later events finds the same state and the same messages in two nodes. -/
def TicksAlike (params : Parameters) (later : List Event) (node other : Node) : Prop :=
  ∀ count now expired, later[count]? = some (.arbitrationTimer now expired) →
    Runs.stateAt (Node.step params) node later count =
      Runs.stateAt (Node.step params) other later count

/-- The ticks are those of the later events, after the first of them. -/
theorem ticksAlike_cons (params : Parameters) {event : Event} {later : List Event}
    {node other : Node} :
    TicksAlike params (event :: later) node other ↔
      (∀ now expired, event = .arbitrationTimer now expired → node = other) ∧
        TicksAlike params later (node.step params event) (other.step params event) := by
  constructor
  · intro alike
    refine ⟨fun now expired ticks => ?_, fun count => alike (count + 1)⟩
    exact alike 0 now expired (congrArg some ticks)
  · rintro ⟨first, others⟩ count now expired fires
    cases count with
    | zero => exact first now expired (Option.some.inj fires)
    | succ count => exact others count now expired fires

/-- Without a state from before, two nodes tick alike exactly once their cached messages are
superseded. -/
theorem ticksAlike_iff_supersedes (params : Parameters) {later : List Event}
    {inbox other : Inbox} :
    TicksAlike params later ⟨inbox, {}⟩ ⟨other, {}⟩ ↔ Supersedes later inbox other := by
  induction later generalizing inbox other with
  | nil =>
    refine iff_of_true (fun count now expired fires => ?_) trivial
    exact absurd fires (by simp)
  | cons event later inductionHypothesis =>
    rw [ticksAlike_cons]
    cases event with
    | arbitrationTimer now expired =>
      constructor
      · rintro ⟨same, -⟩
        exact congrArg (·.inbox) (same now expired rfl)
      · intro (same : inbox = other)
        subst same
        exact ⟨fun _ _ _ => rfl, fun _ _ _ _ => rfl⟩
    | oddState msg | gncExecutionOdd msg | worldState msg | modeCmd msg | missionGoal msg
    | colregsConstraint msg | plannedRoute msg =>
      exact (and_iff_right (by rintro now expired ⟨⟩)).trans inductionHypothesis
    | scenarioLoaded => exact (and_iff_right (by rintro now expired ⟨⟩)).trans inductionHypothesis

/-! ### The reset in a run -/

/-- After any run and before any later events, the reset restores the state of a fresh node, and
every later tick starts and publishes as in a fresh node, exactly if the run left no encounter
behind and the later events supersede the cached messages. -/
theorem reset_forgets_iff (params : Parameters) (events later : List Event) :
    let node := nodeAt params events events.length
    let reset := node.step params .scenarioLoaded
    (reset.decision = {} ∧ TicksAlike params later reset {} ∧
        reset.outputs params later = ({} : Node).outputs params later) ↔
      node.decision.encounter = {} ∧ Supersedes later reset.inbox {} := by
  intro node reset
  have restored : reset.decision = {} ↔ node.decision.encounter = {} :=
    node.decision.resetCrossRunState_eq_iff
  rw [← restored]
  refine and_congr_right fun fresh => ?_
  have whole : reset = ⟨reset.inbox, {}⟩ := by rw [← fresh]
  rw [whole, show ({} : Node) = ⟨{}, {}⟩ from rfl, ticksAlike_iff_supersedes]
  exact and_iff_left_of_imp (outputs_of_supersedes params)

/-- The messages of the next scenario, up to its first tick. -/
def nextScenario : List Event :=
  [.oddState ⟨0, 0⟩, .worldState (lonelyWorld 0), .missionGoal plainMission,
    .colregsConstraint (giveWayDemand "STARBOARD"), .arbitrationTimer 0 patient]

/-- The encounter released in one scenario keeps the ship from avoiding in the next one. -/
theorem reset_keeps_released_encounter :
    let reset := (nodeAt quarterParameters releasedRun releasedRun.length).step quarterParameters
      .scenarioLoaded
    reset.decision ≠ {} ∧ Supersedes nextScenario reset.inbox {} ∧
      (reset.outputs quarterParameters nextScenario).map (·.plan.behavior) = [.transit] ∧
      (({} : Node).outputs quarterParameters nextScenario).map (·.plan.behavior) =
        [.colregAvoid] := by
  refine ⟨fun restored => ?_, rfl, by decide +kernel, by decide +kernel⟩
  exact absurd (congrArg (·.releasedColregsRearmHold) restored) (by decide +kernel)

end MassL3.M4
