/-
This file follows a target after its encounter has been resolved. The cycle of a resolved target
erases its latches and machines before any rule looks at it, and only a reset takes it out of
the resolved ones. So until then no rule is listed for it, whatever it does.
-/

import MassTdl.Colregs.Passes

namespace MassL3.M6.Colregs

variable {config : Config} {node : ColregsReasonerNode} {mmsi : UInt32}

/-! ### One cycle -/

section OneTarget

variable {lib : MathLibrary} {odd : OddDomain} {params : RuleParameters}
  {target : TargetGeometricState} {nowS : Float} {threat : Threat}

/-- The release pass resolves nothing by itself. -/
theorem releasedPass_resolved (target : TargetGeometricState) (nowS : Float) (threat : Threat)
    (memory : TargetMemory) (semanticState : Option EncounterState) :
    (releasedPass target nowS threat memory semanticState).memory.resolved =
      memory.resolved := by
  unfold releasedPass
  split_ifs <;> rfl

/-- A resolved target stays resolved, and it has no evaluation. -/
theorem reasonTarget_resolved {memory : TargetMemory} (resolved : memory.resolved = true)
    (currentRng : Float) (semanticState : Option EncounterState) :
    (reasonTarget lib odd params target nowS currentRng memory
        semanticState).memory.resolved = true ∧
      (reasonTarget lib odd params target nowS currentRng memory
        semanticState).evaluations = [] := by
  obtain ⟨none, erased⟩ | ⟨unresolved, _, _⟩ := reasonTarget_cases lib odd params target nowS
    currentRng memory semanticState
  · rw [none, erased]
    exact ⟨rfl, rfl⟩
  · rw [releasedPass_resolved, resolved] at unresolved
    cases unresolved

end OneTarget

/-- A cycle in which a key is resolved has no evaluation of its targets. -/
theorem Cycle.after_resolved {odd : OddDomain} {world : WorldState} (cycle : Cycle)
    (resolved : (cycle.memory mmsi).resolved = true)
    (unlisted : ∀ eval ∈ cycle.evaluations, eval.targetId.toUInt32 ≠ mmsi)
    (targets : List TargetGeometricState) :
    ∀ eval ∈ (cycle.after config odd world targets).evaluations,
      eval.targetId.toUInt32 ≠ mmsi := by
  induction targets generalizing cycle with
  | nil => exact unlisted
  | cons target later inductionHypothesis =>
    refine inductionHypothesis (cycle.add config odd world target) ?_ ?_
    · by_cases own : target.mmsi = mmsi
      · subst own
        rw [Cycle.add_memory_self]
        exact (reasonTarget_resolved resolved _ _).1
      · rwa [Cycle.add_memory_other cycle own]
    · intro eval member
      rcases List.mem_append.mp member with earlier | new
      · exact unlisted eval earlier
      · by_cases own : target.mmsi = mmsi
        · subst own
          rw [Cycle.outcome, (reasonTarget_resolved resolved _ _).2] at new
          cases new
        · rw [reasonTarget_targetId _ _ _ new]
          exact own

/-! ### One publication -/

/-- Every listed rule is one of an evaluation. -/
theorem mem_generate_activeRules {params : RuleParameters} {confidence : Float32}
    {evaluations : List RuleEvaluation} {rule : RuleActive}
    (member : rule ∈ (generate params confidence evaluations).activeRules) :
    ∃ eval ∈ evaluations, rule.targetId = eval.targetId := by
  simp only [generate, effectiveEvaluations_eq_map] at member
  obtain ⟨effective, inActive, rfl⟩ := List.mem_map.mp member
  obtain ⟨eval, inEvaluations, rfl⟩ := List.mem_map.mp (List.mem_filter.mp inActive).1
  exact ⟨eval, inEvaluations, by simp [RuleEvaluation.ruleActive]⟩

/-- A conflict comes with a listed rule. -/
theorem activeRules_of_conflictDetected {params : RuleParameters} {confidence : Float32}
    {evaluations : List RuleEvaluation}
    (conflict : (generate params confidence evaluations).conflictDetected = true) :
    (generate params confidence evaluations).activeRules ≠ [] := by
  obtain ⟨eval, member, required⟩ := List.any_eq_true.mp conflict
  have active : eval.isActive = true := by
    simp only [requiresAction, Bool.and_eq_true] at required
    exact required.1
  exact List.ne_nil_of_mem (List.mem_map_of_mem (List.mem_filter.mpr ⟨member, active⟩))

/-- A constraint says nothing of the targets with a key. A conflict is one with another. -/
structure SilentAbout (mmsi : UInt32) (constraint : COLREGsConstraint) : Prop where
  unlisted : ∀ rule ∈ constraint.activeRules, rule.targetId.toUInt32 ≠ mmsi
  conflict : constraint.conflictDetected = true →
    ∃ rule ∈ constraint.activeRules, rule.targetId.toUInt32 ≠ mmsi

theorem Cycle.constraint_conflictDetected (cycle : Cycle) (odd : OddDomain) (world : WorldState)
    (nowNs : Int) :
    (cycle.constraint config odd world nowNs).conflictDetected =
      (generate (currentRuleParams config odd) world.confidence
        cycle.evaluations).conflictDetected := by
  unfold Cycle.constraint
  dsimp only
  split_ifs <;> rfl

/-- The constraint of a cycle without evaluations of a key says nothing of it. -/
theorem Cycle.constraint_silentAbout {cycle : Cycle} {odd : OddDomain} {world : WorldState}
    {nowNs : Int} (unlisted : ∀ eval ∈ cycle.evaluations, eval.targetId.toUInt32 ≠ mmsi) :
    SilentAbout mmsi (cycle.constraint config odd world nowNs) := by
  have rules : ∀ rule ∈ (cycle.constraint config odd world nowNs).activeRules,
      rule.targetId.toUInt32 ≠ mmsi := by
    intro rule member
    rw [Cycle.constraint_activeRules] at member
    obtain ⟨eval, inEvaluations, same⟩ := mem_generate_activeRules member
    rw [same]
    exact unlisted eval inEvaluations
  refine ⟨rules, fun conflict => ?_⟩
  rw [Cycle.constraint_conflictDetected] at conflict
  obtain ⟨rule, member⟩ := List.exists_mem_of_ne_nil _ (activeRules_of_conflictDetected conflict)
  rw [← Cycle.constraint_activeRules config cycle odd world nowNs] at member
  exact ⟨rule, member, rules rule member⟩

/-! ### Every run -/

/-- Some callback of a run drops every memory. -/
def ColregsReasonerNode.resets (config : Config) (node : ColregsReasonerNode) :
    List Event → Bool
  | [] => false
  | event :: later => node.forgets event || (node.next config event).resets config later

/-- Without a reset, a resolved key stays resolved. -/
theorem next_resolved {event : Event} (resolved : (node.memory mmsi).resolved = true)
    (kept : node.forgets event = false) :
    ((node.next config event).memory mmsi).resolved = true := by
  refine next_memory_invariant (fun memory => memory.resolved = true) event resolved
    (fun forgets => ?_) (fun _ _ _ resolved => resolved) fun _ _ _ _ _ _ resolved =>
      (reasonTarget_resolved resolved _ _).1
  rw [kept] at forgets
  cases forgets

/-- What one callback publishes says nothing of a resolved key. -/
theorem handle_silentAbout {event : Event} (resolved : (node.memory mmsi).resolved = true)
    (kept : node.forgets event = false) :
    ∀ constraint ∈ (node.handle config event).2, SilentAbout mmsi constraint := by
  intro constraint published
  obtain ⟨nowNs, world, rfl, cached, ⟨_, rfl⟩ | ⟨_, rfl⟩⟩ := handle_published published
  · have still : node.rewinds world = false := by
      simpa [ColregsReasonerNode.forgets, cached] using kept
    refine Cycle.constraint_silentAbout (Cycle.after_resolved
      { memory := (node.observe world).memory } ?_ (fun eval member => by cases member) _)
    simpa [ColregsReasonerNode.observe, still] using resolved
  · refine ⟨fun rule member => ?_, fun conflict => ?_⟩
    · cases member
    · cases conflict

/-- Once a target is resolved, no constraint says anything of its key until the next reset. -/
theorem resolved_silent (config : Config) (node : ColregsReasonerNode) (events : List Event)
    (mmsi : UInt32) (resolved : (node.memory mmsi).resolved = true)
    (kept : node.resets config events = false) :
    ∀ constraint, some constraint ∈ node.published config events →
      SilentAbout mmsi constraint := by
  induction events generalizing node with
  | nil =>
    intro constraint member
    cases member
  | cons event later inductionHypothesis =>
    obtain ⟨keptNow, keptLater⟩ := Bool.or_eq_false_iff.mp kept
    intro constraint member
    rcases List.mem_cons.mp member with now | after
    · exact handle_silentAbout resolved keptNow constraint now.symm
    · exact inductionHypothesis (node.next config event) (next_resolved resolved keptNow)
        keptLater constraint after

/-- The ship of the meeting has passed, and both are opening. -/
def passedMeeting : List WorldState :=
  headOnMeeting ++
    [scene 5 0.0 [onMeridian 7 0.07 180.0 7600.0 110.0 660.0],
      scene 6 0.0 [onMeridian 7 0.07 180.0 7500.0 120.0 650.0],
      scene 1500 0.0 [onMeridian 7 (-0.07) 180.0 7600.0 2000.0 0.0]]

/-- It comes head-on again. -/
def secondMeeting : List WorldState :=
  [scene 3001 0.0 [onMeridian 7 0.07 180.0 8000.0 100.0 700.0],
    scene 3002 0.0 [onMeridian 7 0.07 180.0 7900.0 100.0 690.0],
    scene 3003 0.0 [onMeridian 7 0.07 180.0 7800.0 100.0 680.0],
    scene 3004 0.0 [onMeridian 7 0.07 180.0 7700.0 100.0 670.0],
    scene 3005 0.0 [onMeridian 7 0.07 180.0 7600.0 100.0 660.0]]

theorem resolved_silent_secondMeeting :
    let node := ColregsReasonerNode.after meridianConfig {} (cyclesOf passedMeeting)
    (node.memory 7).resolved = true ∧
      ∀ constraint, some constraint ∈ node.published meridianConfig (cyclesOf secondMeeting) →
        SilentAbout 7 constraint := by
  intro node
  have resolved : (node.memory 7).resolved = true := by decide +kernel
  exact ⟨resolved, resolved_silent meridianConfig node (cyclesOf secondMeeting) 7 resolved
    (by decide)⟩

/-- The conflicts and the active rules that a run publishes, cycle by cycle. -/
def conflicts (node : ColregsReasonerNode) (events : List Event) : List (Bool × List UInt8) :=
  (node.published meridianConfig events).filterMap fun constraint =>
    constraint.map fun constraint =>
      (constraint.conflictDetected, constraint.activeRules.map fun rule => rule.ruleId)

/-- A fresh node reports the second meeting as a conflict from its fourth cycle on. The node
that has resolved the first one lists nothing at all. -/
theorem second_meeting_ignored :
    let node := ColregsReasonerNode.after meridianConfig {} (cyclesOf passedMeeting)
    ((node.memory 7).resolved = true ∧
        node.resets meridianConfig (cyclesOf secondMeeting) = false) ∧
      conflicts {} (cyclesOf secondMeeting) =
        [(false, [5, 7, 8, 17]), (false, [5, 7, 8, 17]), (false, [5, 7, 8, 17]),
          (true, [5, 7, 8, 14, 16, 18]), (true, [5, 7, 8, 14, 16, 18])] ∧
      conflicts node (cyclesOf secondMeeting) =
        [(false, []), (false, []), (false, []), (false, []), (false, [])] := by
  decide +kernel

end MassL3.M6.Colregs
