/-
This file is about runs of one encounter machine: any calls of its transition with any inputs,
and any resets between them. Three of its memory fields stand for something in the calls behind
it, and what each stands for is an invariant here. The hard-breach flag stands for an earlier
geometric hit below the hard gate, the start of the dwell for the call that entered RELEASE, and
the onset for the first classification. The laws of the run are read off these.

The times of the calls need not be in order for any of it: the machine only ever takes the
difference of two of them.
-/

import MassTdl.Colregs.EncounterStateMachine
import MassTdl.Runs

namespace MassL3.M6.Colregs

/-! ### Calls and resets -/

/-- The states one call of `transition` can lead to. -/
def EncounterState.successors : EncounterState → List EncounterState
  | .clear => [.detected]
  | .detected => [.detected, .candidate]
  | .candidate => [.candidate, .preplan]
  | .preplan => [.preplan, .active]
  | .active => [.active, .monitor]
  | .monitor => [.monitor, .active, .release]
  | .release => [.release, .monitor, .clear]

/-- What one call of `transition` is given. -/
structure EncounterCall where
  target : TargetSnapshot
  ruleGeometricHit : Bool
  rangeClosing : Bool
  pastAndClear : Bool
  nowS : Float
  rawEval : Option RuleEvaluation

inductive EncounterEvent where
  | transition (call : EncounterCall)
  | reset

namespace EncounterCall

variable (call : EncounterCall) (params : EncounterParams)

/-- The rule holds geometrically, and the closest approach is below the hard gate. -/
def HitsHard : Prop :=
  call.ruleGeometricHit = true ∧ call.target.cpaM < params.cpaHardM

/-- Past and clear, opening, and the closest approach at the release threshold. -/
def HoldsRelease : Prop :=
  call.pastAndClear = true ∧ call.rangeClosing = false ∧
    call.target.cpaM ≥ params.cpaReleaseM

end EncounterCall

namespace EncounterStateMachine

/-- `EncounterStateMachine::reset`. -/
def reset (fsm : EncounterStateMachine) : EncounterStateMachine where
  params := fsm.params

def handle (fsm : EncounterStateMachine) : EncounterEvent → EncounterStateMachine
  | .transition call =>
      fsm.transition call.target call.ruleGeometricHit call.rangeClosing call.pastAndClear
        call.nowS call.rawEval
  | .reset => fsm.reset

/-! ### One event -/

variable {fsm : EncounterStateMachine} {call : EncounterCall} {event : EncounterEvent}

@[simp] theorem captureOnset_state (rawEval : Option RuleEvaluation) :
    (fsm.captureOnset rawEval).state = fsm.state := rfl

@[simp] theorem captureOnset_cpaHardSeen (rawEval : Option RuleEvaluation) :
    (fsm.captureOnset rawEval).cpaHardSeen = fsm.cpaHardSeen := rfl

@[simp] theorem captureOnset_params (rawEval : Option RuleEvaluation) :
    (fsm.captureOnset rawEval).params = fsm.params := rfl

variable {onset : Onset}

/-- An onset that is there is not captured again. -/
theorem captureOnset_of_some (held : fsm.onset = some onset) (rawEval : Option RuleEvaluation) :
    (fsm.captureOnset rawEval).onset = some onset := by
  simp only [captureOnset, held, Option.some_or]

theorem classifyHit_of_some (held : fsm.onset = some onset) (target : TargetSnapshot) (hit : Bool)
    (rawEval : Option RuleEvaluation) :
    (fsm.classifyHit target hit rawEval).onset = some onset := by
  unfold classifyHit
  split
  · exact captureOnset_of_some held rawEval
  · exact held

/-- Only a hit below the hard gate raises the flag. -/
theorem classifyHit_cpaHardSeen {target : TargetSnapshot} {hit : Bool}
    {rawEval : Option RuleEvaluation}
    (seen : (fsm.classifyHit target hit rawEval).cpaHardSeen = true) :
    fsm.cpaHardSeen = true ∨ hit = true ∧ target.cpaM < fsm.params.cpaHardM := by
  unfold classifyHit at seen
  split at seen
  next isHit =>
    rw [captureOnset_cpaHardSeen] at seen
    rcases Bool.or_eq_true_iff.mp seen with earlier | hard
    · exact .inl earlier
    · exact .inr ⟨isHit, of_decide_eq_true hard⟩
  next => exact .inl seen

@[simp] theorem handle_params : (fsm.handle event).params = fsm.params := by
  cases event with
  | reset => rfl
  | transition call =>
    simp only [handle, transition]
    cases fsm.state <;> dsimp only
    case detected => split <;> simp only [classifyHit_params]
    case candidate => unfold fromCandidate; split <;> simp only [classifyHit_params]
    case preplan =>
      unfold fromPreplan
      split <;> simp only [captureOnset_params, classifyHit_params]
    case active => unfold fromActive; split_ifs <;> rfl
    case monitor => unfold fromMonitor; split_ifs <;> rfl
    case release => unfold fromRelease; split_ifs <;> rfl

/-- The transition table. -/
theorem handle_mem_successors (fsm : EncounterStateMachine) (call : EncounterCall) :
    (fsm.handle (.transition call)).state ∈ fsm.state.successors := by
  simp only [handle, transition]
  cases was : fsm.state <;> dsimp only
  case clear => exact List.mem_singleton_self _
  case detected => split <;> simp [EncounterState.successors, was]
  case candidate =>
    unfold fromCandidate
    split <;> simp [EncounterState.successors, classifyHit_state, was]
  case preplan =>
    unfold fromPreplan
    split <;> simp [EncounterState.successors, classifyHit_state, was]
  case active => unfold fromActive; split_ifs <;> simp [EncounterState.successors, was]
  case monitor => unfold fromMonitor; split_ifs <;> simp [EncounterState.successors, was]
  case release => unfold fromRelease; split_ifs <;> simp [EncounterState.successors, was]

/-- ACTIVE is entered from PREPLAN, or again from MONITOR. -/
theorem enters_active (entered : (fsm.handle (.transition call)).state = .active)
    (fromElsewhere : fsm.state ≠ .active) (notMonitor : fsm.state ≠ .monitor) :
    call.target.tcpaS ≤ fsm.params.tPlanS ∧ call.rangeClosing = true ∧
      (call.target.cpaM < fsm.params.cpaHardM ∨
        call.target.cpaM < fsm.params.cpaSoftM ∧ fsm.cpaHardSeen = true) := by
  have preplan : fsm.state = .preplan := by
    have listed := entered ▸ handle_mem_successors fsm call
    cases was : fsm.state <;> simp_all [EncounterState.successors]
  simp only [handle, transition, preplan, fromPreplan] at entered
  split at entered
  next ripe =>
    rw [cpaHardHit, classifyHit_params, decide_eq_true_iff] at ripe
    obtain ⟨window, context, closing⟩ := ripe
    refine ⟨window, closing, ?_⟩
    obtain hard | ⟨seen, soft⟩ := context
    · exact .inl hard
    · obtain earlier | ⟨-, hard⟩ := classifyHit_cpaHardSeen seen
      · exact .inr ⟨soft, earlier⟩
      · exact .inl hard
  next =>
    rw [classifyHit_state, preplan] at entered
    exact EncounterState.noConfusion entered

@[simp] theorem fromCandidate_cpaHardSeen (target : TargetSnapshot) :
    (fsm.fromCandidate target).cpaHardSeen = fsm.cpaHardSeen := by
  unfold fromCandidate
  split <;> rfl

@[simp] theorem fromPreplan_cpaHardSeen (target : TargetSnapshot) (closing : Bool)
    (rawEval : Option RuleEvaluation) :
    (fsm.fromPreplan target closing rawEval).cpaHardSeen = fsm.cpaHardSeen := by
  unfold fromPreplan
  split <;> rfl

@[simp] theorem fromActive_cpaHardSeen (target : TargetSnapshot) :
    (fsm.fromActive target).cpaHardSeen = fsm.cpaHardSeen := by
  unfold fromActive
  split_ifs <;> rfl

@[simp] theorem fromMonitor_cpaHardSeen (target : TargetSnapshot) (closing pastAndClear : Bool)
    (nowS : Float) :
    (fsm.fromMonitor target closing pastAndClear nowS).cpaHardSeen = fsm.cpaHardSeen := by
  unfold fromMonitor
  split_ifs <;> rfl

/-- The flag goes down when RELEASE leads to CLEAR. -/
theorem fromRelease_cpaHardSeen {target : TargetSnapshot} {closing pastAndClear : Bool}
    {nowS : Float}
    (seen : (fsm.fromRelease target closing pastAndClear nowS).cpaHardSeen = true) :
    fsm.cpaHardSeen = true := by
  unfold fromRelease at seen
  split_ifs at seen <;> exact seen

/-- What raises the flag is a hit below the hard gate, and not in CLEAR. -/
theorem handle_cpaHardSeen (seen : (fsm.handle event).cpaHardSeen = true) :
    fsm.cpaHardSeen = true ∨
      ∃ call, event = .transition call ∧ call.HitsHard fsm.params ∧ fsm.state ≠ .clear := by
  cases event with
  | reset => exact absurd seen Bool.false_ne_true
  | transition call =>
    simp only [handle, transition] at seen
    cases was : fsm.state <;> rw [was] at seen <;> dsimp only at seen
    case clear => exact .inl seen
    case detected =>
      split at seen
      next hit =>
        obtain earlier | ⟨-, hard⟩ := classifyHit_cpaHardSeen seen
        · exact .inl earlier
        · exact .inr ⟨call, rfl, ⟨hit, hard⟩, EncounterState.noConfusion⟩
      next => exact .inl seen
    case candidate =>
      rw [fromCandidate_cpaHardSeen] at seen
      exact (classifyHit_cpaHardSeen seen).imp_right
        fun hits => ⟨call, rfl, hits, EncounterState.noConfusion⟩
    case preplan =>
      rw [fromPreplan_cpaHardSeen] at seen
      exact (classifyHit_cpaHardSeen seen).imp_right
        fun hits => ⟨call, rfl, hits, EncounterState.noConfusion⟩
    case active => exact .inl (fromActive_cpaHardSeen call.target ▸ seen)
    case monitor => exact .inl (fromMonitor_cpaHardSeen call.target _ _ _ ▸ seen)
    case release => exact .inl (fromRelease_cpaHardSeen seen)

/-- A machine that comes to CLEAR has forgotten the breach. -/
theorem handle_clear (clears : (fsm.handle event).state = .clear) :
    (fsm.handle event).cpaHardSeen = false := by
  cases event with
  | reset => rfl
  | transition call =>
    have released : fsm.state = .release := by
      have listed := clears ▸ handle_mem_successors fsm call
      cases was : fsm.state <;> simp_all [EncounterState.successors]
    simp only [handle, transition, released, fromRelease] at clears ⊢
    split_ifs at clears ⊢
    · rfl
    · exact EncounterState.noConfusion (released ▸ clears)

/-- Outside CLEAR an onset is kept. -/
theorem handle_onset (held : fsm.onset = some onset)
    (notClear : (fsm.handle event).state ≠ .clear) :
    (fsm.handle event).onset = some onset := by
  cases event with
  | reset => exact absurd rfl notClear
  | transition call =>
    simp only [handle, transition] at notClear ⊢
    cases was : fsm.state <;> rw [was] at notClear <;> dsimp only at notClear ⊢
    case clear => exact held
    case detected =>
      split
      · exact classifyHit_of_some held call.target true call.rawEval
      · exact held
    case candidate =>
      unfold fromCandidate
      split <;> exact classifyHit_of_some held call.target _ call.rawEval
    case preplan =>
      unfold fromPreplan
      split
      · exact captureOnset_of_some (classifyHit_of_some held call.target _ call.rawEval) _
      · exact classifyHit_of_some held call.target _ call.rawEval
    case active => unfold fromActive; split_ifs <;> exact held
    case monitor => unfold fromMonitor; split_ifs <;> exact held
    case release =>
      unfold fromRelease at notClear ⊢
      split_ifs at notClear ⊢
      · exact absurd rfl notClear
      · exact held
      · exact held

theorem releaseCondition_iff :
    fsm.releaseCondition call.target call.rangeClosing call.pastAndClear = true ↔
      call.HoldsRelease fsm.params := by
  simp only [releaseCondition, EncounterCall.HoldsRelease, Bool.and_eq_true, Bool.not_eq_true',
    decide_eq_true_eq, and_assoc]

/-- Whatever leads to RELEASE, or keeps a machine there, is a call at which the release
condition holds, and the dwell runs from the first of them. -/
theorem in_release (released : (fsm.handle event).state = .release) :
    ∃ call, event = .transition call ∧ call.HoldsRelease fsm.params ∧
      ((fsm.handle event).releaseConditionMetSinceS = call.nowS ∨
        fsm.state = .release ∧
          (fsm.handle event).releaseConditionMetSinceS = fsm.releaseConditionMetSinceS) := by
  cases event with
  | reset => exact EncounterState.noConfusion released
  | transition call =>
    refine ⟨call, rfl, ?_⟩
    rw [← releaseCondition_iff]
    have behind : fsm.state = .monitor ∨ fsm.state = .release := by
      have listed := released ▸ handle_mem_successors fsm call
      cases was : fsm.state <;> simp_all [EncounterState.successors]
    obtain was | was := behind
    · simp only [handle, transition, was, fromMonitor] at released ⊢
      split_ifs at released ⊢ with deteriorates holds
      · exact ⟨holds, .inl rfl⟩
      · exact EncounterState.noConfusion (was ▸ released)
    · simp only [handle, transition, was, fromRelease] at released ⊢
      split_ifs at released ⊢ with holds dwelt
      exact ⟨holds, .inr ⟨trivial, rfl⟩⟩

/-- A call leads from RELEASE to CLEAR when the release condition holds and the dwell is
over. -/
theorem release_clears (released : fsm.state = .release)
    (clears : (fsm.handle (.transition call)).state = .clear) :
    call.HoldsRelease fsm.params ∧
      call.nowS - fsm.releaseConditionMetSinceS ≥ fsm.params.tDwellS := by
  rw [← releaseCondition_iff]
  simp only [handle, transition, released, fromRelease] at clears
  split_ifs at clears with holds dwelt
  · exact ⟨holds, dwelt.2⟩
  · rw [released] at clears
    exact EncounterState.noConfusion clears

/-! ### Runs of events -/

/-- The machine of a new encounter after the first `count` events. -/
def after (params : EncounterParams) (events : List EncounterEvent) (count : Nat) :
    EncounterStateMachine :=
  Runs.stateAt handle { params } events count

variable {params : EncounterParams} {events : List EncounterEvent} {count : Nat}

theorem after_succ (present : events[count]? = some event) :
    after params events (count + 1) = (after params events count).handle event :=
  Runs.stateAt_succ handle _ events present

theorem after_params : (after params events count).params = params :=
  Runs.stateAt_invariant (fun fsm : EncounterStateMachine => fsm.params = params) rfl
    (fun _ _ _ same => handle_params.trans same) count

/-- Outside CLEAR from the state after `first` events to the state after `last` events. -/
def SameEncounter (params : EncounterParams) (events : List EncounterEvent)
    (first last : Nat) : Prop :=
  ∀ index, first ≤ index → index ≤ last → (after params events index).state ≠ .clear

/-- One state more of the same encounter. -/
theorem SameEncounter.succ {first last : Nat} (same : SameEncounter params events first last)
    (notClear : (after params events (last + 1)).state ≠ .clear) :
    SameEncounter params events first (last + 1) := by
  intro index from_first upTo
  obtain before | rfl := Nat.lt_or_eq_of_le upTo
  · exact same index from_first (Nat.le_of_lt_succ before)
  · exact notClear

/-- A hit below the hard gate among the first `count` events, in the encounter that still
goes on. -/
def HardSeenBefore (params : EncounterParams) (events : List EncounterEvent)
    (count : Nat) : Prop :=
  ∃ earlier < count, ∃ call, events[earlier]? = some (.transition call) ∧
    call.HitsHard params ∧ SameEncounter params events earlier count

/-- What the flag stands for. -/
theorem hardSeenBefore_of_flag (within : count ≤ events.length)
    (seen : (after params events count).cpaHardSeen = true) :
    HardSeenBefore params events count := by
  induction count with
  | zero => exact absurd seen Bool.false_ne_true
  | succ count inductionHypothesis =>
    have step := @after_succ _ params _ _ (List.getElem?_eq_getElem within)
    have notClear : (after params events (count + 1)).state ≠ .clear := by
      intro clears
      rw [step] at clears seen
      exact Bool.false_ne_true ((handle_clear clears).symm.trans seen)
    rw [step] at seen
    obtain flagged | ⟨call, isCall, hits, notClearBefore⟩ := handle_cpaHardSeen seen
    · obtain ⟨earlier, before, call, isCall, hits, same⟩ :=
        inductionHypothesis (Nat.le_of_succ_le within) flagged
      exact ⟨earlier, Nat.lt_succ_of_lt before, call, isCall, hits, same.succ notClear⟩
    · rw [after_params] at hits
      refine ⟨count, Nat.lt_succ_self count, call, ?_, hits, ?_⟩
      · rw [List.getElem?_eq_getElem within, isCall]
      · intro index from_count upTo
        obtain rfl | rfl : index = count ∨ index = count + 1 := by omega
        · exact notClearBefore
        · exact notClear

/-- An onset is the same for as long as the encounter goes on. -/
theorem onset_of_sameEncounter {first last : Nat} (later : first ≤ last)
    (held : (after params events first).onset = some onset)
    (same : SameEncounter params events (first + 1) last) :
    (after params events last).onset = some onset := by
  induction last, later using Nat.le_induction with
  | base => exact held
  | succ last later inductionHypothesis =>
    have before := inductionHypothesis fun index above below =>
      same index above (Nat.le_succ_of_le below)
    cases present : events[last]? with
    | none => exact (congrArg _ (Runs.stateAt_succ_of_none handle _ events present)).trans before
    | some event =>
      have notClear := same (last + 1) (Nat.succ_le_succ later) (Nat.le_refl _)
      rw [after_succ present] at notClear ⊢
      exact handle_onset before notClear

/-- All events from `first` to the last before `count` are calls at which the release
condition holds. -/
def ReleaseHeld (params : EncounterParams) (events : List EncounterEvent)
    (first count : Nat) : Prop :=
  ∀ index, first ≤ index → index < count →
    ∃ call, events[index]? = some (.transition call) ∧ call.HoldsRelease params

theorem ReleaseHeld.succ {first : Nat} (held : ReleaseHeld params events first count)
    (present : events[count]? = some (.transition call)) (holds : call.HoldsRelease params) :
    ReleaseHeld params events first (count + 1) := by
  intro index above below
  obtain before | rfl := Nat.lt_or_eq_of_le (Nat.le_of_lt_succ below)
  · exact held index above before
  · exact ⟨call, present, holds⟩

/-- What the start of the dwell stands for in RELEASE. -/
theorem releaseHeld_of_release (within : count ≤ events.length)
    (released : (after params events count).state = .release) :
    ∃ first < count, ReleaseHeld params events first count ∧
      ∃ opening, events[first]? = some (.transition opening) ∧
        (after params events count).releaseConditionMetSinceS = opening.nowS := by
  induction count with
  | zero => exact EncounterState.noConfusion released
  | succ count inductionHypothesis =>
    have present := List.getElem?_eq_getElem within
    rw [after_succ present] at released ⊢
    obtain ⟨call, isCall, holds, since⟩ := in_release released
    rw [after_params] at holds
    rw [isCall] at present
    obtain entered | ⟨stayed, unchanged⟩ := since
    · refine ⟨count, Nat.lt_succ_self count, ?_, call, present, entered⟩
      exact ReleaseHeld.succ (fun index above below => by omega) present holds
    · obtain ⟨first, before, held, opening, isOpening, dwell⟩ :=
        inductionHypothesis (Nat.le_of_succ_le within) stayed
      exact ⟨first, Nat.lt_succ_of_lt before, held.succ present holds, opening, isOpening,
        unchanged.trans dwell⟩

/-! ### The laws of a run -/

/-- A call that leads into ACTIVE from another state than MONITOR is made within the planning
horizon while the range closes, below the hard gate, or below the soft one after an earlier
hit below the hard one in the same encounter. -/
def ActivatesInTime (params : EncounterParams) (events : List EncounterEvent) : Prop :=
  ∀ count call, events[count]? = some (.transition call) →
    (after params events (count + 1)).state = .active →
    (after params events count).state ≠ .active →
    (after params events count).state ≠ .monitor →
      call.target.tcpaS ≤ params.tPlanS ∧ call.rangeClosing = true ∧
        (call.target.cpaM < params.cpaHardM ∨
          call.target.cpaM < params.cpaSoftM ∧ HardSeenBefore params events count)

/-- An onset stays the same until the machine is in CLEAR again, by a transition or by a
reset. -/
def KeepsOnset (params : EncounterParams) (events : List EncounterEvent) : Prop :=
  ∀ first last onset, first ≤ last → (after params events first).onset = some onset →
    SameEncounter params events (first + 1) last →
      (after params events last).onset = some onset

/-- A call that leads from RELEASE to CLEAR ends a window of calls, at least as long as the
dwell, at every one of which the release condition holds. -/
def ReleasesAfterDwell (params : EncounterParams) (events : List EncounterEvent) : Prop :=
  ∀ count call, events[count]? = some (.transition call) →
    (after params events count).state = .release →
    (after params events (count + 1)).state = .clear →
      ∃ first < count, ReleaseHeld params events first (count + 1) ∧
        ∃ opening, events[first]? = some (.transition opening) ∧
          call.nowS - opening.nowS ≥ params.tDwellS

theorem after_laws (params : EncounterParams) (events : List EncounterEvent) :
    ActivatesInTime params events ∧ KeepsOnset params events ∧
      ReleasesAfterDwell params events := by
  refine ⟨?activates, fun first last onset => onset_of_sameEncounter, ?releases⟩
  case activates =>
    intro count call present entered fromElsewhere notMonitor
    have within : count < events.length := (List.getElem?_eq_some_iff.mp present).1
    rw [after_succ present] at entered
    have ripe := enters_active entered fromElsewhere notMonitor
    rw [after_params] at ripe
    obtain ⟨window, closing, context⟩ := ripe
    refine ⟨window, closing, context.imp_right fun soft => ⟨soft.1, ?_⟩⟩
    exact hardSeenBefore_of_flag (Nat.le_of_lt within) soft.2
  case releases =>
    intro count call present released clears
    have within : count < events.length := (List.getElem?_eq_some_iff.mp present).1
    rw [after_succ present] at clears
    obtain ⟨holds, dwelt⟩ := release_clears released clears
    rw [after_params] at holds dwelt
    obtain ⟨first, before, held, opening, isOpening, since⟩ :=
      releaseHeld_of_release (Nat.le_of_lt within) released
    exact ⟨first, before, held.succ present holds, opening, isOpening, since ▸ dwelt⟩

end EncounterStateMachine

end MassL3.M6.Colregs
