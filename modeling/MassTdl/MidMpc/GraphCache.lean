/-
This file is about the reuse of the symbolic graph. A cycle rebuilds it when the signature of
its constraint structure differs from the one kept, and the signature packs the structure's
fields into one word in which they overlap. So a cycle may reuse a graph that was built for
another structure: exactly if all seven bytes of the signature agree, and after a reset, which
keeps zero, if all of them vanish.

Next to the node it follows the structure its graph was built for.
-/

import MassTdl.MidMpc.Escalation
import MassTdl.Words

namespace MassL3.M5.MidMpc

open CommittedRoute CommittedAvoidanceRoute Runs Words

variable {Details Ranking Graph Backend : Type}

/-! ### The constraint structure -/

/-- What the rows of the solver's graph depend on. -/
structure ConstraintStructure where
  applicableRules : List UInt8 := []
  prefixActiveK : Int32 := 0
  targetCount : Nat := 0
  preferredDirection : ColregsPreferredDirection := .hold
  primaryRole : UInt8 := 0
  deriving DecidableEq

def constraintStructure (input : MidMpcInput Details) : ConstraintStructure where
  applicableRules := input.applicableRules
  prefixActiveK := input.prefixActiveK
  targetCount := input.targets.length
  preferredDirection := input.colregsPreferredDirection
  primaryRole := input.colregsPrimaryRole

namespace ConstraintStructure

variable (structure₁ structure₂ : ConstraintStructure)

/-- A rule of the list, zero past its end. -/
def rule (index : Nat) : UInt8 := structure₁.applicableRules[index]?.getD 0

def directionCode : UInt8 :=
  match structure₁.preferredDirection with
  | .starboard => 1
  | .port => 2
  | .hold | .reduceSpeed => 0

/-- The prefix length as the 64-bit word it is cast to. -/
def prefixWord : Nat := structure₁.prefixActiveK.toInt64.toUInt64.toNat

/-- What each byte of a structure's signature shows. The prefix length starts in the byte of
the second rule, the number of targets in that of the third, the direction shares the byte of
the fourth; later rules are in none. -/
def signatureByte : Nat → UInt8
  | 0 => 0
  | 1 => structure₁.primaryRole
  | 2 => structure₁.rule 3 ^^^ structure₁.directionCode
  | 3 => structure₁.rule 2 ^^^ byte structure₁.targetCount 0
  | 4 => structure₁.rule 1 ^^^ byte structure₁.prefixWord 0 ^^^ byte structure₁.targetCount 1
  | 5 => structure₁.rule 0 ^^^ byte structure₁.prefixWord 1 ^^^ byte structure₁.targetCount 2
  | 6 => byte structure₁.applicableRules.length 0 ^^^ byte structure₁.prefixWord 2 ^^^
      byte structure₁.targetCount 3
  | _ => byte structure₁.applicableRules.length 1 ^^^ byte structure₁.prefixWord 3 ^^^
      byte structure₁.targetCount 4

/-- No byte of the signatures tells the two structures apart. -/
def SameBytes : Prop :=
  ∀ lane < 8, structure₁.signatureByte lane = structure₂.signatureByte lane

/-- The signature of a structure, all fields shifted by whole bytes. -/
def signature : UInt64 :=
  structure₁.applicableRules.length.toUInt64 <<< (8 * 6).toUInt64 ^^^
    (structure₁.rule 0).toUInt64 <<< (8 * 5).toUInt64 ^^^
    (structure₁.rule 1).toUInt64 <<< (8 * 4).toUInt64 ^^^
    (structure₁.rule 2).toUInt64 <<< (8 * 3).toUInt64 ^^^
    (structure₁.rule 3).toUInt64 <<< (8 * 2).toUInt64 ^^^
    structure₁.prefixActiveK.toInt64.toUInt64 <<< (8 * 4).toUInt64 ^^^
    structure₁.targetCount.toUInt64 <<< (8 * 3).toUInt64 ^^^
    structure₁.directionCode.toUInt64 <<< (8 * 2).toUInt64 ^^^
    structure₁.primaryRole.toUInt64 <<< (8 * 1).toUInt64

end ConstraintStructure

open ConstraintStructure

/-- The node's signature is that of the structure. -/
theorem constraintSignature_eq (input : MidMpcInput Details) :
    constraintSignature input = (constraintStructure input).signature := by
  unfold constraintSignature signature rule directionCode
  simp only [constraintStructure]
  cases input.colregsPreferredDirection <;>
    rcases input.applicableRules with
      _ | ⟨rule0, _ | ⟨rule1, _ | ⟨rule2, _ | ⟨rule3, later⟩⟩⟩⟩ <;>
    simp [UInt64.xor_assoc]

/-! ### Signatures, byte by byte -/

/-- The bytes of a field of one byte, shifted to its place. -/
theorem byte_field (field : UInt8) {places lane : Nat} (inside : places < 8)
    (counted : lane < 8) :
    byte (field.toUInt64 <<< (8 * places).toUInt64).toNat lane =
      if lane = places then field else 0 := by
  rw [byte_shiftLeft_uint64 _ inside counted, UInt8.toNat_toUInt64]
  rcases Nat.lt_trichotomy lane places with below | rfl | above
  · rw [if_pos below, if_neg (Nat.ne_of_lt below)]
  · rw [if_neg (Nat.lt_irrefl lane), if_pos rfl, Nat.sub_self, byte_toNat]
  · rw [if_neg (Nat.lt_asymm above), if_neg (Nat.ne_of_gt above),
      byte_toNat_of_pos field (Nat.sub_pos_of_lt above)]

/-- The bytes of a counter, shifted to its place. -/
theorem byte_counter (counter : Nat) {places lane : Nat} (inside : places < 8)
    (counted : lane < 8) :
    byte (counter.toUInt64 <<< (8 * places).toUInt64).toNat lane =
      if lane < places then 0 else byte counter (lane - places) := by
  rw [byte_shiftLeft_uint64 _ inside counted, Nat.toUInt64_eq, UInt64.toNat_ofNat']
  split
  · rfl
  · have inWord : lane - places < 8 := by omega
    exact byte_mod counter inWord

theorem byte_signature (shown : ConstraintStructure) {lane : Nat} (counted : lane < 8) :
    byte shown.signature.toNat lane = shown.signatureByte lane := by
  unfold ConstraintStructure.signature
  simp only [UInt64.toNat_xor, byte_xor, byte_field _ (by decide : 1 < 8) counted,
    byte_field _ (by decide : 2 < 8) counted, byte_field _ (by decide : 3 < 8) counted,
    byte_field _ (by decide : 4 < 8) counted, byte_field _ (by decide : 5 < 8) counted,
    byte_counter _ (by decide : 3 < 8) counted, byte_counter _ (by decide : 6 < 8) counted,
    byte_shiftLeft_uint64 _ (by decide : 4 < 8) counted]
  interval_cases lane <;>
    simp [ConstraintStructure.signatureByte, prefixWord, UInt8.xor_comm]

/-- Two signatures are equal exactly if their bytes are. -/
theorem signature_eq_iff (structure₁ structure₂ : ConstraintStructure) :
    structure₁.signature = structure₂.signature ↔ SameBytes structure₁ structure₂ := by
  have bounded (shown : ConstraintStructure) : shown.signature.toNat < 2 ^ (8 * 8) :=
    shown.signature.toNat_lt
  have words := eq_iff_byte_eq (bounded structure₁) (bounded structure₂)
  rw [← UInt64.toNat_inj, words]
  constructor
  · intro bytes lane counted
    rw [← byte_signature structure₁ counted, ← byte_signature structure₂ counted]
    exact bytes lane counted
  · intro same lane counted
    rw [byte_signature structure₁ counted, byte_signature structure₂ counted]
    exact same lane counted

/-- The empty structure, for which the constructor's graph is built, has the signature that a
reset keeps. -/
theorem signature_empty : ({} : ConstraintStructure).signature = 0 := by
  decide

/-! ### Following the graph -/

variable (planner : Planner Details Ranking Graph Backend)

/-- The input the next cycle assembles. -/
def MidMpcNode.nextInput (node : MidMpcNode Details Ranking Graph Backend) : MidMpcInput Details :=
  (planner.assembleInput node.inbox node.committedRouteManager.current.committedPrefix
    node.riskRankingState).1

/-- The constraint structure of the next cycle. -/
def MidMpcNode.nextStructure (node : MidMpcNode Details Ranking Graph Backend) :
    ConstraintStructure :=
  constraintStructure (node.nextInput planner)

/-- The next cycle solves with the graph that is there. -/
def MidMpcNode.Reuses (node : MidMpcNode Details Ranking Graph Backend) : Prop :=
  constraintSignature (node.nextInput planner) = node.lastConstraintSignature ∧
    planner.solverValid node.graph = true

instance (node : MidMpcNode Details Ranking Graph Backend) : Decidable (node.Reuses planner) :=
  inferInstanceAs (Decidable (_ ∧ _))

/-- The node's events and the reset between two scenarios. -/
inductive LifeEvent (Details : Type) where
  | event (event : Event Details)
  | scenarioLoaded

/-- The node, the structure of the cycle its graph was built for, and whether it was reset since
its last cycle. -/
structure GraphLife (Details Ranking Graph Backend : Type) where
  node : MidMpcNode Details Ranking Graph Backend
  builtFor : ConstraintStructure := {}
  resetPending : Bool := false

namespace GraphLife

def construct : GraphLife Details Ranking Graph Backend := { node := .construct planner }

def handle (life : GraphLife Details Ranking Graph Backend) :
    LifeEvent Details → GraphLife Details Ranking Graph Backend
  | .scenarioLoaded =>
      { life with node := life.node.resetCrossRunState planner, resetPending := true }
  | .event (.solveTimer now) =>
      if life.node.inbox.required.isSome then
        { node := life.node.handle planner (.solveTimer now)
          builtFor :=
            if life.node.Reuses planner then life.builtFor else life.node.nextStructure planner
          resetPending := false }
      else life
  | .event message => { life with node := life.node.handle planner message }

/-- The event runs a cycle. -/
def Cycles (life : GraphLife Details Ranking Graph Backend) (event : LifeEvent Details) : Prop :=
  (∃ now, event = .event (.solveTimer now)) ∧ life.node.inbox.required.isSome = true

/-- The next cycle reuses the graph only for the structure it was built for, and not after a
reset. -/
def Sound (life : GraphLife Details Ranking Graph Backend) : Prop :=
  life.node.Reuses planner →
    life.node.nextStructure planner = life.builtFor ∧ life.resetPending = false

/-- Some byte of the signature tells the next cycle's structure from the one the graph was built
for, and after a reset from the empty one. -/
def Separated (life : GraphLife Details Ranking Graph Backend) : Prop :=
  planner.solverValid life.node.graph = true →
    if life.resetPending then ¬ SameBytes (life.node.nextStructure planner) {}
    else SameBytes (life.node.nextStructure planner) life.builtFor →
      life.node.nextStructure planner = life.builtFor

/-- The graph is the one built for the structure that is followed, and the signature is that
structure's, or zero after a reset. -/
structure Kept (life : GraphLife Details Ranking Graph Backend) : Prop where
  graph : (life.node.graph = planner.initialGraph ∧ life.builtFor = {}) ∨
    ∃ input, life.node.graph = planner.buildSymbolicGraph input ∧
      life.builtFor = constraintStructure input
  signature : life.node.lastConstraintSignature =
    if life.resetPending then 0 else life.builtFor.signature

/-! ### One step -/

/-- The solve writes neither the graph nor the signature after the rebuild. -/
theorem runSolver_rebuild (node : MidMpcNode Details Ranking Graph Backend)
    (behavior : BehaviorPlan Details) (input : MidMpcInput Details) :
    (node.runSolver planner behavior input).1.graph =
        (node.rebuildGraph planner input).graph ∧
      (node.runSolver planner behavior input).1.lastConstraintSignature =
        (node.rebuildGraph planner input).lastConstraintSignature := by
  unfold MidMpcNode.runSolver
  dsimp only
  split <;> exact ⟨rfl, rfl⟩

/-- A cycle leaves the graph and the signature of its rebuild. -/
theorem onSolveCycle_rebuild (node : MidMpcNode Details Ranking Graph Backend) (now : Int)
    (required : node.inbox.required.isSome = true) :
    (node.onSolveCycle planner now).graph =
        (node.rebuildGraph planner (node.nextInput planner)).graph ∧
      (node.onSolveCycle planner now).lastConstraintSignature =
        (node.rebuildGraph planner (node.nextInput planner)).lastConstraintSignature := by
  obtain ⟨⟨world, behavior⟩, messages⟩ := Option.isSome_iff_exists.mp required
  have published := publishCommittedRoute_publishes planner
    (node.prepare planner world behavior).node behavior
    (node.prepare planner world behavior).input (node.prepare planner world behavior).sol
    (node.prepare planner world behavior).selectedPlan world.ownLatitude world.ownLongitude now
  have solved := runSolver_rebuild planner { node with
      riskRankingState := (planner.assembleInput node.inbox
        node.committedRouteManager.current.committedPrefix node.riskRankingState).2 }
    behavior (node.nextInput planner)
  unfold MidMpcNode.onSolveCycle
  rw [messages]
  refine ⟨published.graph_eq.trans (solved.1.trans ?_),
    published.lastConstraintSignature_eq.trans (solved.2.trans ?_)⟩ <;>
  · unfold MidMpcNode.rebuildGraph
    split <;> rfl

theorem rebuildGraph_of_reuses {node : MidMpcNode Details Ranking Graph Backend}
    (reuses : node.Reuses planner) : node.rebuildGraph planner (node.nextInput planner) = node := by
  unfold MidMpcNode.rebuildGraph
  rw [if_neg]
  rintro (changed | invalid)
  · exact changed reuses.1
  · exact absurd reuses.2 (by simp [invalid])

theorem rebuildGraph_of_not_reuses {node : MidMpcNode Details Ranking Graph Backend}
    (rebuilds : ¬ node.Reuses planner) :
    node.rebuildGraph planner (node.nextInput planner) =
      { node with
        graph := planner.buildSymbolicGraph (node.nextInput planner)
        lastConstraintSignature := (node.nextStructure planner).signature } := by
  unfold MidMpcNode.rebuildGraph MidMpcNode.nextStructure
  rw [if_pos, constraintSignature_eq]
  by_cases changed : constraintSignature (node.nextInput planner) = node.lastConstraintSignature
  · refine .inr (Bool.eq_false_iff.mpr fun valid => rebuilds ⟨changed, valid⟩)
  · exact .inl changed

theorem Kept.construct : Kept planner (construct planner) :=
  ⟨.inl ⟨rfl, rfl⟩, signature_empty.symm⟩

/-- A reuse that keeps the signature: the structure's is zero after a reset, and that of the
structure the graph was built for otherwise. -/
theorem Kept.signature_of_reuses {life : GraphLife Details Ranking Graph Backend}
    (kept : Kept planner life) (reuses : life.node.Reuses planner) :
    (life.node.nextStructure planner).signature =
      if life.resetPending then 0 else life.builtFor.signature := by
  unfold MidMpcNode.nextStructure
  rw [← constraintSignature_eq, reuses.1]
  exact kept.signature

/-- A cycle is sound exactly if the signature separates the structures it compares. -/
theorem Kept.sound_iff {life : GraphLife Details Ranking Graph Backend} (kept : Kept planner life) :
    life.Sound planner ↔ life.Separated planner := by
  unfold Sound Separated
  have keptSignature := kept.signature
  cases pending : life.resetPending with
  | true =>
    simp only [pending, if_true] at keptSignature ⊢
    rw [← signature_eq_iff, signature_empty]
    constructor
    · intro sound valid zero
      have reuses : life.node.Reuses planner :=
        ⟨by rw [constraintSignature_eq, keptSignature]; exact zero, valid⟩
      exact absurd (sound reuses).2 (by decide)
    · intro separated reuses
      refine absurd ?_ (separated reuses.2)
      have same := kept.signature_of_reuses planner reuses
      rwa [pending] at same
  | false =>
    simp only [pending, if_false, Bool.false_eq_true] at keptSignature ⊢
    rw [← signature_eq_iff]
    constructor
    · intro sound valid same
      have reuses : life.node.Reuses planner :=
        ⟨by rw [constraintSignature_eq, keptSignature]; exact same, valid⟩
      exact (sound reuses).1
    · intro separated reuses
      have same := kept.signature_of_reuses planner reuses
      rw [pending] at same
      exact ⟨separated reuses.2 same, trivial⟩

/-- A sound cycle keeps what is followed true. -/
theorem Kept.handle {life : GraphLife Details Ranking Graph Backend} (kept : Kept planner life)
    {event : LifeEvent Details} (sound : life.Cycles event → life.Sound planner) :
    Kept planner (life.handle planner event) := by
  cases event with
  | scenarioLoaded => exact ⟨kept.graph, rfl⟩
  | event event =>
    cases event with
    | solveTimer now =>
      unfold GraphLife.handle
      dsimp only
      split
      next required =>
        obtain ⟨rebuilt, resigned⟩ := onSolveCycle_rebuild planner life.node now required
        by_cases reuses : life.node.Reuses planner
        · rw [rebuildGraph_of_reuses planner reuses] at rebuilt resigned
          have notPending := (sound ⟨⟨now, rfl⟩, required⟩ reuses).2
          have signature := kept.signature
          rw [notPending] at signature
          rw [if_pos reuses]
          refine ⟨?_, resigned.trans signature⟩
          have graph := kept.graph
          rw [← rebuilt] at graph
          exact graph
        · rw [rebuildGraph_of_not_reuses planner reuses] at rebuilt resigned
          rw [if_neg reuses]
          exact ⟨.inr ⟨_, rebuilt, rfl⟩, resigned⟩
      next => exact kept
    | _ => exact ⟨kept.graph, kept.signature⟩

/-! ### Whole runs -/

/-- In every run, with resets anywhere: all cycles reuse the graph soundly exactly if the
signatures separate the structures in all of them. -/
theorem sound_iff_separated (events : List (LifeEvent Details)) :
    (∀ count event, events[count]? = some event →
        (stateAt (handle planner) (construct planner) events count).Cycles event →
        (stateAt (handle planner) (construct planner) events count).Sound planner) ↔
      ∀ count event, events[count]? = some event →
        (stateAt (handle planner) (construct planner) events count).Cycles event →
        (stateAt (handle planner) (construct planner) events count).Separated planner := by
  constructor
  · intro sound count event present cycles
    have kept := stateAt_invariant (Kept planner) (Kept.construct planner)
      (fun count event present kept => kept.handle planner (sound count event present)) count
    exact (kept.sound_iff planner).mp (sound count event present cycles)
  · intro separated count event present cycles
    have kept := stateAt_invariant (Kept planner) (Kept.construct planner)
      (fun count event present kept => kept.handle planner fun cycles =>
        (kept.sound_iff planner).mpr (separated count event present cycles)) count
    exact (kept.sound_iff planner).mpr (separated count event present cycles)

end GraphLife

/-! ### Two structures with one signature -/

/-- A planner whose own latitude selects the encounter: on the equator four targets with Rules
14, 16 and 15, north of it six targets with Rules 14, 16 and 13, south of it nothing at all. -/
def latitudePlanner : Planner Unit Unit Unit Unit :=
  { overtakePlanner with
    assembleInput := fun inbox _ _ =>
      let latitude := (inbox.worldState.map (·.ownLatitude)).getD 0.0
      let target : TargetState := { xM := 4000.0, yM := 0.0, cogRad := 3.0, sogMps := 5.0 }
      if latitude < 0.0 then
        ({ overtakeInput with
            applicableRules := []
            colregsConflictActive := false
            colregsPreferredDirection := .hold
            colregsPrimaryRole := 0 }, ())
      else if latitude > 0.0 then
        ({ overtakeInput with
            applicableRules := [14, 16, 13], targets := List.replicate 6 target }, ())
      else
        ({ overtakeInput with
            applicableRules := [14, 16, 15], targets := List.replicate 4 target }, ()) }

/-- A cycle on the equator, then one at another latitude, after a reset or without one. -/
def latitudeEvents (latitude : Float) (reset : Bool) : List (LifeEvent Unit) :=
  [.event (.worldState { ownLatitude := 0.0, ownLongitude := 0.0, details := () }),
    .event (.behaviorPlan
      { behavior := behaviorColregAvoid, rationale := "Rule 14", details := () }),
    .event (.colregsConstraint ()),
    .event (.solveTimer 0)] ++
  (if reset then [.scenarioLoaded] else []) ++
  [.event (.worldState { ownLatitude := latitude, ownLongitude := 0.0, details := () }),
    .event (.solveTimer 1000000000)]

/-- The graph of one structure serves another, and the reset does not make the empty structure
rebuild it. -/
theorem graph_reused_for_other_structure :
    (¬ ∀ (planner : Planner Unit Unit Unit Unit) (events : List (LifeEvent Unit)) (count : Nat)
        (event : LifeEvent Unit), events[count]? = some event →
        (stateAt (GraphLife.handle planner) (GraphLife.construct planner) events count).Cycles
          event →
        (stateAt (GraphLife.handle planner) (GraphLife.construct planner) events
          count).node.Reuses planner →
        (stateAt (GraphLife.handle planner) (GraphLife.construct planner) events
            count).node.nextStructure planner =
          (stateAt (GraphLife.handle planner) (GraphLife.construct planner) events
            count).builtFor) ∧
    ¬ ∀ (planner : Planner Unit Unit Unit Unit) (events : List (LifeEvent Unit)) (count : Nat)
        (event : LifeEvent Unit), events[count]? = some event →
        (stateAt (GraphLife.handle planner) (GraphLife.construct planner) events count).Cycles
          event →
        (stateAt (GraphLife.handle planner) (GraphLife.construct planner) events
          count).resetPending = true →
        ¬ (stateAt (GraphLife.handle planner) (GraphLife.construct planner) events
          count).node.Reuses planner := by
  constructor
  · intro sound
    have same := sound latitudePlanner (latitudeEvents 1.0 false) 5
      (.event (.solveTimer 1000000000)) (by rfl) ⟨⟨_, rfl⟩, by decide +kernel⟩
      (by decide +kernel)
    revert same
    decide
  · intro rebuilds
    exact rebuilds latitudePlanner (latitudeEvents (-1.0) true) 6
      (.event (.solveTimer 1000000000)) (by rfl) ⟨⟨_, rfl⟩, by decide +kernel⟩
      (by decide) (by decide)

end MassL3.M5.MidMpc
