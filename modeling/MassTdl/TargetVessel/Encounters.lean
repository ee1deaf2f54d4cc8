/-
This file is about runs of the state machine of a simulated target ship. It says what one update
does to an encounter, and from that what whole runs do: the machine returns exactly when a
conflict that it was engaged in has been clear for the dwell time, and after a shorter interruption
an encounter begins anew exactly if another rule is found, or a role other than the stored one. The
stored role is another after the machine has given way in a head-on meeting, or on its own account
when it was to stand on.
-/

import MassTdl.Binary64.FixedOperand
import MassTdl.Runs
import MassTdl.TargetVessel.RuleFsm

namespace MassL3.TargetVessel

open Runs

variable {lib : MathLibrary} {config : TargetBehaviorConfig}

namespace TargetBehaviorState

variable {fsm : TargetBehaviorState} {update : Update} {cpa : CpaTcpa} {rule : Rule} {role : Role}

/-! ### One update in an encounter -/

/-- What is stored of an encounter that is acted on: giving way is its own role. -/
structure Stores (fsm : TargetBehaviorState) (rule : Rule) (role : Role)
    (result : TargetBehaviorState) : Prop where
  active : result.Active
  start : result.encounterStartS = fsm.encounterStartS
  clear : result.clearSinceS = fsm.clearSinceS
  rule : result.rule = some rule
  role : result.role = if result.state = .giveWay then some .giveWay else some role
  reason : result.reason ≠ "reaction_delay"

theorem stores_giveWay {reason : String} (acts : reason ≠ "reaction_delay") :
    Stores fsm rule role (fsm.giveWay lib config update cpa rule reason).1 where
  active := .inr (.inl rfl)
  start := rfl
  clear := rfl
  rule := rfl
  role := rfl
  reason := acts

theorem stores_hold {state : Mode} {reason : String} {headingDeg : Float}
    (acts : reason ≠ "reaction_delay") (held : state = .monitoring ∨ state = .standOn) :
    Stores fsm rule role (fsm.hold lib update cpa state rule role reason headingDeg).1 where
  active := by
    rcases held with rfl | rfl
    · exact .inl rfl
    · exact .inr (.inr rfl)
  start := rfl
  clear := rfl
  rule := rfl
  role := by
    rcases held with rfl | rfl
    · rfl
    · rfl
  reason := acts

theorem stores_react (fsm : TargetBehaviorState) (rule : Rule) (role : Role) :
    Stores fsm rule role (fsm.react lib config update cpa rule role).1 := by
  cases rule with
  | rule14 => exact stores_giveWay (by decide)
  | rule13 =>
    cases role with
    | giveWay => exact stores_giveWay (by decide)
    | standOn => exact stores_hold (by decide) (.inr rfl)
    | bothGiveWay => exact stores_hold (by decide) (.inl rfl)
  | rule15 =>
    cases role with
    | giveWay => exact stores_giveWay (by decide)
    | standOn | bothGiveWay => exact stores_hold (by decide) (.inl rfl)
  | rule17 =>
    cases role with
    | standOn =>
      unfold react
      dsimp only
      split_ifs
      · exact stores_hold (by decide) (.inr rfl)
      · exact stores_giveWay (by decide)
      · exact stores_hold (by decide) (.inr rfl)
    | giveWay | bothGiveWay => exact stores_hold (by decide) (.inl rfl)

/-- The start of the encounter that an update finds. -/
def startAfter (fsm : TargetBehaviorState) (update : Update) (rule : Rule) (role : Role) :
    Option Float :=
  if fsm.BeginsAnew rule role then some update.nowS else fsm.encounterStartS

/-- Before the machine reacts, the start is known and no interruption is. -/
theorem prepared_start (fsm : TargetBehaviorState) (update : Update) (cpa : CpaTcpa) (rule : Rule)
    (role : Role) :
    ((fsm.prepareEncounterContext rule role).ensureEncounterStarted update cpa).encounterStartS =
        fsm.startAfter update rule role ∧
      ((fsm.prepareEncounterContext rule role).ensureEncounterStarted update cpa).clearSinceS =
        none := by
  unfold prepareEncounterContext startAfter
  dsimp only
  by_cases anew : fsm.BeginsAnew rule role
  · rw [if_pos anew, if_pos anew]
    exact ⟨rfl, rfl⟩
  · rw [if_neg anew, if_neg anew]
    have started : fsm.encounterStartS.isSome = true :=
      Option.isSome_iff_ne_none.mpr fun none => anew (.inl none)
    unfold ensureEncounterStarted
    rw [if_pos started]
    exact ⟨rfl, rfl⟩

/-- Everything that an update does which finds an encounter. -/
structure Engages (fsm : TargetBehaviorState) (config : TargetBehaviorConfig) (update : Update)
    (rule : Rule) (role : Role) (result : TargetBehaviorState) : Prop where
  active : result.Active
  start : result.encounterStartS = fsm.startAfter update rule role
  clear : result.clearSinceS = none
  rule : result.rule = some rule
  role : result.role = if result.state = .giveWay then some .giveWay else some role

theorem engages_engage :
    Engages fsm config update rule role (fsm.engage lib config update cpa rule role).1 := by
  obtain ⟨start, clear⟩ := prepared_start fsm update cpa rule role
  unfold engage
  dsimp only
  split_ifs
  · obtain ⟨active, sameStart, sameClear, storedRule, storedRole, -⟩ := stores_react
      ((fsm.prepareEncounterContext rule role).ensureEncounterStarted update cpa) rule role
    exact ⟨active, sameStart.trans start, sameClear.trans clear, storedRule, storedRole⟩
  · exact ⟨.inl rfl, start, clear, rfl, rfl⟩

/-- Once the delay has elapsed, the machine does not wait for it. -/
theorem engage_reason {start : Float} (started : fsm.startAfter update rule role = some start)
    (elapsed : update.nowS - start ≥ config.reactionDelayS) :
    (fsm.engage lib config update cpa rule role).1.reason ≠ "reaction_delay" := by
  have known := (prepared_start fsm update cpa rule role).1.trans started
  unfold engage
  dsimp only
  rw [if_pos ⟨start, known, elapsed⟩]
  exact (stores_react _ rule role).reason

/-! ### One update without an encounter -/

/-- An engaged machine notes when the conflict became clear, and returns after the dwell time. -/
theorem clearOrNominal_of_active (active : fsm.Active) :
    (fsm.clearOrNominal lib config update cpa).1 =
      if update.nowS - fsm.clearSinceS.getD update.nowS ≥ config.clearDwellS then
        { fsm with clearSinceS := some (fsm.clearSinceS.getD update.nowS) }.setState .returning
          fsm.rule fsm.role "conflict_clear_returning" update.nowS
      else { fsm with clearSinceS := some (fsm.clearSinceS.getD update.nowS) } := by
  unfold clearOrNominal
  rw [if_pos active]
  dsimp only
  split_ifs
  · rfl
  · rfl

theorem nominal_idle : ¬ ({} : TargetBehaviorState).Active := by decide

/-- A machine that is not engaged stays so, and does not begin to return. -/
theorem clearOrNominal_of_not_active (idle : ¬ fsm.Active) :
    ¬ (fsm.clearOrNominal lib config update cpa).1.Active ∧
      ((fsm.clearOrNominal lib config update cpa).1.state = .returning →
        fsm.state = .returning) := by
  unfold clearOrNominal
  rw [if_neg idle]
  split_ifs with returns close
  · exact ⟨nominal_idle, fun _ => returns⟩
  · exact ⟨idle, id⟩
  · exact ⟨idle, id⟩

end TargetBehaviorState

/-! ### Runs -/

/-- The state after one more update. -/
def step (lib : MathLibrary) (config : TargetBehaviorConfig) (fsm : TargetBehaviorState)
    (next : Update) : TargetBehaviorState :=
  (update lib config fsm next).1

/-- The state of a new machine after a list of updates. -/
def after (lib : MathLibrary) (config : TargetBehaviorConfig) (updates : List Update) :
    TargetBehaviorState :=
  run (step lib config) {} updates

theorem after_append (updates later : List Update) :
    after lib config (updates ++ later) =
      run (step lib config) (after lib config updates) later :=
  run_append _ _ _ _

section Steps

variable {fsm : TargetBehaviorState} {next : Update} {rule : Rule} {role : Role}

theorem engages_step (fsm : TargetBehaviorState) (met : found lib config next = some (rule, role)) :
    fsm.Engages config next rule role (step lib config fsm next) := by
  unfold step update
  unfold found at met
  dsimp only
  rw [met]
  exact TargetBehaviorState.engages_engage

theorem step_reason {start : Float} (met : found lib config next = some (rule, role))
    (started : fsm.startAfter next rule role = some start)
    (elapsed : next.nowS - start ≥ config.reactionDelayS) :
    (step lib config fsm next).reason ≠ "reaction_delay" := by
  unfold step update
  unfold found at met
  dsimp only
  rw [met]
  exact TargetBehaviorState.engage_reason started elapsed

theorem step_of_clear (clear : found lib config next = none) :
    step lib config fsm next = (fsm.clearOrNominal lib config next
      (computeCpaTcpa lib next.own next.target)).1 := by
  unfold step update
  unfold found at clear
  dsimp only
  rw [clear]

/-- Within the dwell time, an update without a conflict only notes when the conflict ended. -/
theorem step_of_short (clear : found lib config next = none) (active : fsm.Active)
    (short : ¬ next.nowS - fsm.clearSinceS.getD next.nowS ≥ config.clearDwellS) :
    step lib config fsm next =
      { fsm with clearSinceS := some (fsm.clearSinceS.getD next.nowS) } := by
  rw [step_of_clear clear, TargetBehaviorState.clearOrNominal_of_active active, if_neg short]

end Steps

/-! ### Interruptions -/

/-- No update of the interruption comes the dwell time after its first one. -/
def Short (config : TargetBehaviorConfig) (clear : List Update) : Prop :=
  ∀ first ∈ clear.head?, ∀ next ∈ clear, ¬ next.nowS - first.nowS ≥ config.clearDwellS

/-- The last update that found an encounter, and a short interruption since then. -/
structure Ongoing (lib : MathLibrary) (config : TargetBehaviorConfig)
    (updates earlier : List Update) (last : Update) (clear : List Update) : Prop where
  split : updates = earlier ++ last :: clear
  met : found lib config last ≠ none
  clears : ∀ next ∈ clear, found lib config next = none
  short : Short config clear

variable {fsm : TargetBehaviorState}

/-- An interruption that goes on changes nothing any more. -/
theorem run_of_noted {since : Float} {clear : List Update} (active : fsm.Active)
    (noted : fsm.clearSinceS = some since) (clears : ∀ next ∈ clear, found lib config next = none)
    (short : ∀ next ∈ clear, ¬ next.nowS - since ≥ config.clearDwellS) :
    run (step lib config) fsm clear = fsm := by
  induction clear with
  | nil => rfl
  | cons next later inductionHypothesis =>
    have within := short next List.mem_cons_self
    have unchanged : step lib config fsm next = fsm := by
      rw [step_of_short (clears next List.mem_cons_self) active (by rwa [noted]), noted]
      cases fsm
      cases noted
      rfl
    show run (step lib config) (step lib config fsm next) later = fsm
    rw [unchanged]
    exact inductionHypothesis (fun other member => clears other (List.mem_cons_of_mem _ member))
      fun other member => short other (List.mem_cons_of_mem _ member)

/-- After a short interruption the machine is as before, but for the time of its first update. -/
theorem run_of_short {clear : List Update} (active : fsm.Active) (running : fsm.clearSinceS = none)
    (clears : ∀ next ∈ clear, found lib config next = none) (short : Short config clear) :
    run (step lib config) fsm clear = { fsm with clearSinceS := clear.head?.map Update.nowS } := by
  cases clear with
  | nil =>
    cases fsm
    cases running
    rfl
  | cons first later =>
    have within := short first rfl
    have noted : step lib config fsm first = { fsm with clearSinceS := some first.nowS } := by
      rw [step_of_short (clears first List.mem_cons_self) active
        (by rw [running]; exact within first List.mem_cons_self), running]
      rfl
    show run (step lib config) (step lib config fsm first) later = _
    rw [noted]
    exact run_of_noted active rfl
      (fun other member => clears other (List.mem_cons_of_mem _ member))
      fun other member => within other (List.mem_cons_of_mem _ member)

section Ongoing

variable {updates earlier : List Update} {last : Update} {clear : List Update}

/-- The interruption leaves the machine as the encounter did, but for the time it began. -/
theorem Ongoing.after_eq (ongoing : Ongoing lib config updates earlier last clear) :
    (after lib config updates).Active ∧
      after lib config updates = { after lib config (earlier ++ [last]) with
        clearSinceS := clear.head?.map Update.nowS } := by
  obtain ⟨rfl, met, clears, short⟩ := ongoing
  obtain ⟨⟨rule, role⟩, met⟩ := Option.ne_none_iff_exists'.mp met
  have engages := engages_step (after lib config earlier) met
  have engaged : after lib config (earlier ++ [last]) =
      step lib config (after lib config earlier) last := after_append earlier [last]
  have interrupted : after lib config (earlier ++ last :: clear) =
      { after lib config (earlier ++ [last]) with
        clearSinceS := clear.head?.map Update.nowS } := by
    rw [List.append_cons, after_append]
    refine run_of_short ?_ ?_ clears short
    · rw [engaged]
      exact engages.active
    · rw [engaged]
      exact engages.clear
  refine ⟨?_, interrupted⟩
  rw [interrupted, engaged]
  exact engages.active

variable {next : Update}

/-- One more update without a conflict, within the dwell time. -/
theorem Ongoing.concat (ongoing : Ongoing lib config updates earlier last clear)
    (clears : found lib config next = none)
    (short : ∀ first ∈ (clear ++ [next]).head?, ¬ next.nowS - first.nowS ≥ config.clearDwellS) :
    Ongoing lib config (updates ++ [next]) earlier last (clear ++ [next]) where
  split := by rw [ongoing.split, List.append_assoc, List.cons_append]
  met := ongoing.met
  clears other member := (List.mem_append.mp member).elim (ongoing.clears other) fun same => by
    rwa [List.mem_singleton.mp same]
  short first isFirst other member := by
    rcases List.mem_append.mp member with before | same
    · cases clear with
      | nil => cases before
      | cons head tail => exact ongoing.short first isFirst other before
    · rw [List.mem_singleton.mp same]
      exact short first isFirst

theorem forall_head_concat (Holds : Float → Prop) (clear : List Update) (next : Update) :
    (∀ first ∈ (clear ++ [next]).head?, Holds first.nowS) ↔
      Holds ((clear.head?.map Update.nowS).getD next.nowS) := by
  cases clear <;> simp

/-- An engaged machine has an ongoing encounter. -/
theorem exists_ongoing (active : (after lib config updates).Active) :
    ∃ earlier last clear, Ongoing lib config updates earlier last clear := by
  induction updates using List.reverseRecOn with
  | nil => exact absurd active TargetBehaviorState.nominal_idle
  | append_singleton before next inductionHypothesis =>
    cases met : found lib config next with
    | some pair =>
      refine ⟨before, next, [], rfl, ?_, fun _ member => absurd member List.not_mem_nil,
        fun _ _ _ member => absurd member List.not_mem_nil⟩
      rw [met]
      exact Option.some_ne_none pair
    | none =>
      have stepped : after lib config (before ++ [next]) =
          step lib config (after lib config before) next := after_append before [next]
      rw [stepped, step_of_clear met] at active
      by_cases engaged : (after lib config before).Active
      · obtain ⟨earlier, last, clear, ongoing⟩ := inductionHypothesis engaged
        refine ⟨earlier, last, clear ++ [next], ongoing.concat met ?_⟩
        rw [forall_head_concat (fun since => ¬ next.nowS - since ≥ config.clearDwellS)]
        intro enough
        have since : (after lib config before).clearSinceS = clear.head?.map Update.nowS :=
          congrArg TargetBehaviorState.clearSinceS ongoing.after_eq.2
        rw [TargetBehaviorState.clearOrNominal_of_active engaged, since, if_pos enough] at active
        exact absurd active (by rintro (other | other | other) <;> cases other)
      · exact absurd active (TargetBehaviorState.clearOrNominal_of_not_active engaged).1

/-- A machine begins to return only out of an ongoing encounter, after the dwell time. -/
theorem dwelt_of_begins_returning
    (returns : (after lib config (updates ++ [next])).state = .returning)
    (before : (after lib config updates).state ≠ .returning) :
    ∃ earlier last clear, Ongoing lib config updates earlier last clear ∧
      found lib config next = none ∧
      ∀ first ∈ (clear ++ [next]).head?, next.nowS - first.nowS ≥ config.clearDwellS := by
  have stepped : after lib config (updates ++ [next]) =
      step lib config (after lib config updates) next := after_append updates [next]
  rw [stepped] at returns
  cases met : found lib config next with
  | some pair =>
    obtain ⟨rule, role⟩ := pair
    have active := (engages_step (after lib config updates) met).active
    rcases active with other | other | other <;> rw [other] at returns <;> cases returns
  | none =>
    rw [step_of_clear met] at returns
    by_cases engaged : (after lib config updates).Active
    · obtain ⟨earlier, last, clear, ongoing⟩ := exists_ongoing engaged
      refine ⟨earlier, last, clear, ongoing, rfl, ?_⟩
      rw [forall_head_concat (fun since => next.nowS - since ≥ config.clearDwellS)]
      by_contra short
      have since : (after lib config updates).clearSinceS = clear.head?.map Update.nowS :=
        congrArg TargetBehaviorState.clearSinceS ongoing.after_eq.2
      rw [TargetBehaviorState.clearOrNominal_of_active engaged, since, if_neg short] at returns
      exact before returns
    · exact absurd
        ((TargetBehaviorState.clearOrNominal_of_not_active engaged).2 returns) before

/-- The machine begins to return exactly when an encounter was ongoing, and the interruption has
just become as long as the dwell time. -/
theorem begins_returning_iff {next : Update} :
    ((after lib config (updates ++ [next])).state = .returning ∧
        (after lib config updates).state ≠ .returning) ↔
      ∃ earlier last clear, Ongoing lib config updates earlier last clear ∧
        found lib config next = none ∧
        ∀ first ∈ (clear ++ [next]).head?, next.nowS - first.nowS ≥ config.clearDwellS := by
  refine ⟨fun ⟨returns, before⟩ => dwelt_of_begins_returning returns before, ?_⟩
  rintro ⟨earlier, last, clear, ongoing, met, enough⟩
  rw [forall_head_concat (fun since => next.nowS - since ≥ config.clearDwellS)] at enough
  obtain ⟨engaged, same⟩ := ongoing.after_eq
  have since : (after lib config updates).clearSinceS = clear.head?.map Update.nowS :=
    congrArg TargetBehaviorState.clearSinceS same
  have stepped : after lib config (updates ++ [next]) =
      step lib config (after lib config updates) next := after_append updates [next]
  refine ⟨?_, fun returns => ?_⟩
  · rw [stepped, step_of_clear met, TargetBehaviorState.clearOrNominal_of_active engaged, since,
      if_pos enough]
    rfl
  · rcases engaged with other | other | other <;> rw [other] at returns <;> cases returns

/-! ### The start of an encounter -/

/-- The role that is stored of an encounter. A machine that gives way stores just that. -/
def storedRole (lib : MathLibrary) (config : TargetBehaviorConfig) (earlier : List Update)
    (last : Update) (role : Role) : Role :=
  if (after lib config (earlier ++ [last])).state = .giveWay then .giveWay else role

variable {rule : Rule} {role : Role}

theorem engages_after (earlier : List Update) {last : Update}
    (met : found lib config last = some (rule, role)) :
    (after lib config earlier).Engages config last rule role
      (after lib config (earlier ++ [last])) := by
  have stepped : after lib config (earlier ++ [last]) =
      step lib config (after lib config earlier) last := after_append earlier [last]
  rw [stepped]
  exact engages_step _ met

theorem startAfter_isSome (fsm : TargetBehaviorState) (next : Update) (rule : Rule) (role : Role) :
    (fsm.startAfter next rule role).isSome = true := by
  unfold TargetBehaviorState.startAfter
  by_cases anew : fsm.BeginsAnew rule role
  · rw [if_pos anew]
    rfl
  · rw [if_neg anew]
    exact Option.isSome_iff_ne_none.mpr fun none => anew (.inl none)

section

variable (ongoing : Ongoing lib config updates earlier last clear)
include ongoing

/-- The interruption leaves the role stored. -/
theorem Ongoing.role_eq (met : found lib config last = some (rule, role)) :
    (after lib config updates).role = some (storedRole lib config earlier last role) := by
  rw [ongoing.after_eq.2]
  refine (engages_after earlier met).role.trans ?_
  unfold storedRole
  split_ifs <;> rfl

/-- An ongoing encounter begins anew exactly where it was interrupted and another rule is found
then, or a role other than the stored one. -/
theorem Ongoing.beginsAnew_iff {rule newRule : Rule} {role newRole : Role}
    (met : found lib config last = some (rule, role)) :
    (after lib config updates).BeginsAnew newRule newRole ↔
      clear ≠ [] ∧
        (rule ≠ newRule ∨ storedRole lib config earlier last role ≠ newRole) := by
  obtain ⟨active, same⟩ := ongoing.after_eq
  obtain ⟨-, start, -, storesRule, -⟩ := engages_after earlier met
  have started : (after lib config updates).encounterStartS ≠ none := by
    rw [same]
    refine Option.isSome_iff_ne_none.mp ?_
    rw [start]
    exact startAfter_isSome _ last rule role
  have keptRule : (after lib config updates).rule = some rule := by
    rw [same]
    exact storesRule
  have interrupted : (after lib config updates).clearSinceS.isSome = true ↔ clear ≠ [] := by
    rw [same]
    cases clear <;> simp
  unfold TargetBehaviorState.BeginsAnew TargetBehaviorState.Changed
  rw [interrupted, keptRule, ongoing.role_eq met, (Option.some_injective _).ne_iff,
    (Option.some_injective _).ne_iff]
  exact ⟨fun anew => (anew.resolve_left started).resolve_left fun idle => idle active,
    fun anew => .inr (.inr anew)⟩

theorem Ongoing.kept :
    (after lib config updates).encounterStartS =
      (after lib config (earlier ++ [last])).encounterStartS := by
  rw [ongoing.after_eq.2]

end

/-- When the encounter began that goes on with another update. -/
theorem Ongoing.encounterStartS_eq (ongoing : Ongoing lib config updates earlier last clear)
    {rule newRule : Rule} {role newRole : Role} (met : found lib config last = some (rule, role))
    {next : Update} (again : found lib config next = some (newRule, newRole)) :
    (after lib config (updates ++ [next])).encounterStartS =
      if clear ≠ [] ∧ (rule ≠ newRule ∨ storedRole lib config earlier last role ≠ newRole) then
        some next.nowS
      else (after lib config (earlier ++ [last])).encounterStartS := by
  rw [(engages_after _ again).start, TargetBehaviorState.startAfter, ongoing.kept]
  exact if_congr (ongoing.beginsAnew_iff met) rfl rfl

/-! ### Encounters that are forgotten -/

/-- An encounter that begins is waited for, if there is a delay at all. -/
theorem waits_of_anew (met : found lib config next = some (rule, role))
    (anew : fsm.BeginsAnew rule role) (finite : next.nowS.isFinite = true)
    (positive : 0.0 < config.reactionDelayS) :
    (step lib config fsm next).state = .monitoring ∧
      (step lib config fsm next).reason = "reaction_delay" := by
  have none : next.nowS - next.nowS ≤ 0.0 :=
    (Binary64.sub_roundedFrom finite finite).le (by decide) (by
      rw [sub_self, Binary64.toReal_zero])
  have waiting : ¬ next.nowS - next.nowS ≥ config.reactionDelayS := fun enough =>
    Binary64.not_le_of_lt positive (Binary64.chain_le enough none)
  unfold step update
  unfold found at met
  dsimp only
  rw [met]
  show (fsm.engage _ _ _ _ _ _).1.state = _ ∧ _
  unfold TargetBehaviorState.engage
  dsimp only
  rw [if_neg]
  · exact ⟨rfl, rfl⟩
  · rintro ⟨start, known, enough⟩
    rw [(TargetBehaviorState.prepared_start fsm next _ rule role).1,
      TargetBehaviorState.startAfter, if_pos anew] at known
    obtain rfl := Option.some.inj known
    exact waiting enough

/-- A head-on meeting in which the machine gives way is waited for again after any interruption,
though the same rule and role are found. -/
theorem Ongoing.head_on_waits_again (ongoing : Ongoing lib config updates earlier last clear)
    (met : found lib config last = some (.rule14, .bothGiveWay))
    (acted : (after lib config (earlier ++ [last])).state = .giveWay) (interrupted : clear ≠ [])
    {next : Update} (again : found lib config next = some (.rule14, .bothGiveWay))
    (finite : next.nowS.isFinite = true) (positive : 0.0 < config.reactionDelayS) :
    (after lib config (updates ++ [next])).encounterStartS = some next.nowS ∧
      (after lib config (updates ++ [next])).state = .monitoring ∧
      (after lib config (updates ++ [next])).reason = "reaction_delay" := by
  have stored : storedRole lib config earlier last .bothGiveWay ≠ .bothGiveWay := by
    rw [storedRole, if_pos acted]
    decide
  have stepped : after lib config (updates ++ [next]) =
      step lib config (after lib config updates) next := after_append updates [next]
  have anew : (after lib config updates).BeginsAnew .rule14 .bothGiveWay :=
    (ongoing.beginsAnew_iff met).mpr ⟨interrupted, .inr stored⟩
  refine ⟨?_, ?_⟩
  · rw [ongoing.encounterStartS_eq met again, if_pos ⟨interrupted, .inr stored⟩]
  · rw [stepped]
    exact waits_of_anew again anew finite positive

end Ongoing

/-! ### A head-on meeting -/

/-- The mathematics library on courses of 0 and 180 degrees at the equator. -/
def alongMeridian : MathLibrary where
  cos angle := if angle == 0.0 then 1.0 else -1.0
  sin angle := if angle == 0.0 then 0.0 else 1.2246467991473532e-16
  atan2 _ north := if north < 0.0 then 3.141592653589793 else 0.0
  hypot first second := Float.sqrt (first * first + second * second)
  fmod dividend _ :=
    if dividend < 360.0 then dividend
    else if dividend < 720.0 then dividend - 360.0
    else dividend - 720.0

/-- The ships meet on opposite courses, or have passed each other. -/
def meetingAt (nowS targetLat : Float) : Update where
  nowS
  own := ⟨0.0, 0.0, 0.0, 5.0⟩
  target := ⟨targetLat, 0.0, 180.0, 5.0⟩
  nominalHeadingDeg := 180.0

def withDelay : TargetBehaviorConfig := { reactionDelayS := 5.0 }

/-- A meeting that is acted on after the delay, and an update in which it seems to be over. -/
theorem ongoing_meeting : Ongoing alongMeridian withDelay
    [meetingAt 1.0 0.01, meetingAt 7.0 0.009, meetingAt 8.0 (-0.01)] [meetingAt 1.0 0.01]
    (meetingAt 7.0 0.009) [meetingAt 8.0 (-0.01)] where
  split := rfl
  met := by decide +kernel
  clears next member := by
    rw [List.mem_singleton.mp member]
    decide +kernel
  short first isFirst next member := by
    obtain rfl := Option.some.inj isFirst
    rw [List.mem_singleton.mp member]
    decide +kernel

theorem meeting_waits_again :
    (after alongMeridian withDelay ([meetingAt 1.0 0.01, meetingAt 7.0 0.009,
        meetingAt 8.0 (-0.01)] ++ [meetingAt 9.0 0.008])).encounterStartS = some 9.0 ∧
      (after alongMeridian withDelay ([meetingAt 1.0 0.01, meetingAt 7.0 0.009,
        meetingAt 8.0 (-0.01)] ++ [meetingAt 9.0 0.008])).state = .monitoring ∧
      (after alongMeridian withDelay ([meetingAt 1.0 0.01, meetingAt 7.0 0.009,
        meetingAt 8.0 (-0.01)] ++ [meetingAt 9.0 0.008])).reason = "reaction_delay" :=
  ongoing_meeting.head_on_waits_again (by decide +kernel) (by decide +kernel) (by decide)
    (by decide +kernel) (by decide +kernel) (by decide +kernel)

theorem meeting_start :
    (after alongMeridian withDelay ([meetingAt 1.0 0.01, meetingAt 7.0 0.009,
        meetingAt 8.0 (-0.01)] ++ [meetingAt 9.0 0.008])).encounterStartS =
      if [meetingAt 8.0 (-0.01)] ≠ [] ∧ (Rule.rule14 ≠ .rule14 ∨
          storedRole alongMeridian withDelay [meetingAt 1.0 0.01] (meetingAt 7.0 0.009)
            .bothGiveWay ≠ .bothGiveWay) then some 9.0
      else (after alongMeridian withDelay
        ([meetingAt 1.0 0.01] ++ [meetingAt 7.0 0.009])).encounterStartS :=
  ongoing_meeting.encounterStartS_eq (by decide +kernel) (by decide +kernel)

end MassL3.TargetVessel
