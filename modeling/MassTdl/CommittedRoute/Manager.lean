/-
This file translates the committed-route manager: the waypoint comparison and the geometry
hash, the gates a candidate has to pass, and every operation that writes the manager. Each
operation returns the manager it leaves behind, and its Boolean answer where the code gives
one.

`Operation` and `step` at the end close the list: whatever happens to a manager is a
sequence of these.
-/

import MassTdl.CommittedRoute.Types

namespace MassL3.M5.CommittedRoute

/-! ### Geometry hash -/

/-- `fnv1a_update`: one FNV-1a round for each byte. -/
def fnv1aUpdate (hash : UInt32) (bytes : List UInt8) : UInt32 :=
  bytes.foldl (fun hash byte => (hash ^^^ byte.toUInt32) * 16777619) hash

/-- The bytes `memcpy` reads from a `double` on the little-endian target. -/
def doubleBytes (value : Float) : List UInt8 :=
  (List.range 8).map fun index => (value.toBits >>> (8 * index).toUInt64).toUInt8

def fnv1aUpdateDouble (hash : UInt32) (value : Float) : UInt32 :=
  fnv1aUpdate hash (doubleBytes value)

/-- The string's bytes and a closing NUL. -/
def fnv1aUpdateString (hash : UInt32) (value : String) : UInt32 :=
  fnv1aUpdate (fnv1aUpdate hash value.toUTF8.toList) [0]

def hashWaypoint (hash : UInt32) (waypoint : GeoWP) : UInt32 :=
  fnv1aUpdateString
    (fnv1aUpdateDouble
      (fnv1aUpdateDouble (fnv1aUpdateDouble hash waypoint.latDeg) waypoint.lonDeg)
      waypoint.speedMps)
    waypoint.navMode

def hashGeometry (geometry : List GeoWP) : UInt32 :=
  geometry.foldl hashWaypoint 2166136261

/-! ### Gates on a candidate -/

def kLatLonTolDeg : Float := 1e-7

def kSpeedTolMps : Float := 0.01

/-- `same_waypoint`: positions and speeds up to the freeze tolerance, the mode exactly. -/
def sameWaypoint (lhs rhs : GeoWP) : Bool :=
  decide ((lhs.latDeg - rhs.latDeg).abs < kLatLonTolDeg) &&
    decide ((lhs.lonDeg - rhs.lonDeg).abs < kLatLonTolDeg) &&
    decide ((lhs.speedMps - rhs.speedMps).abs < kSpeedTolMps) &&
    lhs.navMode == rhs.navMode

def validNavMode (navMode : String) : Bool :=
  navMode == "MID_MPC_OPTIMIZED" || navMode == "MID_MPC_TERMINAL_HOLD" ||
    navMode == "REJOIN_TO_L2" || navMode == "L2_NOMINAL_SUFFIX" ||
    navMode == "DEGRADED_CORRIDOR"

/-- The check `preflight_candidate` makes of every waypoint. -/
def preflightWaypoint (waypoint : GeoWP) : Bool :=
  waypoint.latDeg.isFinite && waypoint.lonDeg.isFinite && waypoint.speedMps.isFinite &&
    validNavMode waypoint.navMode

def preflightCandidate (candidate : CommittedRouteCandidate) : Bool :=
  !candidate.geometry.isEmpty && candidate.validUntilS.isFinite &&
    candidate.geometry.all preflightWaypoint

/-- `preserves_committed_prefix`: the geometry is long enough and starts with the frozen
waypoints. -/
def preservesCommittedPrefix (committedPrefix geometry : List GeoWP) : Bool :=
  decide (committedPrefix.length ≤ geometry.length) &&
    (geometry.zip committedPrefix).all fun pair => sameWaypoint pair.1 pair.2

/-- `risk_trigger_event`: a candidate is refused only when the range is below the hard floor,
the target is already opening and even the achieved terminal CPA stays below the floor. The
empty string means no event. -/
def riskTriggerEvent (candidate : CommittedRouteCandidate) : String :=
  if !decide (candidate.currentCpaM < candidate.cpaHardM) then ""
  else if !candidate.targetOpening then ""
  else if candidate.terminalCpaM < candidate.cpaHardM then
    "terminal_cpa_below_hard_floor_on_release"
  else ""

namespace CommittedAvoidanceRoute

/-! ### Revising the committed route -/

def rejectKeepLast (route : CommittedAvoidanceRoute) (event : String) :
    CommittedAvoidanceRoute :=
  if route.current.state = .degradedHold then route else route.settle .keepLast event

def enterDegradedHold (route : CommittedAvoidanceRoute) (event : String) :
    CommittedAvoidanceRoute :=
  route.settle .degradedHold event

/-- The branch both escalation sites take at three failures: follow BC-MPC if it has taken
over, otherwise hold degraded. -/
def escalate (route : CommittedAvoidanceRoute) : CommittedAvoidanceRoute :=
  if route.bcMpcTakeoverRequested then route.settle .bcMpcFollow "bc_mpc_takeover_active"
  else route.enterDegradedHold "nlp_consecutive_failures_ge_3_no_bcmpc"

/-- The part of `try_revise` behind its last gate. The prefix is cut anew on every accepted
revision, the geometry only when its hash changed. -/
def commitCandidate (route : CommittedAvoidanceRoute) (candidate : CommittedRouteCandidate)
    (nowS : Float) : CommittedAvoidanceRoute :=
  let newHash := hashGeometry candidate.geometry
  let firstCommit := route.current.activeGeometry.isEmpty
  let geometryChanged := firstCommit || newHash != route.current.routeHash
  let activeGeometry :=
    if geometryChanged then candidate.geometry else route.current.activeGeometry
  let requestedPrefixCount := min candidate.frozenPrefixCount activeGeometry.length
  { route with
    consecutiveNlpFailures := 0
    targetHeadingTrigger := false
    cpaDriftTrigger := false
    cpaHardTrigger := false
    bcMpcTakeoverRequested := false
    current :=
      { planId := candidate.planId
        validUntilS := candidate.validUntilS
        staleCommittedAtS := nowS
        state := .committed
        safetyConcernEvent := ""
        activeGeometry := activeGeometry
        routeHash := if geometryChanged then newHash else route.current.routeHash
        revision :=
          if geometryChanged then route.current.revision + 1 else route.current.revision
        committedPrefix := activeGeometry.take requestedPrefixCount } }

/-- The lambda `preserve_degraded_hold` with the statement it guards: a route that was held
degraded when `try_revise` began goes back there with its old reason, any other route takes
`otherwise`. -/
def preserveDegradedHoldOr (route : CommittedAvoidanceRoute) (wasDegradedHold : Bool)
    (originalSafetyConcernEvent : String)
    (otherwise : CommittedAvoidanceRoute → CommittedAvoidanceRoute) :
    CommittedAvoidanceRoute :=
  if wasDegradedHold then route.settle .degradedHold originalSafetyConcernEvent
  else otherwise route

/-- `try_revise`. -/
def tryRevise (route : CommittedAvoidanceRoute) (candidate : CommittedRouteCandidate)
    (nowS : Float) (solverConsecutiveFailures : UInt32) : CommittedAvoidanceRoute × Bool :=
  let route := route.withSolverFailures solverConsecutiveFailures
  if route.current.state = .handoverNeutral ∨ route.current.state = .finalDegrade then
    (route, false)
  else
    let wasDegradedHold := route.current.state == .degradedHold
    let originalEvent := route.current.safetyConcernEvent
    let route := route.settle .candidateEvaluating originalEvent
    let riskEvent := riskTriggerEvent candidate
    if riskEvent ≠ "" then
      let failures :=
        if candidate.nlpOk then route.consecutiveNlpFailures
        else route.consecutiveNlpFailures + 1
      let route := route.withNlpFailures failures
      (route.preserveDegradedHoldOr wasDegradedHold originalEvent
        (·.enterDegradedHold riskEvent), false)
    else if !candidate.nlpOk && !wasDegradedHold then
      let route := route.withNlpFailures (route.consecutiveNlpFailures + 1)
      if 3 ≤ max route.consecutiveNlpFailures solverConsecutiveFailures then
        (route.escalate, false)
      else
        (route.settle .keepLast originalEvent, false)
    else
      -- a degraded hold lets a failed candidate through to the last two gates, its failure
      -- count cleared
      let failures := if candidate.nlpOk then route.consecutiveNlpFailures else 0
      let route := route.withNlpFailures failures
      if !preflightCandidate candidate then
        (route.preserveDegradedHoldOr wasDegradedHold originalEvent
          (·.rejectKeepLast "candidate_preflight_failed"), false)
      else if !preservesCommittedPrefix route.current.committedPrefix candidate.geometry then
        (route.preserveDegradedHoldOr wasDegradedHold originalEvent
          (·.rejectKeepLast "frozen_prefix_conflict"), false)
      else
        (route.commitCandidate candidate nowS, true)

/-! ### Heartbeats and staleness -/

/-- `heartbeat`. -/
def heartbeat (route : CommittedAvoidanceRoute) (planId : String) (validUntilS nowS : Float) :
    CommittedAvoidanceRoute × Bool :=
  if route.current.activeGeometry.isEmpty ∨ route.current.state = .degradedHold then
    (route, false)
  else
    ({ route with
        current :=
          { route.current with
            planId := planId
            validUntilS := validUntilS
            staleCommittedAtS := nowS
            state := .committed
            safetyConcernEvent := "" } }, true)

/-- `should_enter_degraded_hold`. -/
def shouldEnterDegradedHold (route : CommittedAvoidanceRoute) (nowS : Float) :
    CommittedAvoidanceRoute × Bool :=
  if route.current.activeGeometry.isEmpty then (route, false)
  else if route.current.state = .degradedHold then (route, true)
  else if route.current.state = .bcMpcFollow then (route, false)
  else if route.current.state = .handoverNeutral then (route, false)
  else if route.current.state = .finalDegrade then (route, false)
  else if nowS - route.current.staleCommittedAtS > route.staleRouteMaxAgeS then
    (route.enterDegradedHold "committed_route_stale_gt_45s", true)
  else if 3 ≤ max route.consecutiveNlpFailures route.lastSolverConsecutiveFailures then
    (route.escalate, true)
  else if route.targetHeadingTrigger then
    (route.enterDegradedHold "target_heading_change_gt_15deg", true)
  else if route.cpaDriftTrigger then (route.enterDegradedHold "cpa_drift_gt_20pct", true)
  else if route.cpaHardTrigger then
    (route.enterDegradedHold "current_cpa_below_hard_floor", true)
  else (route, false)

/-! ### BC-MPC take-over, hand-over and final degrade -/

def markBcMpcTakeover (route : CommittedAvoidanceRoute) : CommittedAvoidanceRoute :=
  { route with bcMpcTakeoverRequested := true }

def notifySolverConsecutiveFailures (route : CommittedAvoidanceRoute) (failures : UInt32) :
    CommittedAvoidanceRoute :=
  route.withSolverFailures failures

/-- `notify_bc_mpc_health`; `override_active` is ignored there too. -/
def notifyBcMpcHealth (route : CommittedAvoidanceRoute) (overrideNoImproveCount : UInt32)
    (worstCaseCpaM : Float) (_overrideActive : Bool) : CommittedAvoidanceRoute :=
  { route with
    bcOverrideNoImproveCount := overrideNoImproveCount
    bcLastWorstCaseCpaM := worstCaseCpaM
    bcHealthReceived := true }

/-- Mid-MPC converged and BC-MPC predicts a safe CPA. -/
def dualConditionMet (route : CommittedAvoidanceRoute) (midConverged : Bool)
    (bcPredictedCpaM : Float) : Bool :=
  midConverged && decide (bcPredictedCpaM ≥ route.cpaSafeM)

/-- The hysteresis step of `notify_handover_inputs`, taken in `BcMpcFollow`. -/
def handoverHysteresis (route : CommittedAvoidanceRoute) (dualCondition : Bool) :
    CommittedAvoidanceRoute :=
  if dualCondition then
    let route := { route with handoverHysteresisCount := route.handoverHysteresisCount + 1 }
    if route.handoverHysteresisCount ≥ handoverHysteresisThreshold then
      route.settle .handoverNeutral "bc_handover_neutral"
    else route
  else if route.handoverHysteresisCount > 0 then { route with handoverHysteresisCount := 0 }
  else route

/-- The last step of `notify_handover_inputs`: consecutive cycles without convergence. -/
def trackMidUnrecovered (route : CommittedAvoidanceRoute) (midConverged : Bool) :
    CommittedAvoidanceRoute :=
  { route with
    midUnrecoveredCount := if midConverged then 0 else route.midUnrecoveredCount + 1
    lastMidConverged := midConverged }

/-- `notify_handover_inputs`. A call in `HandoverNeutral` is consumed by the audit of that
state. -/
def notifyHandoverInputs (route : CommittedAvoidanceRoute) (midConverged : Bool)
    (bcPredictedCpaM : Float) : CommittedAvoidanceRoute :=
  let dualCondition := route.dualConditionMet midConverged bcPredictedCpaM
  if route.current.state = .handoverNeutral then
    if dualCondition then
      { route.settle .committed "" with bcMpcTakeoverRequested := false }
    else
      { route.settle .bcMpcFollow "bc_mpc_takeover_active" with handoverHysteresisCount := 0 }
  else
    let route :=
      if route.current.state = .bcMpcFollow then route.handoverHysteresis dualCondition
      else route
    route.trackMidUnrecovered midConverged

def shouldEnterFinalDegrade (route : CommittedAvoidanceRoute) : Bool :=
  if route.current.state ≠ .bcMpcFollow then false
  else
    decide (route.bcOverrideNoImproveCount ≥ route.bcFinalDegradeThreshold) &&
      decide (route.midUnrecoveredCount ≥ route.midUnrecoveredThreshold)

def enterFinalDegrade (route : CommittedAvoidanceRoute) : CommittedAvoidanceRoute :=
  route.settle .finalDegrade "bc_final_degrade"

end CommittedAvoidanceRoute

/-! ### Operations -/

/-- A call of one of the manager's non-`const` member functions. -/
inductive Operation where
  | tryRevise (candidate : CommittedRouteCandidate) (nowS : Float)
      (solverConsecutiveFailures : UInt32)
  | heartbeat (planId : String) (validUntilS nowS : Float)
  | shouldEnterDegradedHold (nowS : Float)
  | markBcMpcTakeover
  | notifySolverConsecutiveFailures (failures : UInt32)
  | notifyBcMpcHealth (overrideNoImproveCount : UInt32) (worstCaseCpaM : Float)
      (overrideActive : Bool)
  | notifyHandoverInputs (midConverged : Bool) (bcPredictedCpaM : Float)
  | enterFinalDegrade

/-- The manager after one operation. -/
def step (route : CommittedAvoidanceRoute) : Operation → CommittedAvoidanceRoute
  | .tryRevise candidate nowS failures => (route.tryRevise candidate nowS failures).1
  | .heartbeat planId validUntilS nowS => (route.heartbeat planId validUntilS nowS).1
  | .shouldEnterDegradedHold nowS => (route.shouldEnterDegradedHold nowS).1
  | .markBcMpcTakeover => route.markBcMpcTakeover
  | .notifySolverConsecutiveFailures failures =>
      route.notifySolverConsecutiveFailures failures
  | .notifyBcMpcHealth count worstCaseCpaM overrideActive =>
      route.notifyBcMpcHealth count worstCaseCpaM overrideActive
  | .notifyHandoverInputs midConverged bcPredictedCpaM =>
      route.notifyHandoverInputs midConverged bcPredictedCpaM
  | .enterFinalDegrade => route.enterFinalDegrade

end MassL3.M5.CommittedRoute
