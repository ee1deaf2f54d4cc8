/-
This file translates the frozen-prefix count of a plan. The waypoints and the ship are brought
to a local frame, each waypoint gets its station along the polyline, the ship is projected onto
it, and the waypoints whose stations lie ahead of the ship and inside the guard distance are
counted. The count is then used as the length of a slice that begins at the first waypoint.

The two readings agree exactly when nothing has been overrun or nothing is in the window.
-/

import MassTdl.Binary64.Arithmetic
import MassTdl.CommittedRoute.Manager

namespace MassL3.M5.CommittedRoute

open Binary64

/-! ### Units and the mathematics library -/

def kPi : Float := 3.14159265358979323846

def kRadPerDeg : Float := kPi / 180.0

def kEarthRadiusMeanM : Float := 6371000.0

/-- `std::numeric_limits<double>::max()`. -/
def kDoubleMax : Float := 1.7976931348623157e308

def kMinFirstChangedDistanceM : Float := 100.0

/-- `std::cos` and `std::hypot`, whose last bits differ between platforms. A hypotenuse is not
negative on any of them. -/
structure MathLibrary where
  cos : Float → Float
  hypot : Float → Float → Float
  hypot_not_neg : ∀ first second, ¬ hypot first second < 0.0

/-- `std::clamp`. -/
def clampFloat (value low high : Float) : Float :=
  if value < low then low else if high < value then high else value

/-! ### Stations along the polyline -/

/-- A position in metres north and east of the ship. -/
structure NedPoint where
  north : Float
  east : Float

/-- The plan's waypoints in the local frame of the ship. -/
def nedPoints (lib : MathLibrary) (latDeg lonDeg : List Float) (ownLatDeg ownLonDeg : Float) :
    List NedPoint :=
  let cosLat := lib.cos (ownLatDeg * kRadPerDeg)
  (latDeg.zip lonDeg).map fun position =>
    { north := (position.1 - ownLatDeg) * kRadPerDeg * kEarthRadiusMeanM
      east := (position.2 - ownLonDeg) * kRadPerDeg * kEarthRadiusMeanM * cosLat }

variable (lib : MathLibrary)

def segmentLength (start stop : NedPoint) : Float :=
  lib.hypot (stop.north - start.north) (stop.east - start.east)

/-- The stations of a point and of those behind it, given the point's own. -/
def stationsFrom (station : Float) (point : NedPoint) : List NedPoint → List Float
  | [] => [station]
  | next :: rest =>
      station :: stationsFrom (station + segmentLength lib point next) next rest

/-- Every waypoint's station from the start of the polyline. -/
def stations : List NedPoint → List Float
  | [] => []
  | point :: rest => stationsFrom lib 0.0 point rest

/-! ### The ship's own station -/

/-- The segments of a polyline, numbered from zero. -/
def segments (points : List NedPoint) : List ((NedPoint × NedPoint) × Nat) :=
  (points.zip points.tail).zipIdx

/-- The lengths of the segments before the given one, added up. -/
def lengthBefore (points : List NedPoint) (leg : Nat) : Float :=
  ((points.zip points.tail).take leg).foldl
    (fun sum segment => sum + segmentLength lib segment.1 segment.2) 0.0

/-- The nearest segment that has the ship abeam, as far as it is found. -/
structure OnSegment where
  bestLeg : Nat := 0
  bestAlong : Float := 0.0
  bestCross : Float := kDoubleMax
  foundOn : Bool := false

def projectOnSegment (best : OnSegment) (start stop : NedPoint) (leg : Nat) : OnSegment :=
  let sx := stop.north - start.north
  let sy := stop.east - start.east
  let segLen := lib.hypot sx sy
  if segLen < 1.0 then best
  else
    let oxRel := -start.north
    let oyRel := -start.east
    let along := (oxRel * sx + oyRel * sy) / segLen
    let cross := ((sx * oyRel - sy * oxRel) / segLen).abs
    if along ≥ 0.0 ∧ along ≤ segLen ∧ cross < best.bestCross then
      { bestLeg := leg, bestAlong := along, bestCross := cross, foundOn := true }
    else best

/-- The nearest segment when the ship is abeam of none, with the foot clamped to its ends. -/
structure Clamped where
  leg : Nat := 0
  along : Float := 0.0
  rawAlong : Float := 0.0
  dist : Float := kDoubleMax

def projectClamped (best : Clamped) (start stop : NedPoint) (leg : Nat) : Clamped :=
  let sx := stop.north - start.north
  let sy := stop.east - start.east
  let segLen := lib.hypot sx sy
  if segLen < 1.0 then best
  else
    let oxRel := -start.north
    let oyRel := -start.east
    let rawAlong := (oxRel * sx + oyRel * sy) / segLen
    let along := clampFloat rawAlong 0.0 segLen
    let px := start.north + along / segLen * sx
    let py := start.east + along / segLen * sy
    let dist := lib.hypot px py
    if dist < best.dist then { leg := leg, along := along, rawAlong := rawAlong, dist := dist }
    else best

/-- The ship's station on a polyline of two or more points; none if every segment is shorter
than a metre. -/
def projectOwn (points : List NedPoint) : Option Float :=
  let onSegment := (segments points).foldl
    (fun best segment => projectOnSegment lib best segment.1.1 segment.1.2 segment.2) {}
  if onSegment.foundOn then
    some (lengthBefore lib points onSegment.bestLeg + onSegment.bestAlong)
  else
    let clamped := (segments points).foldl
      (fun best segment => projectClamped lib best segment.1.1 segment.1.2 segment.2) {}
    if clamped.dist == kDoubleMax then none
    -- a ship short of the route's start has a negative station
    else if clamped.leg = 0 ∧ clamped.rawAlong < 0.0 then some (-clamped.dist)
    else some (lengthBefore lib points clamped.leg + clamped.along)

/-- The ship's station, if it has one. The start of a single waypoint's polyline is as far
ahead as that waypoint. -/
def ownStation : List NedPoint → Option Float
  | [] => none
  | [point] => some (-lib.hypot point.north point.east)
  | points => projectOwn lib points

/-! ### The count -/

/-- The loop over the stations: waypoints in the window are counted, overrun ones are skipped,
and the first one beyond the window ends it. -/
def countInGuard (ownStationM guardAhead : Float) : List Float → Nat
  | [] => 0
  | station :: rest =>
      if station > ownStationM ∧ station ≤ guardAhead then
        countInGuard ownStationM guardAhead rest + 1
      else if station > guardAhead then 0
      else countInGuard ownStationM guardAhead rest

structure FrozenPrefixResult where
  frozenPrefixCount : Nat := 0
  ownStationM : Float := 0.0
  valid : Bool := false

/-- The count for given points: a single waypoint is frozen by its distance. -/
def frozenCount (points : List NedPoint) (ownStationM guardDistanceM : Float) : Nat :=
  match points with
  | [point] => if lib.hypot point.north point.east ≤ guardDistanceM then 1 else 0
  | points => countInGuard ownStationM (ownStationM + guardDistanceM) (stations lib points)

/-- `compute_frozen_prefix_count`. -/
def computeFrozenPrefixCount (latDeg lonDeg : List Float)
    (ownLatDeg ownLonDeg guardDistanceM : Float) : FrozenPrefixResult :=
  let points := nedPoints lib latDeg lonDeg ownLatDeg ownLonDeg
  match ownStation lib points with
  | none => {}
  | some ownStationM =>
      { frozenPrefixCount := frozenCount lib points ownStationM guardDistanceM
        ownStationM := ownStationM
        valid := true }

/-! ### Stations never decrease -/

/-- A station that is a number is at least those before it; behind a NaN there is no number. -/
def Nondecreasing (stations : List Float) : Prop :=
  stations.Pairwise fun earlier later => later.isNaN = false → earlier ≤ later

variable {lib}

theorem le_of_mem_stationsFrom {station later : Float} {point : NedPoint}
    {rest : List NedPoint} (member : later ∈ stationsFrom lib station point rest)
    (number : later.isNaN = false) : station ≤ later := by
  induction rest generalizing station point with
  | nil =>
    rw [stationsFrom, List.mem_singleton] at member
    rw [member] at number ⊢
    exact le_self_of_number number
  | cons next rest inductionHypothesis =>
    rw [stationsFrom, List.mem_cons] at member
    rcases member with rfl | member
    · exact le_self_of_number number
    · have fromNext := inductionHypothesis member
      exact chain_le (le_add_of_not_neg (number_of_le fromNext).1 (lib.hypot_not_neg _ _))
        fromNext

theorem stationsFrom_nondecreasing (station : Float) (point : NedPoint)
    (rest : List NedPoint) : Nondecreasing (stationsFrom lib station point rest) := by
  induction rest generalizing station point with
  | nil => exact List.pairwise_singleton _ _
  | cons next rest inductionHypothesis =>
    refine List.pairwise_cons.mpr ⟨fun later member number => ?_, inductionHypothesis _ next⟩
    have fromNext := le_of_mem_stationsFrom member number
    exact chain_le (le_add_of_not_neg (number_of_le fromNext).1 (lib.hypot_not_neg _ _))
      fromNext

theorem stations_nondecreasing (points : List NedPoint) :
    Nondecreasing (stations lib points) := by
  cases points with
  | nil => exact List.Pairwise.nil
  | cons point rest => exact stationsFrom_nondecreasing 0.0 point rest

/-! ### Counting the window -/

/-- The guard window: ahead of the ship, up to the guard distance. -/
def InGuard (ownStationM guardAhead station : Float) : Prop :=
  ownStationM < station ∧ station ≤ guardAhead

instance (ownStationM guardAhead station : Float) :
    Decidable (InGuard ownStationM guardAhead station) :=
  inferInstanceAs (Decidable (_ ∧ _))

variable {ownStationM guardAhead : Float}

theorem countInGuard_le (stations : List Float) :
    countInGuard ownStationM guardAhead stations ≤
      stations.countP (InGuard ownStationM guardAhead ·) := by
  induction stations with
  | nil => exact Nat.le_refl 0
  | cons station rest inductionHypothesis =>
    rw [countInGuard, List.countP_cons]
    by_cases inGuard : InGuard ownStationM guardAhead station
    · have taken : station > ownStationM ∧ station ≤ guardAhead := inGuard
      rw [if_pos taken, if_pos (decide_eq_true inGuard)]
      exact Nat.succ_le_succ inductionHypothesis
    · have skipped : ¬ (station > ownStationM ∧ station ≤ guardAhead) := inGuard
      rw [if_neg skipped]
      split
      · exact Nat.zero_le _
      · exact Nat.le_add_right_of_le inductionHypothesis

/-- With nothing overrun the window begins at the first waypoint, and the count reaches past
every waypoint in it. -/
theorem lt_countInGuard {stations : List Float} (nondecreasing : Nondecreasing stations)
    (ahead : ∀ station ∈ stations, ¬ station ≤ ownStationM) {index : Nat} {station : Float}
    (present : stations[index]? = some station)
    (inGuard : InGuard ownStationM guardAhead station) :
    index < countInGuard ownStationM guardAhead stations := by
  induction stations generalizing index with
  | nil => cases present
  | cons first rest inductionHypothesis =>
    obtain ⟨fromFirst, restNondecreasing⟩ := List.pairwise_cons.mp nondecreasing
    obtain ⟨stationNumber, _⟩ := number_of_le inGuard.2
    have firstLe : first ≤ station := by
      rcases List.mem_cons.mp (List.mem_of_getElem? present) with rfl | member
      · exact le_self_of_number stationNumber
      · exact fromFirst station member stationNumber
    have firstInGuard : first > ownStationM ∧ first ≤ guardAhead := by
      obtain ⟨ownNumber, _⟩ := (lt_iff _ _).mp inGuard.1
      exact ⟨lt_of_number_of_not_le ownNumber (number_of_le firstLe).1
        (ahead first List.mem_cons_self), chain_le firstLe inGuard.2⟩
    rw [countInGuard, if_pos firstInGuard]
    cases index with
    | zero => exact Nat.succ_pos _
    | succ index =>
      exact Nat.succ_lt_succ (inductionHypothesis restNondecreasing
        (fun later member => ahead later (List.mem_cons_of_mem first member)) present)

/-- Some element of the kind stands at or past the number of elements of the kind, less one. -/
theorem exists_countP_le {Element : Type} (kind : Element → Bool) {elements : List Element}
    (some_kind : ∃ element ∈ elements, kind element = true) :
    ∃ index element, elements[index]? = some element ∧ kind element = true ∧
      elements.countP kind ≤ index + 1 := by
  induction elements with
  | nil =>
    obtain ⟨_, member, _⟩ := some_kind
    cases member
  | cons first rest inductionHypothesis =>
    rw [List.countP_cons]
    by_cases later : ∃ element ∈ rest, kind element = true
    · obtain ⟨index, element, present, isKind, bound⟩ := inductionHypothesis later
      refine ⟨index + 1, element, present, isKind, ?_⟩
      split
      · exact Nat.succ_le_succ bound
      · exact Nat.le_succ_of_le bound
    · obtain ⟨element, member, isKind⟩ := some_kind
      have isFirst : element = first :=
        (List.mem_cons.mp member).resolve_right fun inRest => later ⟨element, inRest, isKind⟩
      have none_left : rest.countP kind = 0 :=
        List.countP_eq_zero.mpr fun other inRest isKind => later ⟨other, inRest, isKind⟩
      refine ⟨0, first, rfl, isFirst ▸ isKind, ?_⟩
      rw [none_left]
      split <;> decide

/-- Once a waypoint is overrun the first one is, and then the count is too short for the last
waypoint of the window. -/
theorem exists_countInGuard_le {stations : List Float} (nondecreasing : Nondecreasing stations)
    (overrun : ∃ station ∈ stations, station ≤ ownStationM)
    (occupied : ∃ station ∈ stations, InGuard ownStationM guardAhead station) :
    ∃ index station, stations[index]? = some station ∧
      InGuard ownStationM guardAhead station ∧
      countInGuard ownStationM guardAhead stations ≤ index := by
  obtain ⟨station, member, passed⟩ := overrun
  cases stations with
  | nil => cases member
  | cons first rest =>
    obtain ⟨fromFirst, _⟩ := List.pairwise_cons.mp nondecreasing
    have firstPassed : first ≤ ownStationM := by
      rcases List.mem_cons.mp member with rfl | inRest
      · exact passed
      · exact chain_le (fromFirst station inRest (number_of_le passed).1) passed
    have firstNot : ¬ InGuard ownStationM guardAhead first :=
      fun inGuard => not_le_of_lt inGuard.1 firstPassed
    have inRest : ∃ element ∈ rest, decide (InGuard ownStationM guardAhead element) = true := by
      obtain ⟨element, inStations, inGuard⟩ := occupied
      rcases List.mem_cons.mp inStations with rfl | inRest
      · exact absurd inGuard firstNot
      · exact ⟨element, inRest, decide_eq_true inGuard⟩
    obtain ⟨index, element, present, inGuard, bound⟩ := exists_countP_le _ inRest
    refine ⟨index + 1, element, present, of_decide_eq_true inGuard, ?_⟩
    refine (countInGuard_le _).trans ?_
    rw [List.countP_cons, if_neg (by rwa [decide_eq_true_iff])]
    exact bound

/-! ### Covering the window -/

variable (lib)

/-- The station `compute_frozen_prefix_count` reports: zero where the ship has none. -/
def reportedStation (points : List NedPoint) : Float := (ownStation lib points).getD 0.0

/-- Every waypoint in the guard window lies in the slice of the given length. -/
def CoversGuard (points : List NedPoint) (guardDistanceM : Float) (count : Nat) : Prop :=
  ∀ index station, (stations lib points)[index]? = some station →
    InGuard (reportedStation lib points) (reportedStation lib points + guardDistanceM) station →
    index < count

/-- The ship has no waypoint behind it, or none in the guard window. -/
def NothingOverrunOrAhead (points : List NedPoint) (guardDistanceM : Float) : Prop :=
  (∀ station ∈ stations lib points, ¬ station ≤ reportedStation lib points) ∨
    ∀ station ∈ stations lib points,
      ¬ InGuard (reportedStation lib points) (reportedStation lib points + guardDistanceM) station

variable {lib}

/-- The loop's count covers the window exactly when nothing is overrun or nothing is in it. -/
theorem coversGuard_count_iff (points : List NedPoint) (guardDistanceM : Float) {count : Nat}
    (counted : count = countInGuard (reportedStation lib points)
      (reportedStation lib points + guardDistanceM) (stations lib points)) :
    CoversGuard lib points guardDistanceM count ↔
      NothingOverrunOrAhead lib points guardDistanceM := by
  subst counted
  constructor
  · intro covers
    by_contra neither
    obtain ⟨overrun, occupied⟩ := not_or.mp neither
    push Not at overrun occupied
    obtain ⟨index, station, present, inGuard, bound⟩ :=
      exists_countInGuard_le (stations_nondecreasing points) overrun occupied
    exact absurd (covers index station present inGuard) (Nat.not_lt.mpr bound)
  · rintro (ahead | empty) index station present inGuard
    · exact lt_countInGuard (stations_nondecreasing points) ahead present inGuard
    · exact absurd inGuard (empty station (List.mem_of_getElem? present))

/-- A single waypoint in the window is frozen, so its window is always covered. -/
theorem coversGuard_single (point : NedPoint) (guardDistanceM : Float) :
    CoversGuard lib [point] guardDistanceM
      (frozenCount lib [point] (reportedStation lib [point]) guardDistanceM) := by
  rintro index station present ⟨_, within⟩
  cases index with
  | zero =>
    have isZero : station = 0.0 := (Option.some.inj present).symm
    have near : lib.hypot point.north point.east ≤ guardDistanceM := by
      rw [isZero] at within
      exact le_of_nonneg_neg_add within
    rw [frozenCount, if_pos near]
    exact Nat.one_pos
  | succ index => cases present

/-- A single waypoint is overrun only where the window is empty. -/
theorem nothingOverrunOrAhead_single (point : NedPoint) (guardDistanceM : Float) :
    NothingOverrunOrAhead lib [point] guardDistanceM := by
  by_cases overrun : (0.0 : Float) ≤ reportedStation lib [point]
  · refine .inr fun station member inGuard => ?_
    rw [List.eq_of_mem_singleton member] at inGuard
    exact not_le_of_lt inGuard.1 overrun
  · refine .inl fun station member passed => ?_
    rw [List.eq_of_mem_singleton member] at passed
    exact overrun passed

/-- Where the ship has no station nothing is counted, and the first waypoint's own station is
the one reported. -/
theorem coversGuard_none_iff (point next : NedPoint) (rest : List NedPoint)
    (guardDistanceM : Float) (none : ownStation lib (point :: next :: rest) = none) :
    CoversGuard lib (point :: next :: rest) guardDistanceM 0 ↔
      NothingOverrunOrAhead lib (point :: next :: rest) guardDistanceM := by
  have zero : reportedStation lib (point :: next :: rest) = 0.0 := by
    rw [reportedStation, none, Option.getD_none]
  constructor
  · intro covers
    refine .inr fun station member inGuard => ?_
    obtain ⟨index, present⟩ := List.mem_iff_getElem?.mp member
    exact Nat.not_lt_zero _ (covers index station present inGuard)
  · rintro (ahead | empty) index station present inGuard
    · refine absurd ?_ (ahead 0.0 List.mem_cons_self)
      rw [zero]
      exact le_self_of_number (by decide)
    · exact absurd inGuard (empty station (List.mem_of_getElem? present))

/-- The count the points get covers the window exactly when nothing is overrun or nothing is
in it. -/
theorem coversGuard_iff (points : List NedPoint) (guardDistanceM : Float) :
    CoversGuard lib points guardDistanceM
        (((ownStation lib points).map (frozenCount lib points · guardDistanceM)).getD 0) ↔
      NothingOverrunOrAhead lib points guardDistanceM := by
  match points with
  | [] => exact coversGuard_count_iff [] guardDistanceM rfl
  | [point] =>
    exact iff_of_true (coversGuard_single point guardDistanceM)
      (nothingOverrunOrAhead_single point guardDistanceM)
  | point :: next :: rest =>
    cases own : ownStation lib (point :: next :: rest) with
    | none => exact coversGuard_none_iff point next rest guardDistanceM own
    | some ownStationM =>
      refine coversGuard_count_iff (point :: next :: rest) guardDistanceM ?_
      rw [reportedStation, own]
      rfl

variable (lib)

theorem computeFrozenPrefixCount_eq (latDeg lonDeg : List Float)
    (ownLatDeg ownLonDeg guardDistanceM : Float) :
    (computeFrozenPrefixCount lib latDeg lonDeg ownLatDeg ownLonDeg
        guardDistanceM).frozenPrefixCount =
      ((ownStation lib (nedPoints lib latDeg lonDeg ownLatDeg ownLonDeg)).map
        (frozenCount lib (nedPoints lib latDeg lonDeg ownLatDeg ownLonDeg) ·
          guardDistanceM)).getD 0 := by
  unfold computeFrozenPrefixCount
  dsimp only
  split
  · next none =>
    rw [none]
    rfl
  · next own =>
    rw [own]
    rfl

/-- The station that opens the window is the one the function returns. -/
theorem computeFrozenPrefixCount_ownStationM (latDeg lonDeg : List Float)
    (ownLatDeg ownLonDeg guardDistanceM : Float) :
    (computeFrozenPrefixCount lib latDeg lonDeg ownLatDeg ownLonDeg guardDistanceM).ownStationM =
      reportedStation lib (nedPoints lib latDeg lonDeg ownLatDeg ownLonDeg) := by
  unfold computeFrozenPrefixCount reportedStation
  dsimp only
  split
  · next none =>
    rw [none]
    rfl
  · next own =>
    rw [own]
    rfl

end MassL3.M5.CommittedRoute
