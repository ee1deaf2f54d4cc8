/-
This file embeds the interval programming solver: utility functions made of pieces, the grid
of headings and speeds, the search for the best utility over the feasible cells, and the
interval collected from the cells close to it. The clock is read before each cell; whether the
time is up by then is given by `expired`.
-/

import MassTdl.Arbiter.Risk
import MassTdl.Binary64.Extrema
import Mathlib.Data.List.ProdSigma

namespace MassL3.M4

open Binary64 (runningMin runningMax)
open MassL3.M6.Colregs (doubleMax)
open MassL3.Risk

/-! ### Utility functions -/

inductive M4ErrorCode where
  | ok
  | yamlInvalidValue
  deriving DecidableEq, Repr

structure Piece where
  headingMinDeg : Float
  headingMaxDeg : Float
  speedMinKn : Float
  speedMaxKn : Float
  utility : Float

def kEps : Float := 1.0e-9

/-- The checks of one piece. -/
def Piece.isValid (piece : Piece) : Bool :=
  let span :=
    if piece.headingMaxDeg > piece.headingMinDeg then piece.headingMaxDeg - piece.headingMinDeg
    else piece.headingMaxDeg + 360.0 - piece.headingMinDeg
  !(piece.headingMinDeg < 0.0 || piece.headingMinDeg > 360.0 ||
    piece.headingMaxDeg < 0.0 || piece.headingMaxDeg > 360.0 ||
    piece.headingMinDeg == piece.headingMaxDeg) &&
  !(span ≥ 360.0 - 1.0e-9) &&
  !(piece.speedMinKn ≥ piece.speedMaxKn) &&
  !(piece.utility < 0.0 || piece.utility > 1.0)

/-- The greatest number of pieces. -/
def maxPieces : Nat := 32

def acceptsPieces (pieces : List Piece) : Bool :=
  !(pieces.isEmpty || pieces.length > maxPieces) && pieces.all (·.isValid)

theorem noPieces_valid : ([] : List Piece) = [] ∨ acceptsPieces [] = true := .inl rfl

/-- A function holds no piece, or pieces that passed the checks. -/
structure IvPFunction where
  pieces : List Piece := []
  valid : pieces = [] ∨ acceptsPieces pieces = true := by exact noPieces_valid

/-- Refused pieces leave the function as it is. -/
def IvPFunction.setPieces (function : IvPFunction) (pieces : List Piece) :
    IvPFunction × M4ErrorCode :=
  if accepted : acceptsPieces pieces = true then ({ pieces, valid := .inr accepted }, .ok)
  else (function, .yamlInvalidValue)

def wrapHeading (lib : MathLibrary) (psiDeg : Float) : Float :=
  let wrapped := lib.fmod psiDeg 360.0
  if wrapped < 0.0 then wrapped + 360.0 else wrapped

/-- A piece whose lower heading exceeds its upper one contains north. -/
def Piece.containsHeading (piece : Piece) (psiWrapped : Float) : Bool :=
  if piece.headingMinDeg ≤ piece.headingMaxDeg + kEps then
    psiWrapped ≥ piece.headingMinDeg - kEps && psiWrapped ≤ piece.headingMaxDeg + kEps
  else psiWrapped ≥ piece.headingMinDeg - kEps || psiWrapped ≤ piece.headingMaxDeg + kEps

/-- The utility of the first piece that contains the point. -/
def IvPFunction.evaluate (lib : MathLibrary) (function : IvPFunction) (psiDeg uKn : Float) :
    Float :=
  let psiWrapped := wrapHeading lib psiDeg
  match function.pieces.find? fun piece =>
      piece.containsHeading psiWrapped && uKn ≥ piece.speedMinKn && uKn ≤ piece.speedMaxKn with
  | some piece => piece.utility
  | none => 0.0

structure WeightedFunction where
  weight : Float
  function : IvPFunction

/-- `WeightedSumCombination::combine`. -/
def weightedSumCombination (lib : MathLibrary) (psiDeg uKn : Float)
    (functions : List WeightedFunction) : Float :=
  functions.foldl (fun result weighted =>
    result + weighted.weight * weighted.function.evaluate lib psiDeg uKn) 0.0

/-! ### The grid -/

structure IvPHeadingDomain where
  resolutionDeg : Float
  positive : ¬ resolutionDeg ≤ 0.0

def IvPHeadingDomain.size (domain : IvPHeadingDomain) : Nat :=
  (360.0 / domain.resolutionDeg).toUInt64.toNat

def IvPHeadingDomain.atIndex (domain : IvPHeadingDomain) (i : Fin domain.size) : Float :=
  (UInt64.ofNat i).toFloat * domain.resolutionDeg

def IvPHeadingDomain.headings (domain : IvPHeadingDomain) : List Float :=
  List.ofFn domain.atIndex

/-- The size is cast from the quotient, and no size can be cast from NaN. -/
structure IvPSpeedDomain where
  minKn : Float
  maxKn : Float
  resolutionKn : Float
  positive : ¬ resolutionKn ≤ 0.0
  ordered : ¬ maxKn ≤ minKn
  castable : ((maxKn - minKn) / resolutionKn).isNaN = false

def IvPSpeedDomain.size (domain : IvPSpeedDomain) : Nat :=
  (((domain.maxKn - domain.minKn) / domain.resolutionKn).toUInt64 + 1).toNat

def IvPSpeedDomain.atIndex (domain : IvPSpeedDomain) (i : Fin domain.size) : Float :=
  domain.minKn + (UInt64.ofNat i).toFloat * domain.resolutionKn

def IvPSpeedDomain.speeds (domain : IvPSpeedDomain) : List Float := List.ofFn domain.atIndex

/-! ### The solver -/

structure IvPHardConstraints where
  headingAllowedRangesDeg : List (Float × Float) := []
  speedMinKn : Float
  speedMaxKn : Float

/-- The targets that the first level drops are read by no search. -/
def IvPHardConstraints.relax (constraints : IvPHardConstraints) (level : Nat) :
    IvPHardConstraints :=
  if level = 2 ∨ level = 3 then { constraints with headingAllowedRangesDeg := [] }
  else constraints

structure IvPSolution where
  headingMinDeg : Float
  headingMaxDeg : Float
  speedMinKn : Float
  speedMaxKn : Float
  optimalityMargin : Float
  relaxLevel : Nat := 0

structure IvPSolver where
  headingDomain : IvPHeadingDomain
  speedDomain : IvPSpeedDomain
  combine : Float → Float → List WeightedFunction → Float

def kTopFeasibleFraction : Float := 0.9

def isHeadingFeasible (psiDeg : Float) (allowedRanges : List (Float × Float)) : Bool :=
  allowedRanges.isEmpty || allowedRanges.any fun range => psiDeg ≥ range.1 && psiDeg ≤ range.2

namespace IvPSolver

variable (solver : IvPSolver) (functions : List WeightedFunction)
  (constraints : IvPHardConstraints)

def isCellFeasible (psiDeg uKn : Float) : Bool :=
  isHeadingFeasible psiDeg constraints.headingAllowedRangesDeg &&
    !(uKn < constraints.speedMinKn || uKn > constraints.speedMaxKn)

/-- The cells both passes visit, in their order. -/
def feasibleCells : List (Float × Float) :=
  (solver.headingDomain.headings ×ˢ solver.speedDomain.speeds).filter fun cell =>
    isCellFeasible constraints cell.1 cell.2

def utility (cell : Float × Float) : Float := solver.combine cell.1 cell.2 functions

/-- The best of the utilities that are left; when the time is up there is none. -/
def searchBest (expired : Nat → Bool) (evaluated : Nat) (best : Float) : List Float → Float
  | [] => best
  | util :: later =>
      if expired evaluated then -1.0
      else searchBest expired (evaluated + 1) (if util > best then util else best) later

def findBestUtility (expired : Nat → Bool) : Float :=
  searchBest expired 0 (-1.0)
    ((solver.feasibleCells constraints).map (solver.utility functions))

/-- The cells whose utility reaches the threshold. -/
def nearOptimalCells (bestUtility : Float) : List (Float × Float) :=
  (solver.feasibleCells constraints).filter fun cell =>
    solver.utility functions cell ≥ kTopFeasibleFraction * bestUtility

def collectInterval (bestUtility : Float) : IvPSolution :=
  let cells := solver.nearOptimalCells functions constraints bestUtility
  { headingMinDeg := runningMin doubleMax (cells.map Prod.fst)
    headingMaxDeg := runningMax (-1.0) (cells.map Prod.fst)
    speedMinKn := runningMin doubleMax (cells.map Prod.snd)
    speedMaxKn := runningMax (-1.0) (cells.map Prod.snd)
    optimalityMargin := bestUtility }

def solve (expired : Nat → Bool) : Option IvPSolution :=
  if functions.isEmpty then none
  else if constraints.speedMinKn > constraints.speedMaxKn then none
  else
    let best := solver.findBestUtility functions constraints expired
    if best < 0.0 then none else some (solver.collectInterval functions constraints best)

/-- `expired level` belongs to the search on a level. -/
def solveWithFallback (expired : Nat → Nat → Bool) : Option IvPSolution :=
  [0, 1, 2, 3].findSome? fun level =>
    (solver.solve functions (constraints.relax level) (expired level)).map fun solution =>
      { solution with relaxLevel := level }

end IvPSolver

end MassL3.M4
