/-
This file is a small library about programs that act on a shared state one step at a time.
A program is the tree of its steps: a step changes the state, and what comes next may depend
on the state it found and on an input from outside, such as whether the operation failed. A
program can be cut off after any number of steps, which is a crash; it can be run to its end on
one kind of input; and several programs can take their steps in any order on one state.

What a program does is said by one predicate. Whatever others do to the state between two
steps, as long as it is in the relation the program relies on, each of its own steps is in the
relation it guarantees, and its outcome with the final state meets the postcondition. The
predicate composes along sequencing and along catching exceptions, so the fact about a program
is assembled from the facts about the functions it calls. Run alone it gives invariants at every
crash point; run with others it holds of each of them, when each guarantees what the others rely
on.

Nothing in it names a particular program.
-/

import Mathlib.Data.List.Basic
import Mathlib.Logic.Function.Basic
import Mathlib.Tactic.Common

namespace Resumptions

/-- A program with its steps left to take. -/
inductive Program (State Input Error Result : Type) : Type where
  | done (outcome : Except Error Result)
  | step (effect : Input → State → State)
      (next : Input → State → Program State Input Error Result)

namespace Program

variable {State Input Error Result Other : Type}

/-! ### Sequencing and exceptions -/

def bind : Program State Input Error Result → (Result → Program State Input Error Other) →
    Program State Input Error Other
  | done (.ok value), rest => rest value
  | done (.error raised), _ => done (.error raised)
  | step effect next, rest => step effect fun input state => (next input state).bind rest

def tryCatch : Program State Input Error Result →
    (Error → Program State Input Error Result) → Program State Input Error Result
  | done (.ok value), _ => done (.ok value)
  | done (.error raised), handler => handler raised
  | step effect next, handler =>
    step effect fun input state => (next input state).tryCatch handler

instance : Monad (Program State Input Error) where
  pure value := done (.ok value)
  bind := bind

instance : MonadExcept Error (Program State Input Error) where
  throw raised := done (.error raised)
  tryCatch := tryCatch

/-- Look at the state. -/
def read : Program State Input Error State :=
  step (fun _ state => state) fun _ state => done (.ok state)

/-- Change the state, unless the operation fails. -/
def attempt (fails : Input → State → Bool) (raised : Error) (change : State → State) :
    Program State Input Error Unit :=
  step (fun input state => if fails input state then state else change state) fun input state =>
    done (if fails input state then .error raised else .ok ())

/-- A program on a part of the state. -/
def zoom {Part : Type} (get : State → Part) (set : Part → State → State) :
    Program Part Input Error Result → Program State Input Error Result
  | done outcome => done outcome
  | step effect next =>
    step (fun input state => set (effect input (get state)) state) fun input state =>
      (next input (get state)).zoom get set

/-! ### Running alone -/

/-- The program cut off after the steps that the inputs allow. -/
def run : Program State Input Error Result → State → List Input →
    Program State Input Error Result × State
  | done outcome, state, _ => (done outcome, state)
  | step effect next, state, [] => (step effect next, state)
  | step effect next, state, input :: inputs =>
    run (next input state) (effect input state) inputs

/-- The program run to its end, every step on the same input. -/
def finish (input : Input) : Program State Input Error Result → State →
    Except Error Result × State
  | done outcome, state => (outcome, state)
  | step effect next, state => (next input state).finish input (effect input state)

/-! ### What a program does -/

variable (allowed : Input → Prop) (rely guarantee : State → State → Prop)

/-- On allowed inputs, and whatever is relied on happens between its steps, each step is
guaranteed and the outcome meets the postcondition. -/
def Meets (post : Except Error Result → State → Prop) :
    Program State Input Error Result → State → Prop
  | done outcome, state => post outcome state
  | step effect next, state => ∀ between, rely state between → ∀ input, allowed input →
    guarantee between (effect input between) ∧
      Meets post (next input between) (effect input between)

variable {allowed rely guarantee}
variable {post : Except Error Result → State → Prop} {program : Program State Input Error Result}
  {state : State}

theorem Meets.weaken {weaker : Except Error Result → State → Prop}
    (meets : program.Meets allowed rely guarantee post state)
    (weaken : ∀ outcome state, post outcome state → weaker outcome state) :
    program.Meets allowed rely guarantee weaker state := by
  induction program generalizing state with
  | done outcome => exact weaken outcome state meets
  | step effect next inductionHypothesis =>
    intro between relied input isAllowed
    obtain ⟨guaranteed, rest⟩ := meets between relied input isAllowed
    exact ⟨guaranteed, inductionHypothesis input between rest⟩

theorem meets_pure {value : Result} (holds : post (.ok value) state) :
    (pure value : Program State Input Error Result).Meets allowed rely guarantee post state :=
  holds

variable {raised : Error}

theorem meets_throw (holds : post (.error raised) state) :
    (throw raised : Program State Input Error Result).Meets allowed rely guarantee post state :=
  holds

variable {rest : Result → Program State Input Error Other}

/-- What a sequence does: the first part leads to where the rest does its own. -/
theorem meets_bind {post : Except Error Other → State → Prop}
    (meets : program.Meets allowed rely guarantee (fun outcome state =>
      match outcome with
      | .ok value => (rest value).Meets allowed rely guarantee post state
      | .error raised => post (.error raised) state) state) :
    (program >>= rest).Meets allowed rely guarantee post state := by
  induction program generalizing state with
  | done outcome =>
    cases outcome with
    | ok value => exact meets
    | error raised => exact meets
  | step effect next inductionHypothesis =>
    intro between relied input isAllowed
    obtain ⟨guaranteed, later⟩ := meets between relied input isAllowed
    exact ⟨guaranteed, inductionHypothesis input between later⟩

/-- What a handled program does: the handler starts from where the exception was raised. -/
theorem meets_tryCatch {handler : Error → Program State Input Error Result}
    (meets : program.Meets allowed rely guarantee (fun outcome state =>
      match outcome with
      | .ok value => post (.ok value) state
      | .error raised => (handler raised).Meets allowed rely guarantee post state) state) :
    (tryCatch program handler).Meets allowed rely guarantee post state := by
  induction program generalizing state with
  | done outcome =>
    cases outcome with
    | ok value => exact meets
    | error raised => exact meets
  | step effect next inductionHypothesis =>
    intro between relied input isAllowed
    obtain ⟨guaranteed, later⟩ := meets between relied input isAllowed
    exact ⟨guaranteed, inductionHypothesis input between later⟩

theorem meets_read {rest : State → Program State Input Error Result}
    (next : ∀ between, rely state between →
      guarantee between between ∧ (rest between).Meets allowed rely guarantee post between) :
    (read >>= rest).Meets allowed rely guarantee post state :=
  fun between relied _ _ => next between relied

variable {fails : Input → State → Bool} {change : State → State}

theorem meets_attempt {post : Except Error Unit → State → Prop}
    (failing : ∀ between, rely state between → ∀ input, allowed input →
      fails input between = true →
        guarantee between between ∧ post (.error raised) between)
    (changing : ∀ between, rely state between → ∀ input, allowed input →
      fails input between = false →
        guarantee between (change between) ∧ post (.ok ()) (change between)) :
    (attempt fails raised change).Meets allowed rely guarantee post state := by
  intro between relied input isAllowed
  cases isFailing : fails input between with
  | true =>
    simp only [isFailing, if_true]
    exact failing between relied input isAllowed isFailing
  | false =>
    simp only [isFailing, Bool.false_eq_true, if_false]
    exact changing between relied input isAllowed isFailing

/-- A program on a part of the state does there what it does alone, as long as the others leave
the part to it. What they and it keep of the rest is kept. -/
theorem Meets.zoom {Part : Type} {get : State → Part} {set : Part → State → State}
    {program : Program Part Input Error Result} {state : State}
    {partGuarantee : Part → Part → Prop} {partPost : Except Error Result → Part → Prop}
    (Kept : State → State → Prop)
    (meets : program.Meets allowed Eq partGuarantee partPost (get state))
    (get_set : ∀ part state, get (set part state) = part)
    (left : ∀ first second, rely first second → get second = get first)
    (reflexive : ∀ state, Kept state state)
    (transitive : ∀ first second third, Kept first second → Kept second third → Kept first third)
    (keeps : ∀ first second, rely first second → Kept first second)
    (keepsOwn : ∀ state part, Kept state (set part state))
    (guaranteed : ∀ between part, Kept state between → partGuarantee (get between) part →
      guarantee between (set part between)) :
    (program.zoom get set).Meets allowed rely guarantee
      (fun outcome after => partPost outcome (get after) ∧ Kept state after) state := by
  induction program generalizing state with
  | done outcome => exact ⟨meets, reflexive state⟩
  | step effect next inductionHypothesis =>
    intro between relied input isAllowed
    have isPart := left _ _ relied
    obtain ⟨own, later⟩ := meets (get between) isPart.symm input isAllowed
    have kept := transitive _ _ _ (keeps _ _ relied)
      (keepsOwn between (effect input (get between)))
    refine ⟨guaranteed between _ (keeps _ _ relied) own, ?_⟩
    refine Meets.weaken (inductionHypothesis input (get between) (by rwa [get_set])
      fun further part keptFurther => guaranteed further part
        (transitive _ _ _ kept keptFurther)) ?_
    exact fun outcome after met => ⟨met.1, transitive _ _ _ kept met.2⟩

/-- Where everything is guaranteed there is nothing to show. -/
theorem meets_of_guaranteed (guaranteed : ∀ between after, guarantee between after)
    (ended : ∀ outcome after, post outcome after) :
    program.Meets allowed rely guarantee post state := by
  induction program generalizing state with
  | done outcome => exact ended outcome state
  | step effect next inductionHypothesis =>
    exact fun between _ input _ => ⟨guaranteed _ _, inductionHypothesis input between⟩

/-- Nothing has to be known of the first part but that it returns. -/
theorem meets_bind_of_guaranteed {post : Except Error Other → State → Prop}
    (guaranteed : ∀ between after, guarantee between after)
    (failing : ∀ raised after, post (.error raised) after)
    (next : ∀ value after, (rest value).Meets allowed rely guarantee post after) :
    (program >>= rest).Meets allowed rely guarantee post state :=
  meets_bind (meets_of_guaranteed guaranteed fun outcome after =>
    match outcome with
    | .ok value => next value after
    | .error raised => failing raised after)

/-! ### What every step does -/

section Steps

variable {moves : State → State → Prop}

/-- Every step moves the state in one way, from wherever it is taken. -/
def Steps (moves : State → State → Prop) : Program State Input Error Result → Prop
  | done _ => True
  | step effect next =>
    (∀ input state, moves state (effect input state)) ∧
      ∀ input state, (next input state).Steps moves

theorem steps_pure {value : Result} :
    (pure value : Program State Input Error Result).Steps moves := trivial

theorem steps_throw :
    (throw raised : Program State Input Error Result).Steps moves := trivial

theorem Steps.bind (steps : program.Steps moves) (restSteps : ∀ value, (rest value).Steps moves) :
    (program >>= rest).Steps moves := by
  induction program with
  | done outcome =>
    cases outcome with
    | ok value => exact restSteps value
    | error raised => trivial
  | step effect next inductionHypothesis =>
    exact ⟨steps.1, fun input state => inductionHypothesis input state (steps.2 input state)⟩

theorem Steps.tryCatch {handler : Error → Program State Input Error Result}
    (steps : program.Steps moves) (handlerSteps : ∀ raised, (handler raised).Steps moves) :
    (MonadExcept.tryCatch program handler).Steps moves := by
  induction program with
  | done outcome =>
    cases outcome with
    | ok value => trivial
    | error raised => exact handlerSteps raised
  | step effect next inductionHypothesis =>
    exact ⟨steps.1, fun input state => inductionHypothesis input state (steps.2 input state)⟩

variable {rest : State → Program State Input Error Result}

theorem steps_read (still : ∀ state, moves state state)
    (restSteps : ∀ state, (rest state).Steps moves) :
    (read >>= rest).Steps moves :=
  Steps.bind ⟨fun _ => still, fun _ _ => trivial⟩ restSteps

theorem steps_attempt (still : ∀ state, moves state state)
    (changes : ∀ state, moves state (change state)) :
    (attempt fails raised change).Steps moves := by
  refine ⟨fun input state => ?_, fun _ _ => trivial⟩
  dsimp only
  split
  · exact still state
  · exact changes state

/-- The program ends where its steps and those of the others have led. -/
theorem Steps.meets (steps : program.Steps moves) (Leads : State → State → Prop)
    (guaranteed : ∀ before after, moves before after → guarantee before after)
    (reflexive : ∀ state, Leads state state)
    (transitive : ∀ first second third, Leads first second → Leads second third →
      Leads first third)
    (leads : ∀ before after, rely before after ∨ moves before after → Leads before after)
    (ended : ∀ outcome after, Leads state after → post outcome after) :
    program.Meets allowed rely guarantee post state := by
  induction program generalizing state with
  | done outcome => exact ended outcome state (reflexive state)
  | step effect next inductionHypothesis =>
    intro between relied input _
    have moved := steps.1 input between
    refine ⟨guaranteed _ _ moved, inductionHypothesis input between (steps.2 input between)
      fun outcome after later => ended outcome after ?_⟩
    exact transitive _ _ _ (transitive _ _ _ (leads _ _ (Or.inl relied))
      (leads _ _ (Or.inr moved))) later

/-- Every step leaves the state as it is. -/
abbrev Looks (program : Program State Input Error Result) : Prop :=
  program.Steps fun before after => after = before

theorem looks_read (restLooks : ∀ state, (rest state).Looks) : (read >>= rest).Looks :=
  steps_read (fun _ => rfl) restLooks

end Steps

/-! ### Alone -/

/-- Alone, with an invariant of the state for a guarantee. -/
abbrev Keeps (allowed : Input → Prop) (Invariant : State → Prop)
    (post : Except Error Result → State → Prop) (program : Program State Input Error Result)
    (state : State) : Prop :=
  program.Meets allowed Eq (fun _ after => Invariant after) post state

variable {Invariant : State → Prop}

theorem keeps_read {rest : State → Program State Input Error Result} (kept : Invariant state)
    (next : (rest state).Keeps allowed Invariant post state) :
    (read >>= rest).Keeps allowed Invariant post state :=
  meets_read fun between same => by
    subst same
    exact ⟨kept, next⟩

theorem keeps_attempt {post : Except Error Unit → State → Prop}
    (failing : ∀ input, allowed input → fails input state = true →
      Invariant state ∧ post (.error raised) state)
    (changing : ∀ input, allowed input → fails input state = false →
      Invariant (change state) ∧ post (.ok ()) (change state)) :
    (attempt fails raised change).Keeps allowed Invariant post state :=
  meets_attempt (fun _ same => by subst same; exact failing)
    (fun _ same => by subst same; exact changing)

/-- Where nothing happens between the steps, an invariant that each step guarantees holds
wherever the program is cut off, and what is left of the program still does what it did. -/
theorem Meets.run {inputs : List Input} (meets : program.Keeps allowed Invariant post state)
    (initially : Invariant state) (areAllowed : ∀ input ∈ inputs, allowed input) :
    Invariant (program.run state inputs).2 ∧
      (program.run state inputs).1.Keeps allowed Invariant post
        (program.run state inputs).2 := by
  induction inputs generalizing program state with
  | nil => cases program <;> exact ⟨initially, meets⟩
  | cons input inputs inductionHypothesis =>
    obtain ⟨isAllowed, restAllowed⟩ := List.forall_mem_cons.mp areAllowed
    cases program with
    | done outcome => exact ⟨initially, meets⟩
    | step effect next =>
      obtain ⟨guaranteed, later⟩ := meets state rfl input isAllowed
      exact inductionHypothesis later guaranteed restAllowed

/-- Run to its end on one allowed input, the program meets its postcondition. -/
theorem Meets.finish {input : Input}
    (meets : program.Meets allowed Eq guarantee post state) (isAllowed : allowed input) :
    post (program.finish input state).1 (program.finish input state).2 := by
  induction program generalizing state with
  | done outcome => exact meets
  | step effect next inductionHypothesis =>
    exact inductionHypothesis input state (meets state rfl input isAllowed).2

end Program

/-! ### Together -/

section Pool

variable {State Input Error Party : Type} [DecidableEq Party] {Result : Party → Type}

/-- Programs that share a state. -/
structure Pool (State Input Error : Type) {Party : Type} (Result : Party → Type) where
  programs : (party : Party) → Program State Input Error (Result party)
  state : State

/-- One party takes its next step. -/
def Pool.step (pool : Pool State Input Error Result) (turn : Party × Input) :
    Pool State Input Error Result :=
  match pool.programs turn.1 with
  | .done _ => pool
  | .step effect next =>
    { programs := Function.update pool.programs turn.1 (next turn.2 pool.state)
      state := effect turn.2 pool.state }

def Pool.run (pool : Pool State Input Error Result) (turns : List (Party × Input)) :
    Pool State Input Error Result :=
  turns.foldl Pool.step pool

variable {rely guarantee : Party → State → State → Prop}
  {post : (party : Party) → Except Error (Result party) → State → Prop}

/-- Every party does what it is to do, from the state as it is. -/
def Pool.Meets (rely guarantee : Party → State → State → Prop)
    (post : (party : Party) → Except Error (Result party) → State → Prop)
    (pool : Pool State Input Error Result) : Prop :=
  ∀ party, (pool.programs party).Meets (fun _ => True) (rely party) (guarantee party)
    (post party) pool.state

/-- Interference that was relied on may have happened before the next step. -/
theorem Program.Meets.after {Result : Type} {allowed : Input → Prop}
    {rely guarantee : State → State → Prop} {post : Except Error Result → State → Prop}
    {program : Program State Input Error Result} {state later : State}
    (meets : program.Meets allowed rely guarantee post state)
    (transitive : ∀ first second third, rely first second → rely second third → rely first third)
    (stable : ∀ outcome first second, rely first second → post outcome first → post outcome second)
    (relied : rely state later) : program.Meets allowed rely guarantee post later := by
  cases program with
  | done outcome => exact stable outcome state later relied meets
  | step effect next =>
    exact fun between further => meets between (transitive _ _ _ relied further)

section Compatible

variable (reflexive : ∀ party state, rely party state state)
  (transitive : ∀ party first second third,
    rely party first second → rely party second third → rely party first third)
  (compatible : ∀ party other, party ≠ other → ∀ first second,
    guarantee party first second → rely other first second)
  (stable : ∀ party outcome first second,
    rely party first second → post party outcome first → post party outcome second)

include reflexive transitive compatible stable

/-- When each party guarantees what the others rely on, a turn of one of them is guaranteed by
it, and all of them still do what they are to do. -/
theorem Pool.Meets.step {pool : Pool State Input Error Result}
    (meets : pool.Meets rely guarantee post) (turn : Party × Input) :
    (pool.step turn).Meets rely guarantee post ∧
      (guarantee turn.1 pool.state (pool.step turn).state ∨
        (pool.step turn).state = pool.state) := by
  unfold Pool.step
  cases isProgram : pool.programs turn.1 with
  | done outcome => exact ⟨meets, Or.inr rfl⟩
  | step effect next =>
    have mine := meets turn.1
    rw [isProgram] at mine
    obtain ⟨guaranteed, later⟩ := mine pool.state (reflexive _ _) turn.2 trivial
    refine ⟨fun party => ?_, Or.inl guaranteed⟩
    by_cases isTurn : party = turn.1
    · subst isTurn
      simp only [Function.update_self]
      exact later
    · simp only [Function.update_of_ne isTurn]
      exact (meets party).after (transitive party) (stable party)
        (compatible turn.1 party (Ne.symm isTurn) _ _ guaranteed)

/-- In whatever order the parties take their steps, all of them do what they are to do, and the
state has gone where their guarantees lead. -/
theorem Pool.Meets.run {pool : Pool State Input Error Result}
    (meets : pool.Meets rely guarantee post) (Leads : State → State → Prop)
    (still : ∀ state, Leads state state)
    (leads : ∀ party first second third,
      guarantee party first second → Leads second third → Leads first third)
    (turns : List (Party × Input)) :
    (pool.run turns).Meets rely guarantee post ∧ Leads pool.state (pool.run turns).state := by
  induction turns generalizing pool with
  | nil => exact ⟨meets, still _⟩
  | cons turn turns inductionHypothesis =>
    obtain ⟨stepMeets, moved⟩ := meets.step reflexive transitive compatible stable turn
    obtain ⟨runMeets, isLed⟩ := inductionHypothesis stepMeets
    refine ⟨runMeets, ?_⟩
    rcases moved with guaranteed | unmoved
    · exact leads _ _ _ _ guaranteed isLed
    · exact unmoved ▸ isLed

end Compatible

end Pool

end Resumptions
