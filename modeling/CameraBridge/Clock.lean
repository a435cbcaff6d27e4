/-!
Tasks on a clock. A task is a move that is possible or not in a given state: it answers `none` while
it has to wait. All tasks move in turns until none can; then the clock goes on to the next moment at
which some wait ends. Time passes in no other way.
-/

namespace CameraBridge

abbrev Time := Nat

/-- Tasks sharing a state that holds a clock. -/
structure System (State : Type) where
  /-- The tasks of a state, in the order in which they take their turns. -/
  tasks : State → List (State → Option State)
  now : State → Time
  setNow : Time → State → State
  /-- The moments at which waits of a state end. -/
  deadlines : State → List Time

namespace System

variable {State : Type}

/-- Repeats a move while it is possible, at most `limit` times. -/
def repeatMove (move : State → Option State) : (limit : Nat) → State → State
  | 0, state => state
  | limit + 1, state =>
      match move state with
      | none => state
      | some next => repeatMove move limit next

def moveLimit : Nat := 1000000

/-- A task's turn: it moves until it waits, and at least once. -/
def turn (move : State → Option State) (state : State) : Option State :=
  (move state).map (repeatMove move moveLimit)

/-- One turn of every task that can move; `none` if no task can. -/
def round : List (State → Option State) → State → Option State
  | [], _ => none
  | task :: rest, state =>
      match turn task state with
      | none => round rest state
      | some next => some ((round rest next).getD next)

def settle (system : System State) (state : State) : State :=
  repeatMove (fun state => round (system.tasks state) state) moveLimit state

/-- The first moment after now, and not after `target`, at which a wait ends. -/
def nextDeadline? (system : System State) (target : Time) (state : State) : Option Time :=
  ((system.deadlines state).filter fun deadline =>
    system.now state < deadline && deadline ≤ target).min?

/-- Goes from one end of a wait to the next, at most `limit` times, and stops at `target`. -/
def runTo (system : System State) (target : Time) : (limit : Nat) → State → State
  | 0, state => system.setNow target state
  | limit + 1, state =>
      match system.nextDeadline? target state with
      | none => system.setNow target state
      | some deadline => runTo system target limit (system.settle (system.setNow deadline state))

def advance (system : System State) (span : Time) (state : State) : State :=
  system.runTo (system.now state + span) span (system.settle state)

end System

/-- Calls that may wait: each is either still under way or has its result. -/
inductive Call (Phase Result : Type) where
  | running (phase : Phase)
  | finished (result : Result)

namespace Call

variable {Phase Result : Type}

def result? : Call Phase Result → Option Result
  | .running _ => none
  | .finished result => some result

/-- The calls that have a result now and had none before, with their numbers. -/
def newlyFinished (before after : List (Call Phase Result)) : List (Nat × Result) :=
  after.zipIdx.filterMap fun (call, number) =>
    match before[number]? with
    | some (.finished _) => none
    | _ => call.result?.map fun result => (number, result)

end Call

end CameraBridge
