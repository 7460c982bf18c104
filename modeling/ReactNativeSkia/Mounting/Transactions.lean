import ReactNativeSkia.Misc.Run

/-!
# Transactions between the JS thread and the main thread

`MountingManager::schedulerDidFinishTransaction` on the JS thread and `performTransaction`,
run from the task queue of the main loop (`ReactSkia/MountingManager.cpp:30-46, 83-105`). The
two share the atomic flags `transactionInFlight_` and `followUpTransactionRequired_`; every
read and every write of a flag is a step of its own. Revisions are numbered in the order of
their commit, and `pullTransaction` takes all of them up to the newest.
-/

namespace ReactNativeSkia

/-- Where the JS thread is in `schedulerDidFinishTransaction`. -/
inductive JsPoint where
  | outside
  | entered
  | sawInFlight
  | sawIdle
  | marked
  deriving DecidableEq, Repr

/-- Where the main thread is in `performTransaction`: before the step of that name. -/
inductive MainPoint where
  | idle
  | clearFollowUp
  | setInFlight
  | pullTransaction
  | processMutations
  | clearInFlight
  | testFollowUp
  deriving DecidableEq, Repr

structure TransactionFlow where
  transactionInFlight_ : Bool := false
  followUpTransactionRequired_ : Bool := false
  js : JsPoint := .outside
  main : MainPoint := .idle
  /-- Tasks in the queue of the main loop. -/
  queued : Nat := 0
  /-- The newest revision committed, pulled and mounted. -/
  committed : Nat := 0
  pulled : Nat := 0
  mounted : Nat := 0
  deriving DecidableEq, Repr

/-- The atomic steps of the two threads. -/
inductive FlowStep where
  /-- A commit, and the call of `schedulerDidFinishTransaction` that follows it. -/
  | commit
  | readInFlight
  | writeFollowUp
  | writeInFlight
  | dispatch
  | startTask
  /-- The next step of `performTransaction`. -/
  | perform
  deriving DecidableEq, Repr

namespace TransactionFlow

/-- `schedulerDidFinishTransaction`; `none` when the JS thread is not at that step. -/
def schedulerDidFinishTransaction (s : TransactionFlow) : FlowStep → Option TransactionFlow
  | .commit =>
    if s.js = .outside then some { s with js := .entered, committed := s.committed + 1 } else none
  | .readInFlight =>
    if s.js = .entered then
      some { s with js := if s.transactionInFlight_ then .sawInFlight else .sawIdle }
    else none
  | .writeFollowUp =>
    if s.js = .sawInFlight then
      some { s with js := .outside, followUpTransactionRequired_ := true }
    else none
  | .writeInFlight =>
    if s.js = .sawIdle then some { s with js := .marked, transactionInFlight_ := true } else none
  | .dispatch =>
    if s.js = .marked then some { s with js := .outside, queued := s.queued + 1 } else none
  | .startTask | .perform => none

/-- One step of the `do … while` of `performTransaction`. -/
def performTransaction (s : TransactionFlow) : Option TransactionFlow :=
  match s.main with
  | .idle => none
  | .clearFollowUp =>
    some { s with main := .setInFlight, followUpTransactionRequired_ := false }
  | .setInFlight => some { s with main := .pullTransaction, transactionInFlight_ := true }
  | .pullTransaction => some { s with main := .processMutations, pulled := s.committed }
  | .processMutations => some { s with main := .clearInFlight, mounted := s.pulled }
  | .clearInFlight => some { s with main := .testFollowUp, transactionInFlight_ := false }
  | .testFollowUp =>
    some { s with main := if s.followUpTransactionRequired_ then .clearFollowUp else .idle }

def exec (s : TransactionFlow) : FlowStep → Option TransactionFlow
  | .startTask =>
    if s.main = .idle ∧ 0 < s.queued then
      some { s with main := .clearFollowUp, queued := s.queued - 1 }
    else none
  | .perform => s.performTransaction
  | step => s.schedulerDidFinishTransaction step

/-- No queued task and no call in progress. -/
def Quiescent (s : TransactionFlow) : Prop :=
  s.js = .outside ∧ s.main = .idle ∧ s.queued = 0

instance (s : TransactionFlow) : Decidable s.Quiescent := by
  unfold Quiescent
  infer_instance

end TransactionFlow

def flowStep (s : TransactionFlow) (step : FlowStep) (s' : TransactionFlow) : Prop :=
  s.exec step = some s'

/-!
## Commands to mounted views

`MountingManager::schedulerDidDispatchCommand` (`ReactSkia/MountingManager.cpp:54-66`) beside the
transactions: the JS thread puts the commands into the same queue of the main loop as the calls
of `performTransaction`, and the main loop takes the tasks first in, first out
(`rns_shell/platform/linux/TaskLoop.cpp`). A command looks its component up when its task runs.
-/

/-- A command with the newest revision committed when it was dispatched. -/
structure ViewCommand where
  tag : Int
  commandName : String
  revision : Nat
  deriving DecidableEq, Repr

inductive MainTask where
  | performTransaction
  | handleCommand (command : ViewCommand)
  deriving DecidableEq, Repr

/-- A command task that has run: the revision mounted at that time, and whether `GetComponent`
found the component, which then got the command. -/
structure CommandRun where
  command : ViewCommand
  mounted : Nat
  found : Bool
  deriving DecidableEq, Repr

/-- The transactions, the queue of the main loop, the commands dispatched and those run. -/
structure CommandFlow where
  flow : TransactionFlow := {}
  tasks : List MainTask := []
  dispatched : List ViewCommand := []
  ran : List CommandRun := []
  deriving DecidableEq, Repr

inductive CommandStep where
  /-- A step of the transactions. -/
  | flow (step : FlowStep)
  | schedulerDidDispatchCommand (tag : Int) (commandName : String)
  | runCommand
  deriving DecidableEq, Repr

namespace CommandFlow

/-- The queue of the main loop after a step of the transactions; `none` when the first task is
not the one that the step takes. -/
def tasksAfter (tasks : List MainTask) : FlowStep → Option (List MainTask)
  | .dispatch => some (tasks ++ [.performTransaction])
  | .startTask =>
    match tasks with
    | .performTransaction :: tasks => some tasks
    | _ => none
  | _ => some tasks

/-- A call from the JS thread, which is not inside another one. -/
def schedulerDidDispatchCommand (s : CommandFlow) (tag : Int) (commandName : String) :
    Option CommandFlow :=
  if s.flow.js = .outside then
    let command : ViewCommand := ⟨tag, commandName, s.flow.committed⟩
    some { s with
      tasks := s.tasks ++ [.handleCommand command]
      dispatched := s.dispatched ++ [command] }
  else none

/-- The task of a command; `registered revision tag` says whether the component is in the
registry once that revision is mounted. -/
def runCommand (registered : Nat → Int → Bool) (s : CommandFlow) : Option CommandFlow :=
  match s.flow.main, s.tasks with
  | .idle, .handleCommand command :: tasks =>
    some { s with
      tasks := tasks
      ran := s.ran ++ [⟨command, s.flow.mounted, registered s.flow.mounted command.tag⟩] }
  | _, _ => none

def exec (registered : Nat → Int → Bool) (s : CommandFlow) : CommandStep → Option CommandFlow
  | .flow step => do
    let flow ← s.flow.exec step
    let tasks ← tasksAfter s.tasks step
    return { s with flow := flow, tasks := tasks }
  | .schedulerDidDispatchCommand tag commandName => s.schedulerDidDispatchCommand tag commandName
  | .runCommand => s.runCommand registered

/-- The commands still in the queue. -/
def waiting (s : CommandFlow) : List ViewCommand :=
  s.tasks.filterMap fun
    | .performTransaction => none
    | .handleCommand command => some command

end CommandFlow

def commandStep (registered : Nat → Int → Bool) (s : CommandFlow) (step : CommandStep)
    (s' : CommandFlow) : Prop :=
  s.exec registered step = some s'

end ReactNativeSkia
