import LiveSearch.Service.Provider

/-!
# Running tasks

Tasks take turns.  A task that can go on joins the queue behind those already waiting, and when its
turn comes it takes steps until it can only wait.  `Schedule.settle` lets every task run until none
can go on.
-/

namespace LiveSearch

/-- What takes turns. -/
inductive Task
  | provider
  | session (id : Nat)
deriving DecidableEq

/-- A system of tasks: its tasks, their next steps, and a number of turns that is enough. -/
structure TaskSystem (σ : Type) where
  tasks : σ → List Task
  step? : σ → Task → Option σ
  turns : σ → Nat

/-- A system with the queue of the tasks that can go on. -/
structure Schedule (σ : Type) where
  state : σ
  queue : List Task

namespace TaskSystem

variable {σ : Type} (system : TaskSystem σ)

/-- Let the tasks that have become able to go on join the queue. -/
def wake (schedule : Schedule σ) : Schedule σ :=
  let ready := (system.tasks schedule.state).filter fun task =>
    (system.step? schedule.state task).isSome && !schedule.queue.contains task
  { schedule with queue := schedule.queue ++ ready }

/-- Let a task take steps until it can only wait. -/
def runTask (task : Task) : Nat → σ → σ
  | 0, state => state
  | fuel + 1, state =>
    match system.step? state task with
    | none => state
    | some next => runTask task fuel next

/-- Give turns to the tasks in the queue until it is empty. -/
def runQueue : Nat → Schedule σ → Schedule σ
  | 0, schedule => schedule
  | fuel + 1, schedule =>
    match schedule.queue with
    | [] => schedule
    | task :: rest =>
      let state := system.runTask task (system.turns schedule.state) schedule.state
      runQueue fuel (system.wake ⟨state, rest⟩)

/-- Let every task run until none can go on. -/
def settle (schedule : Schedule σ) : Schedule σ :=
  let awake := system.wake schedule
  system.runQueue (system.turns awake.state) awake

/-- Change the state from outside. -/
def act (change : σ → σ) (schedule : Schedule σ) : Schedule σ :=
  system.wake { schedule with state := change schedule.state }

end TaskSystem

namespace Service

/-- The sessions whose worker has not ended. -/
def liveSessions (service : Service) : List Nat :=
  service.running.toList.filterMap fun (id, running) =>
    if running.session.phase.isStopped then none else some id

/-- The sum of a measure over items. -/
def total {α : Type} (measure : α → Nat) (items : List α) : Nat :=
  items.foldl (fun sum item => sum + measure item) 0

/-- More turns than the tasks can take: every queued item is read once, and every session, those
that queued subscriptions may open included, reads at most all records twice. -/
def turns (service : Service) : Nat :=
  let records := total (fun table => table.rows.size) service.database.tables.values
  let queued := total (fun box => box.items.length) service.database.feedRoom.boxes.values
  let notices := total (fun box => box.items.length) service.board.noticeRoom.boxes.values
  let rows := total (fun running => running.rows.length) service.running.values
  let sessions := service.liveSessions.length + notices + service.entries.size
  (sessions + service.detachments.length + 4) * (2 * records + 9) + queued + rows

/-- The sessions as tasks. -/
def taskSystem : TaskSystem Service where
  tasks service := service.liveSessions.map .session
  step?
    | service, .session id => service.step? id
    | _, .provider => none
  turns := turns

end Service

namespace Provider

/-- The provider and its sessions as tasks. -/
def taskSystem : TaskSystem Provider where
  tasks provider := .provider :: provider.service.liveSessions.map .session
  step?
    | provider, .session id => provider.stepSession? id
    | provider, .provider => provider.step?
  turns provider := provider.service.turns

end Provider

end LiveSearch
