import FrameViewer.Platform

/-! Tasks on one thread. A task runs until it ends or parks on a deadline; driving the executor
wakes the parked tasks that are due, then runs what is ready until nothing is. Nothing here
blocks. -/

namespace FrameViewer

/-- What running a task came to: the tasks it spawned, and the deadline it waits for with what is
left of it, unless it ended. -/
structure Polled (τ : Type) where
  spawned : List τ := []
  parked : Option (Nat × τ) := none

structure Executor (τ : Type) where
  next : Nat := 0
  /-- Spawned, and not yet taken over. -/
  incoming : List τ := []
  tasks : List (Nat × τ) := []
  /-- Numbers of the tasks that may run, in the order in which they became ready. -/
  ready : List Nat := []
  /-- Deadlines and the tasks they wake, in the order of registration. -/
  timers : List (Nat × Nat) := []

namespace Executor

variable {τ : Type}

def spawn (task : τ) (e : Executor τ) : Executor τ :=
  { e with incoming := e.incoming ++ [task] }

def isBusy (e : Executor τ) : Bool :=
  !e.incoming.isEmpty || !e.tasks.isEmpty

/-- Tasks whose deadline has come are ready, in the order of their timers. -/
def wake (now : Nat) (e : Executor τ) : Executor τ :=
  { e with
    ready := e.ready ++ (e.timers.filter (·.1 ≤ now)).map (·.2)
    timers := e.timers.filter (now < ·.1) }

/-- Numbers the spawned tasks and makes them ready, in the order they were spawned. -/
def takeOver (e : Executor τ) : Executor τ :=
  let numbered := e.incoming.zipIdx e.next
  { e with
    next := e.next + e.incoming.length
    incoming := []
    tasks := e.tasks ++ numbered.map fun (task, id) => (id, task)
    ready := e.ready ++ numbered.map (·.2) }

def pop (e : Executor τ) : Option (Nat × τ) × Executor τ :=
  match e.ready with
  | [] => (none, e)
  | id :: rest =>
    ((e.tasks.lookup id).map (id, ·), { e with ready := rest, tasks := e.tasks.filter (·.1 != id) })

/-- Registers what a run of a task came to. When it ended, spawned tasks are taken over. -/
def settle (id : Nat) (polled : Polled τ) (e : Executor τ) : Executor τ :=
  let e := { e with incoming := e.incoming ++ polled.spawned }
  match polled.parked with
  | none => e.takeOver
  | some (deadline, task) =>
    { e with tasks := e.tasks ++ [(id, task)], timers := e.timers ++ [(deadline, id)] }

variable {ρ : Type}

/-- Runs ready tasks, one after another, until none is left or `fuel` runs were made. Spawned
tasks are taken over when no task is ready. A task that breaks the run down is gone. -/
def runReady (poll : τ → Act ρ (Polled τ)) : Nat → Act (Executor τ × ρ) Unit
  | 0 => pure ()
  | fuel + 1 => do
    let (e, _) ← Act.own
    let e := if e.ready.isEmpty then e.takeOver else e
    match e.pop with
    | (none, e) => Act.update fun s => (e, s.2)
    | (some (id, task), e) =>
      Act.update fun s => (e, s.2)
      let s ← Act.own
      let polled ← Act.within s.2 (fun rest => (e, rest)) (poll task)
      Act.update fun s => (s.1.settle id polled, s.2)
      runReady poll fuel

/-- An upper bound for the runs of one drive, when each run of a task uses up some of its
size. -/
def work (size : τ → Nat) (e : Executor τ) : Nat :=
  e.tasks.foldl (fun total (_, task) => total + size task)
    (e.incoming.foldl (fun total task => total + size task) 0)

/-- Wakes what is due, takes over what was spawned, and runs until nothing is ready. -/
def drive (size : τ → Nat) (poll : τ → Act ρ (Polled τ)) : Act (Executor τ × ρ) Unit := do
  let now := (← Act.platform).clock
  Act.update fun s => ((s.1.wake now).takeOver, s.2)
  let (e, _) ← Act.own
  runReady poll (e.work size)

end Executor
end FrameViewer
