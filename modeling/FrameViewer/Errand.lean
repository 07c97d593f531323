import FrameViewer.Executor

/-! Written tasks: a named list of things to say, to wait for and to spawn. -/

namespace FrameViewer

inductive Errand where
  | say (text : String)
  | delay (micros : Nat)
  | spawn (name : String) (errands : List Errand)
  deriving Inhabited

structure NamedTask where
  name : String
  rest : List Errand

namespace NamedTask

mutual

def weigh : Errand → Nat
  | .say _ => 1
  | .delay _ => 1
  | .spawn _ errands => 2 + weighAll errands

def weighAll : List Errand → Nat
  | [] => 0
  | errand :: rest => weigh errand + weighAll rest

end

/-- More than the runs that the task and all it spawns can make. -/
def size (task : NamedTask) : Nat :=
  1 + weighAll task.rest

/-- Runs errands up to the first delay that has not passed. -/
def perform (name : String) (spawned : List NamedTask) :
    List Errand → Act Unit (Polled NamedTask)
  | [] => do
    Act.emit (.taskEnd name)
    return { spawned }
  | .say text :: rest => do
    Act.emit (.taskText name text (wholeMillis (millis (← Act.platform).clock)))
    perform name spawned rest
  | .delay micros :: rest => do
    if micros = 0 then perform name spawned rest
    else return { spawned, parked := some ((← Act.platform).clock + micros, { name, rest }) }
  | .spawn child errands :: rest =>
    perform name (spawned ++ [{ name := child, rest := errands }]) rest

def poll (task : NamedTask) : Act Unit (Polled NamedTask) :=
  perform task.name [] task.rest

end NamedTask
end FrameViewer
