import FrameViewer.Loop.Callback

/-! A frame loop driven by a list of steps. While a callback of a step is paused, other steps may
run, further callbacks among them. -/

namespace FrameViewer

inductive LoopStep where
  /-- Runs a callback to its end; the steps at `n` run during its `n`-th pause. -/
  | frame (config : LoopConfig) (hooks : List (Nat × List LoopStep))
  | clock (ms : Int)
  | loadRom (rom : Rom)
  /-- Loads a program behind the loop's back. -/
  | swapSession (rom : Rom)
  | stop
  | keyDown (key : String)
  | keyUp (key : String)
  | submit (pixels : Bytes)
  | rebuild (dims : Dims)
  | resize (size : Dims)
  | teardown
  deriving Inhabited

inductive LoopAnswer where
  | done
  | outcome (result : Except RenderError Unit)
  | place (place : Option Nat)
  | frame (result : Except RenderError FrameReport) (pauses : Nat) (throttle : Nat)
      (hooked : List LoopAnswer)

/-- A loop, the keys it knows and the time it is told. -/
structure Rehearsal (ε : Type) where
  loop : FrameLoop ε
  keys : KeyMap String
  ms : Int := 0

namespace Rehearsal

variable {ε : Type} [Engine ε] {α : Type}

def onLoop (action : Act (FrameLoop ε) α) : Act (Rehearsal ε) α := do
  let r ← Act.own
  Act.within r.loop (fun loop => { r with loop }) action

def outcome (action : Act (FrameLoop ε) Unit) : Act (Rehearsal ε) LoopAnswer := do
  return .outcome (← Act.attempt (onLoop action))

/-- Resumes a callback again and again. The steps of `hooks` run at its pauses. -/
def follow (hooks : Nat → Act (Rehearsal ε) (List LoopAnswer)) :
    Nat → Callback → Nat → List LoopAnswer → Act (Rehearsal ε) LoopAnswer
  | 0, _, _, _ => Act.crash
  | fuel + 1, callback, pauses, hooked => do
    let throttle := if pauses = 0 then 0 else callback.config.throttle
    match ← Act.attempt (onLoop callback.run) with
    | .error cause => return .frame (.error cause) pauses throttle hooked
    | .ok (.finished report) => return .frame (.ok report) pauses throttle hooked
    | .ok (.running callback) => follow hooks fuel callback pauses hooked
    | .ok (.paused callback) =>
      let answers ← hooks (pauses + 1)
      follow hooks fuel callback (pauses + 1) (hooked ++ answers)

def frame (config : LoopConfig) (hooks : Nat → Act (Rehearsal ε) (List LoopAnswer)) :
    Act (Rehearsal ε) LoopAnswer := do
  let now := Format.double.ofInt (← Act.own).ms
  match ← onLoop (Callback.begin .display config now) with
  | none => return .frame (.ok .skipped) 0 0 []
  | some callback => follow hooks Callback.tickLimit callback 0 []

mutual

def run : LoopStep → Act (Rehearsal ε) LoopAnswer
  | .frame config hooks =>
    let prepared := prepare hooks
    frame config fun n => (prepared.lookup n).getD (pure [])
  | .clock ms => do
    Act.update fun r => { r with ms }
    return .done
  | .loadRom rom => outcome (FrameLoop.loadRom rom)
  | .swapSession rom => do
    onLoop (FrameLoop.onSession (Session.loadRom rom))
    return .done
  | .stop => do
    onLoop FrameLoop.stop
    return .done
  | .keyDown key => do
    let keys := (← Act.own).keys
    return .place (← onLoop (FrameLoop.onSession (Session.keyDown keys key)))
  | .keyUp key => do
    let keys := (← Act.own).keys
    return .place (← onLoop (FrameLoop.onSession (Session.keyUp keys key)))
  | .submit pixels => outcome (FrameLoop.onRenderer (Renderer.submit pixels))
  | .rebuild dims => outcome (FrameLoop.onRenderer (Renderer.rebuild dims))
  | .resize size => do
    onLoop (FrameLoop.onRenderer (Renderer.resize size))
    return .done
  | .teardown => do
    onLoop (FrameLoop.onRenderer Renderer.teardown)
    return .done

def runAll : List LoopStep → Act (Rehearsal ε) (List LoopAnswer)
  | [] => return []
  | step :: rest => do
    let answer ← run step
    return answer :: (← runAll rest)

def prepare : List (Nat × List LoopStep) → List (Nat × Act (Rehearsal ε) (List LoopAnswer))
  | [] => []
  | (n, steps) :: rest => (n, runAll steps) :: prepare rest

end

def close : Act (Rehearsal ε) Unit :=
  onLoop (FrameLoop.onRenderer Renderer.close)

end Rehearsal
end FrameViewer
