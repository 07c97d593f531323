import FrameViewer.Graphics.Renderer

/-! Tries the tiers in their order until one is acquired and built. At no time are two tiers
held: what was active is torn down and dropped before the first is tried. -/

namespace FrameViewer

structure Negotiator where
  probes : List Probe
  active : Option Renderer := none

namespace Negotiator

def activeTier (n : Negotiator) : Tier :=
  (n.active.map Renderer.tier).getD .none

/-- Acquires and builds with one probe, which comes back for the next time. -/
def tryProbe {σ : Type} (probe : Probe) (dims : Dims) :
    Act σ (Except RenderError Renderer × Probe) := do
  Act.notify (.trying probe.tier)
  let (acquired, probe) ← probe.acquire
  match acquired with
  | .ok backend => return (← Act.attempt (Renderer.build backend dims), probe)
  | .error cause => return (.error cause, probe)

/-- The renderer of the first probe that works, or why each of them failed; and the probes. -/
def tryProbes {σ : Type} (dims : Dims) :
    List Probe → Act σ (Except (List (Tier × RenderError)) Renderer × List Probe)
  | [] => return (.error [], [])
  | probe :: rest => do
    let tier := probe.tier
    let (result, probe) ← tryProbe probe dims
    match result with
    | .ok renderer =>
      Act.notify (.renderingUsing tier)
      return (.ok renderer, probe :: rest)
    | .error cause =>
      Act.notify (.rejected tier cause)
      let (result, rest) ← tryProbes dims rest
      return (result.mapError ((tier, cause) :: ·), probe :: rest)

def retire : Act Negotiator Unit := do
  let n ← Act.own
  match n.active with
  | none => pure ()
  | some previous =>
    Act.setOwn { n with active := none }
    Act.notify (.tearingDown previous.tier)
    previous.discard

/-- Makes the first tier that works the active one. When none does, the inert renderer is active
and the refusal tells the cause of each. -/
def negotiate (dims : Dims) : Act Negotiator Unit := do
  retire
  let (result, probes) ← tryProbes dims (← Act.own).probes
  match result with
  | .ok renderer => Act.setOwn { probes, active := some renderer }
  | .error attempts =>
    Act.notify (.exhausted (.exhausted attempts))
    Act.setOwn { probes, active := some .inert }
    Act.refuse (.exhausted attempts)

def take : Act Negotiator (Option Renderer) := do
  let n ← Act.own
  Act.setOwn { n with active := none }
  return n.active

def onActive {α : Type} (action : Act Renderer α) : Act Negotiator (Option α) := do
  let n ← Act.own
  match n.active with
  | none => return none
  | some renderer =>
    return some (← Act.within renderer (fun r => { n with active := some r }) action)

/-- The end of the negotiator and of what it still holds. -/
def close : Act Negotiator Unit := do
  match ← take with
  | none => pure ()
  | some renderer => renderer.discard

end Negotiator
end FrameViewer
