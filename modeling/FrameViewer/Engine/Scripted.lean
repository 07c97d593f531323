import FrameViewer.Engine.Basic

/-! An engine that follows a script of ticks and reports every call but its steps. -/

namespace FrameViewer

/-- One step of a script: a tick with its report, or a refusal to run. -/
inductive ScriptStep where
  | tick (report : Tick)
  | halt
  deriving DecidableEq, Repr

/-- Other dimensions, taken on at a tick. -/
structure ScreenChange where
  tick : Nat
  dims : Dims
  size : Nat

structure EngineScript where
  dims : Dims
  size : Nat
  steps : List ScriptStep
  /-- Flip a pixel at every tick. -/
  draws : Bool := false
  change : Option ScreenChange := none

def ScriptStep.ofChar (c : Char) : ScriptStep :=
  if c = 'h' then .halt
  else .tick { redraw := c = 'v' ∨ c = 'x', beep := c = 'b' ∨ c = 'x' }

/-- Reads a written script; a number repeats the character after it. -/
def ScriptStep.parse (text : String) : List ScriptStep :=
  go none text.toList
where
  go (count : Option Nat) : List Char → List ScriptStep
    | [] => []
    | c :: rest =>
      if c.isDigit then go (some (count.getD 0 * 10 + (c.toNat - 48))) rest
      else List.replicate (count.getD 1) (ofChar c) ++ go none rest

structure ScriptedEngine where
  number : Nat
  script : EngineScript
  dims : Dims
  pixels : Bytes
  steps : List ScriptStep
  ticks : Nat := 0
  nexts : Nat := 0

namespace ScriptedEngine

def ofScript (number : Nat) (script : EngineScript) : ScriptedEngine :=
  { number, script, dims := script.dims, pixels := Bytes.fill 0 script.size,
    steps := script.steps }

/-- The `index`-th engine made: it follows the script of that place, or the last one. -/
def factory (scripts : List EngineScript) (index : Nat) : ScriptedEngine :=
  let fallback := scripts.getLast?.getD { dims := ⟨0, 0⟩, size := 0, steps := [] }
  ofScript (index + 1) (scripts[index]?.getD fallback)

def next (engine : ScriptedEngine) : Bool × ScriptedEngine :=
  let counted := { engine with nexts := engine.nexts + 1 }
  match engine.steps with
  | [] => (false, counted)
  | .halt :: rest => (false, { counted with steps := rest })
  | .tick _ :: _ => (true, counted)

/-- The pixel of this tick flipped, when the script draws. -/
def drawn (engine : ScriptedEngine) (ticks : Nat) : Bytes :=
  if engine.script.draws ∧ 0 < engine.pixels.size then
    engine.pixels.modify ((ticks - 1) % engine.pixels.size) (· ^^^ 1)
  else engine.pixels

def tick (engine : ScriptedEngine) : Tick × ScriptedEngine :=
  let ticks := engine.ticks + 1
  let report := match engine.steps with
    | .tick report :: _ => report
    | _ => {}
  let pixels := engine.drawn ticks
  let stepped := { engine with ticks, pixels, steps := engine.steps.drop 1 }
  match engine.script.change with
  | some change =>
    if change.tick = ticks then
      (report, { stepped with dims := change.dims, pixels := pixels.resize change.size 0xee })
    else (report, stepped)
  | none => (report, stepped)

instance : Engine ScriptedEngine where
  load rom engine :=
    { engine with pixels := Bytes.fill (rom.getD 0 0) engine.pixels.size }
  next := next
  tick engine := some engine.tick
  setKey _ engine := engine
  unsetKey _ engine := engine
  screen engine := ⟨engine.dims, engine.pixels⟩
  serial engine := some engine.number

end ScriptedEngine
end FrameViewer
