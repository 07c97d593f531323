import FrameViewer.Engine.Basic
import FrameViewer.Keypad
import FrameViewer.Platform

/-! The engine on screen and the keys it is fed. A new program comes with a new engine; the
generation counts them, so that whoever looked at an older one can tell. -/

namespace FrameViewer

structure Session (ε : Type) where
  engine : ε
  /-- The engine to make next, given how many were made. -/
  factory : Nat → ε
  made : Nat
  keys : KeySet := {}
  /-- The programs loaded so far, counted one at a time. No run loads as many as leave a 64-bit
  word, which a billion a second would do in five hundred years. -/
  generation : Nat := 0
  romName : Option String := none

namespace Session

variable {ε : Type} [Engine ε]

def dims (session : Session ε) : Dims :=
  (Engine.screen session.engine).dims

def reportCall {σ : Type} (engine : ε) (call : EngineCall) : Act σ Unit :=
  Act.emit (.engine (Engine.serial engine) call)

def make {σ : Type} (factory : Nat → ε) (made : Nat) : Act σ ε := do
  let engine := factory made
  reportCall engine (.create (Engine.screen engine).dims)
  return engine

def create {σ : Type} (factory : Nat → ε) : Act σ (Session ε) := do
  return { engine := ← make factory 0, factory, made := 1 }

/-- Replaces the engine by a new one that runs the program. No key is held any more. -/
def loadRom (rom : Rom) : Act (Session ε) Unit := do
  Act.notify (.loadingRom rom.name rom.bytes.size)
  let session ← Act.own
  let engine ← make session.factory session.made
  reportCall engine (.load rom.bytes)
  Act.setOwn { session with
    engine := Engine.load rom.bytes engine
    made := session.made + 1
    keys := {}
    generation := session.generation + 1
    romName := some rom.name }

def withRom {σ : Type} (factory : Nat → ε) (rom : Rom) : Act σ (Session ε) := do
  let session ← create factory
  let (result, session) ← Act.apart session (loadRom rom)
  Act.settle result
  return session

def setKey (code : Nat) : Act (Session ε) Unit := do
  let session ← Act.own
  reportCall session.engine (.setKey code)
  Act.setOwn { session with engine := Engine.setKey code session.engine }

def unsetKey (code : Nat) : Act (Session ε) Unit := do
  let session ← Act.own
  reportCall session.engine (.unsetKey code)
  Act.setOwn { session with engine := Engine.unsetKey code session.engine }

variable {κ : Type} [BEq κ]

/-- A key of the host goes down: the place to highlight, if the key is bound. The engine hears
only of keys that were up. -/
def keyDown (map : KeyMap κ) (key : κ) : Act (Session ε) (Option Nat) := do
  match map.get? key with
  | none => return none
  | some binding =>
    let session ← Act.own
    let (changed, keys) := session.keys.press binding.code
    Act.setOwn { session with keys }
    if changed then setKey binding.code
    return some binding.place

def keyUp (map : KeyMap κ) (key : κ) : Act (Session ε) (Option Nat) := do
  match map.get? key with
  | none => return none
  | some binding =>
    let session ← Act.own
    let (changed, keys) := session.keys.release binding.code
    Act.setOwn { session with keys }
    if changed then unsetKey binding.code
    return some binding.place

end Session
end FrameViewer
