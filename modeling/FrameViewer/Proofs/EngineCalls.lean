import FrameViewer.Engine.Player
import FrameViewer.Proofs.LoopChanges
import Mathlib.Data.List.Chain
import Mathlib.Logic.Relation

/-! What the newest engine has been told of the keys, and the keys that its session takes for held.
Both change together, by the shifts below and by nothing else, so that they agree after any number
of shifts. -/

namespace FrameViewer

namespace KeySet

variable {keys : KeySet} {code other : Nat}

private theorem mask_eq (fits : code < 16) : mask code = BitVec.twoPow 16 code := by
  rw [mask, Nat.mod_eq_of_lt fits, BitVec.twoPow_eq]

private theorem contains_eq (fits : code < 16) : keys.contains code = keys.bits.getLsbD code := by
  have nonzero : BitVec.twoPow 16 code ≠ 0#16 := by
    intro zero
    have bit := congrArg (BitVec.getLsbD · code) zero
    simp [fits] at bit
  rw [contains, mask_eq fits, BitVec.and_twoPow]
  cases keys.bits.getLsbD code <;> simp [nonzero]

theorem ext_contains {first second : KeySet}
    (same : ∀ code < 16, first.contains code = second.contains code) : first = second := by
  obtain ⟨bits⟩ := first
  obtain ⟨others⟩ := second
  congr
  refine BitVec.eq_of_getLsbD_eq fun code fits => ?_
  simpa only [contains_eq fits] using same code fits

theorem contains_empty (fits : code < 16) : (mk 0#16).contains code = false := by
  simp [contains_eq fits]

theorem contains_insert (bound : code < 16) (fits : other < 16) :
    (keys.insert code).contains other = (keys.contains other || decide (other = code)) := by
  simp [contains_eq, insert, mask_eq, bound, fits]

theorem contains_erase (bound : code < 16) (fits : other < 16) :
    (keys.erase code).contains other = (keys.contains other && !decide (other = code)) := by
  simp [contains_eq, erase, mask_eq, bound, fits]

def turn (keys : KeySet) (down : Bool) (code : Nat) : KeySet :=
  if down then keys.insert code else keys.erase code

theorem contains_turn {down : Bool} (bound : code < 16) (fits : other < 16) :
    (keys.turn down code).contains other = if code = other then down else keys.contains other := by
  cases down with
  | true =>
    rw [turn, if_pos rfl, contains_insert bound fits]
    by_cases same : code = other <;> simp [same, eq_comm]
  | false =>
    rw [turn, if_neg Bool.false_ne_true, contains_erase bound fits]
    by_cases same : code = other <;> simp [same, eq_comm]

/-- Holding a held key changes nothing, nor does letting go of a free one. -/
theorem turn_of_contains {down : Bool} (bound : code < 16) (known : keys.contains code = down) :
    keys.turn down code = keys := by
  refine ext_contains fun other fits => ?_
  rw [contains_turn bound fits]
  split
  next same => rw [← same, known]
  next => rfl

end KeySet

def Engine.obey {ε : Type} [Engine ε] (engine : ε) : EngineCall → ε
  | .create _ => engine
  | .load rom => Engine.load rom engine
  | .next _ => (Engine.next engine).2
  | .tick _ => ((Engine.tick engine).map (·.2)).getD engine
  | .setKey code => Engine.setKey code engine
  | .unsetKey code => Engine.unsetKey code engine

namespace EngineCall

def ofKey (down : Bool) (code : Nat) : EngineCall :=
  if down then setKey code else unsetKey code

/-- Whether the call says that the key is down, or that it is up; the others say neither. -/
def word? (code : Nat) : EngineCall → Option Bool
  | setKey other => if other = code then some true else none
  | unsetKey other => if other = code then some false else none
  | create _ | load _ | next _ | tick _ => none

private theorem word?_ofKey (down : Bool) (code other : Nat) :
    (ofKey down code).word? other = if code = other then some down else none := by
  cases down <;> rfl

/-- What the calls say of the key, the first one first. -/
def words (code : Nat) (calls : List EngineCall) : List Bool :=
  calls.filterMap (word? code)

def IsStep : EngineCall → Prop
  | next _ | tick _ => True
  | create _ | load _ | setKey _ | unsetKey _ => False

private theorem IsStep.word?_eq {call : EngineCall} (step : call.IsStep) (code : Nat) :
    call.word? code = none := by
  cases call with
  | next _ | tick _ => rfl
  | create _ | load _ | setKey _ | unsetKey _ => exact step.elim

end EngineCall

/-- The calls since the last engine was made, once the event is counted in. -/
def Event.addCall (calls : List EngineCall) : Event → List EngineCall
  | engine _ (.create _) => []
  | engine _ call => calls ++ [call]
  | _ => calls

def Platform.engineCalls (platform : Platform) : List EngineCall :=
  platform.events.toList.foldl Event.addCall []

namespace Platform

@[simp] theorem engineCalls_record (platform : Platform) (event : Event) :
    (platform.record event).engineCalls = event.addCall platform.engineCalls := by
  simp [engineCalls, record]

/-- What tells of other parts of the viewer leaves the calls as they are. -/
theorem Extends.engineCalls_eq {kind : Event → Prop} {before after : Platform}
    (extended : before.Extends kind after) (deaf : ∀ event, kind event → event.part ≠ .engine) :
    after.engineCalls = before.engineCalls := by
  obtain ⟨added, same, each⟩ := extended
  rw [engineCalls, same, List.foldl_append, ← engineCalls]
  have still : ∀ event ∈ added, ∀ calls, event.addCall calls = calls := by
    intro event member calls
    cases event with
    | engine serial call => exact absurd rfl (deaf _ (each _ member))
    | _ => rfl
  clear same each
  induction added with
  | nil => rfl
  | cons event rest ih =>
    rw [List.foldl_cons, still event List.mem_cons_self]
    exact ih fun event member => still event (List.mem_cons_of_mem _ member)

end Platform

namespace Session

variable {ε : Type} [Engine ε] {session later : Session ε} {calls : List EngineCall}

/-- Everything that can happen to a session with the calls that its engine has had. -/
inductive Shift : Session ε × List EngineCall → Session ε × List EngineCall → Prop where
  | stepped {session : Session ε} {calls : List EngineCall} {call : EngineCall}
      (step : call.IsStep) :
      Shift (session, calls)
        ({ session with engine := Engine.obey session.engine call }, calls ++ [call])
  | turned {session : Session ε} {calls : List EngineCall} {down : Bool} {code : Nat}
      (bound : code < 16) (news : session.keys.contains code = !down) :
      Shift (session, calls)
        ({ session with
            engine := Engine.obey session.engine (.ofKey down code)
            keys := session.keys.turn down code }, calls ++ [.ofKey down code])
  | loaded {session : Session ε} {calls : List EngineCall} (rom : Rom) :
      Shift (session, calls) (session.loaded rom, [.load rom.bytes])

/-- The session and its engine agree on the keys. The engine is the last one made, and those are
the calls that made it what it is. They say of every key by turns that it is down and that it is
up, that it is down first; and the session takes for held what was last said to be down. -/
structure InStep (session : Session ε) (calls : List EngineCall) : Prop where
  replayed : session.engine = calls.foldl Engine.obey (session.factory (session.made - 1))
  byTurns (code : Nat) : (false :: EngineCall.words code calls).IsChain (· ≠ ·)
  held (code : Nat) (fits : code < 16) :
    session.keys.contains code = true ↔ (EngineCall.words code calls).getLast? = some true

namespace InStep

private theorem of_step (inStep : session.InStep calls) {call : EngineCall} (step : call.IsStep) :
    InStep { session with engine := Engine.obey session.engine call } (calls ++ [call]) := by
  have same (code : Nat) : EngineCall.words code (calls ++ [call]) = EngineCall.words code calls := by
    simp [EngineCall.words, step.word?_eq code]
  refine ⟨?_, ?_, ?_⟩
  · rw [List.foldl_append, ← inStep.replayed]
    rfl
  · intro code
    rw [same]
    exact inStep.byTurns code
  · intro code fits
    rw [same]
    exact inStep.held code fits

theorem of_created (factory : Nat → ε) :
    InStep { engine := factory 0, factory, made := 1 } [] := by
  refine ⟨rfl, fun code => .singleton false, fun code fits => ?_⟩
  simp [KeySet.contains_empty fits, EngineCall.words]

private theorem of_loaded (rom : Rom) : (session.loaded rom).InStep [.load rom.bytes] := by
  refine ⟨rfl, fun code => .singleton false, fun code fits => ?_⟩
  simp [loaded, KeySet.contains_empty fits, EngineCall.words, EngineCall.word?]

/-- A key that turns is told of to the engine, and to it alone. -/
private theorem of_turn (inStep : session.InStep calls) {down : Bool} {code : Nat} (bound : code < 16)
    (news : session.keys.contains code = !down) :
    InStep { session with
      engine := Engine.obey session.engine (.ofKey down code)
      keys := session.keys.turn down code } (calls ++ [.ofKey down code]) := by
  have words (other : Nat) : EngineCall.words other (calls ++ [.ofKey down code]) =
      EngineCall.words other calls ++ if code = other then [down] else [] := by
    rw [EngineCall.words, List.filterMap_append, ← EngineCall.words]
    have word := EngineCall.word?_ofKey down code other
    split <;> simp_all
  refine ⟨?_, ?_, ?_⟩
  · rw [List.foldl_append, ← inStep.replayed]
    rfl
  · intro other
    rw [words]
    split
    next same =>
      subst same
      refine (inStep.byTurns code).append (.singleton down) ?_
      intro last isLast next isNext
      obtain rfl : down = next := Option.some.inj isNext
      obtain rfl : _ = last := Option.some.inj (List.getLast?_cons.symm.trans isLast)
      have held := inStep.held code bound
      rw [news] at held
      cases said : (EngineCall.words code calls).getLast? <;> cases down <;> simp_all
    next =>
      rw [List.append_nil]
      exact inStep.byTurns other
  · intro other fits
    rw [words, KeySet.contains_turn bound fits]
    split
    next => simp
    next =>
      rw [List.append_nil]
      exact inStep.held other fits

theorem of_shift {before after : Session ε × List EngineCall} (shift : Shift before after)
    (inStep : before.1.InStep before.2) : after.1.InStep after.2 := by
  cases shift with
  | stepped step => exact inStep.of_step step
  | turned bound news => exact inStep.of_turn bound news
  | loaded rom => exact of_loaded rom

end InStep
end Session

namespace Player

theorem tick_keys {player later : Player} {report : Tick}
    (ticked : player.tick = some (report, later)) : later.keys = player.keys := by
  unfold tick at ticked
  split at ticked
  · obtain ⟨pixels, _, advanced⟩ := Option.map_eq_some_iff.mp ticked
    unfold advance at advanced
    split at advanced <;> cases advanced <;> rfl
  · cases ticked
    rfl

/-- A step leaves the keys as they are. -/
private theorem obey_keys {call : EngineCall} (step : call.IsStep) (player : Player) :
    (Engine.obey player call).keys = player.keys := by
  cases call with
  | next more => rfl
  | tick report =>
    change ((player.tick.map (·.2)).getD player).keys = player.keys
    cases ticked : player.tick with
    | none => rfl
    | some answer => exact tick_keys ticked
  | create _ | load _ | setKey _ | unsetKey _ => exact step.elim

/-- The keys that stop the pictures are those that the session takes for held. -/
theorem keys_of_shift {before after : Session Player × List EngineCall}
    (shift : Session.Shift before after) (same : before.1.engine.keys = before.1.keys) :
    after.1.engine.keys = after.1.keys := by
  cases shift with
  | stepped step => exact (obey_keys step _).trans same
  | @turned _ _ down code _ _ =>
    cases down with
    | true => exact congrArg (KeySet.insert · code) same
    | false => exact congrArg (KeySet.erase · code) same
  | loaded rom => rfl

end Player
end FrameViewer
