import FrameViewer.Proofs.FrameOwnership

/-! Callbacks in any order. A loop is kept with the callbacks that are paused on it. A move begins
a callback, goes on with any of the paused ones, loads a program, or does what an input handler
does; nothing is assumed about which move follows which. -/

namespace FrameViewer
open Act

/-- A callback at one of its pauses. -/
structure Suspended where
  /-- How many callbacks had begun before it. -/
  number : Nat
  /-- How many programs had been loaded before it. -/
  since : Nat
  callback : Callback

structure TurnRecord where
  number : Nat
  generation : Nat

/-- A loop, the callbacks that have begun on it and not ended, and what happened so far. -/
structure Interplay (ε : Type) where
  loop : FrameLoop ε
  suspended : List Suspended := []
  begun : Nat := 0
  /-- Whether each load worked, the first one first. -/
  loads : List Bool := []
  turns : List TurnRecord := []

inductive Interruption (κ : Type) where
  | stop
  | keyDown (map : KeyMap κ) (key : κ)
  | keyUp (map : KeyMap κ) (key : κ)
  | resize (size : Dims)
  | teardown

inductive Move (κ : Type) where
  | start (host : Host) (config : LoopConfig) (now : Binary)
  /-- Goes on with the callback at that position. -/
  | resume (position : Nat)
  | load (rom : Rom)
  | interrupt (interruption : Interruption κ)

inductive Answer where
  | none
  | turned (outcome : Except RenderError Progress)
  | loaded (outcome : Except RenderError Unit)

variable {ε κ α : Type}

namespace Interplay

def ofSession (session : Session ε) (renderer : Renderer) : Interplay ε :=
  { loop := FrameLoop.ofSession session renderer }

def joined (p : Interplay ε) (callback : Callback) : Interplay ε :=
  { p with
    suspended := { number := p.begun, since := p.loads.length, callback } :: p.suspended
    begun := p.begun + 1 }

/-- The interplay once a callback has had its turn. It stays suspended unless it came to its
end. -/
def advanced (p : Interplay ε) (position : Nat) (member : Suspended)
    (outcome : Except RenderError Progress) : Interplay ε :=
  { p with
    suspended := (Callback.rest? outcome).toList.map (fun callback => { member with callback }) ++
      p.suspended.eraseIdx position
    turns := p.turns ++ [⟨member.number, member.callback.generation⟩] }

def onLoop (action : Act (FrameLoop ε) α) : Act (Interplay ε) α := do
  let p ← Act.own
  Act.within p.loop (fun loop => { p with loop }) action

theorem leads_onLoop (action : Act (FrameLoop ε) α) (scene : Scene (Interplay ε))
    {done : α → Scene (Interplay ε) → Prop} {failed : Failure → Scene (Interplay ε) → Prop} :
    (onLoop action).Leads scene done failed ↔
      action.Leads ⟨scene.own.loop, scene.platform⟩
        (fun value inner => done value ⟨{ scene.own with loop := inner.own }, inner.platform⟩)
        (fun failure inner =>
          failed failure ⟨{ scene.own with loop := inner.own }, inner.platform⟩) := by
  unfold onLoop
  simp only [leads_bind, leads_own, leads_within]

end Interplay

variable [Engine ε] [BEq κ]

def Interruption.action : Interruption κ → Act (FrameLoop ε) Unit
  | stop => FrameLoop.stop
  | keyDown map key => do
    let _ ← FrameLoop.onSession (Session.keyDown map key)
  | keyUp map key => do
    let _ ← FrameLoop.onSession (Session.keyUp map key)
  | resize size => FrameLoop.onRenderer (Renderer.resize size)
  | teardown => FrameLoop.onRenderer Renderer.teardown

namespace Interplay

def advance (position : Nat) : Act (Interplay ε) Answer := do
  match (← Act.own).suspended[position]? with
  | none => return .none
  | some member =>
    let outcome ← Act.attempt (onLoop member.callback.run)
    Act.update (·.advanced position member outcome)
    return .turned outcome

def perform : Move κ → Act (Interplay ε) Answer
  | .start host config now => do
    match ← onLoop (Callback.begin host config now) with
    | none => return .turned (.ok (.finished .skipped))
    | some callback =>
      Act.update (·.joined callback)
      advance 0
  | .resume position => advance position
  | .load rom => do
    let outcome ← Act.attempt (onLoop (FrameLoop.loadRom rom))
    Act.update fun p => { p with loads := p.loads ++ [outcome.toOption.isSome] }
    return .loaded outcome
  | .interrupt interruption => do
    let _ ← Act.attempt (onLoop interruption.action)
    return .none

def performAll (moves : List (Move κ)) : Act (Interplay ε) Unit :=
  moves.forM fun move => do
    let _ ← perform move

end Interplay

namespace FrameLoop

structure Attended (before after : FrameLoop ε) : Prop extends before.SameFrame after where
  bare : before.renderer.resources = none → after.renderer.resources = none

end FrameLoop

theorem Interruption.action_leads (interruption : Interruption κ) (scene : Scene (FrameLoop ε)) :
    interruption.action.Leads scene (fun _ after => scene.own.Attended after.own)
      (fun _ after => scene.own.Attended after.own) := by
  have keyed {session : Session ε} (change : scene.own.session.Keyed session) :
      scene.own.Attended { scene.own with session } :=
    ⟨⟨rfl, rfl, by rw [change.same]⟩, id⟩
  cases interruption with
  | stop => exact ⟨⟨rfl, rfl, rfl⟩, id⟩
  | keyDown map key =>
    unfold action FrameLoop.onSession
    simp only [leads_bind, leads_own, leads_within, leads_pure]
    exact (Session.keyDown_leads map key _).mono (fun _ _ change => keyed change)
      fun _ _ impossible => impossible.elim
  | keyUp map key =>
    unfold action FrameLoop.onSession
    simp only [leads_bind, leads_own, leads_within, leads_pure]
    exact (Session.keyUp_leads map key _).mono (fun _ _ change => keyed change)
      fun _ _ impossible => impossible.elim
  | resize size =>
    unfold action FrameLoop.onRenderer
    simp only [leads_bind, leads_own, leads_within]
    exact (Renderer.resize_leads size _).mono
      (fun _ _ same => ⟨⟨rfl, rfl, rfl⟩, fun bare => same.trans bare⟩)
      fun _ _ same => ⟨⟨rfl, rfl, rfl⟩, fun bare => same.trans bare⟩
  | teardown =>
    unfold action FrameLoop.onRenderer
    simp only [leads_bind, leads_own, leads_within]
    exact (Renderer.teardown_leads _).mono
      (fun _ _ bare => ⟨⟨rfl, rfl, rfl⟩, fun _ => bare⟩)
      fun _ _ bare => ⟨⟨rfl, rfl, rfl⟩, fun _ => bare⟩

namespace Interplay

inductive Change (before : Interplay ε) : Interplay ε → Prop where
  | unchanged : Change before before
  | started {callback : Callback} {now : Binary} {outcome : Except RenderError Progress}
      {loop : FrameLoop ε}
      (free : before.loop.state.inFlight = false)
      (fresh : callback.generation = before.loop.state.generation ∧ callback.ticks = 0)
      (turn : callback.Turn (before.loop.taken now) outcome loop) :
      Change before (({ before with loop }.joined callback).advanced 0
        { number := before.begun, since := before.loads.length, callback } outcome)
  | resumed {position : Nat} {member : Suspended} {outcome : Except RenderError Progress}
      {loop : FrameLoop ε}
      (found : before.suspended[position]? = some member)
      (turn : member.callback.Turn before.loop outcome loop) :
      Change before ({ before with loop }.advanced position member outcome)
  | loaded {rom : Rom} {loop : FrameLoop ε}
      (session : loop.session = before.loop.session.loaded rom)
      (state : loop.state = { generation := loop.session.generation }) :
      Change before { before with loop, loads := before.loads ++ [true] }
  | unloaded {rom : Rom} {loop : FrameLoop ε}
      (session : loop.session = before.loop.session.loaded rom)
      (state : loop.state = before.loop.state) (bare : loop.renderer.resources = none) :
      Change before { before with loop, loads := before.loads ++ [false] }
  | interrupted {loop : FrameLoop ε} (attended : before.loop.Attended loop) :
      Change before { before with loop }

theorem mem_advanced {p : Interplay ε} {loop : FrameLoop ε} {position : Nat}
    {member entrant : Suspended} {outcome : Except RenderError Progress}
    (found : p.suspended[position]? = some member)
    (turn : member.callback.Turn p.loop outcome loop)
    (inside : entrant ∈ ({ p with loop }.advanced position member outcome).suspended) :
    ∃ former ∈ p.suspended, (former.number = entrant.number ∧ former.since = entrant.since ∧
        former.callback.generation = entrant.callback.generation) ∧
      (former = entrant ∨ entrant.callback.ticks < Callback.tickLimit) := by
  rcases List.mem_append.mp inside with going | other
  · obtain ⟨callback, left, rfl⟩ := List.mem_map.mp going
    obtain ⟨generation, counted⟩ := turn.rest_eq (Option.mem_toList.mp left)
    exact ⟨member, List.mem_of_getElem? found, ⟨rfl, rfl, generation.symm⟩, .inr counted⟩
  · exact ⟨entrant, List.mem_of_mem_eraseIdx other, ⟨rfl, rfl, rfl⟩, .inl rfl⟩

theorem advance_leads (position : Nat) (scene : Scene (Interplay ε)) :
    (advance position).Leads scene
      (fun _ after => match scene.own.suspended[position]? with
        | none => after = scene
        | some member => ∃ outcome loop, member.callback.Turn scene.own.loop outcome loop ∧
          after.own = { scene.own with loop }.advanced position member outcome)
      (fun failure _ => failure = .crashed) := by
  unfold advance
  rw [leads_bind, leads_own]
  cases scene.own.suspended[position]? with
  | none => rfl
  | some member =>
    simp only [leads_bind, leads_attempt, leads_onLoop, leads_update, leads_pure]
    refine (Callback.run_turns member.callback _).mono ?_ ?_
    · intro progress after turn
      exact ⟨.ok progress, after.own, turn, rfl⟩
    · intro failure after outcome
      rcases outcome with rfl | ⟨cause, rfl, turn⟩
      · trivial
      · exact ⟨.error cause, after.own, turn, rfl⟩

theorem perform_leads (move : Move κ) (scene : Scene (Interplay ε)) :
    (perform move).Leads scene (fun _ after => scene.own.Change after.own)
      (fun failure _ => failure = .crashed) := by
  cases move with
  | start host config now =>
    simp only [perform, leads_bind, leads_onLoop]
    refine (FrameLoop.begin_leads host config now _).mono ?_ fun _ _ impossible => impossible.elim
    intro begun inner taken
    split at taken
    next free =>
      obtain ⟨rfl, rfl⟩ := taken
      simp only [leads_bind, leads_update]
      refine (advance_leads 0 _).mono ?_ fun _ _ crashed => crashed
      intro _ after ⟨outcome, loop, turn, same⟩
      rw [same]
      have released : scene.own.loop.state.inFlight = false := by
        simpa using (Bool.and_eq_true_iff.mp free).2
      exact .started released ⟨rfl, rfl⟩ turn
    next =>
      obtain ⟨rfl, rfl⟩ := taken
      exact .unchanged
  | resume position =>
    refine (advance_leads position scene).mono ?_ fun _ _ crashed => crashed
    intro _ after turned
    cases found : scene.own.suspended[position]? with
    | none =>
      simp only [found] at turned
      rw [turned]
      exact .unchanged
    | some member =>
      simp only [found] at turned
      obtain ⟨outcome, loop, turn, same⟩ := turned
      rw [same]
      exact .resumed found turn
  | load rom =>
    simp only [perform, leads_bind, leads_attempt, leads_onLoop, leads_update, leads_pure]
    refine (FrameLoop.loadRom_leads rom _).mono ?_ ?_
    · intro _ after ⟨session, state, _⟩
      exact .loaded session (by rw [state, session]; rfl)
    · intro failure after ⟨session, state, bare⟩
      cases failure with
      | crashed => trivial
      | refused cause => exact .unloaded session state bare
  | interrupt interruption =>
    simp only [perform, leads_bind, leads_attempt, leads_onLoop, leads_pure]
    refine (interruption.action_leads _).mono ?_ ?_
    · exact fun _ _ attended => .interrupted attended
    · intro failure after attended
      cases failure with
      | crashed => trivial
      | refused cause => exact .interrupted attended

/-- After a load that worked the loop starts over with the program; the callbacks stay as they
are. -/
theorem perform_load_leads (rom : Rom) (scene : Scene (Interplay ε)) :
    (perform (.load rom : Move κ)).Leads scene
      (fun answer after => answer = .loaded (.ok ()) → ∃ loop : FrameLoop ε,
        after.own = { scene.own with loop, loads := scene.own.loads ++ [true] } ∧
        loop.session = scene.own.loop.session.loaded rom ∧
        loop.state = { generation := scene.own.loop.session.generation + 1 } ∧
        ∃ set, loop.renderer.resources = some set ∧ set.dims = loop.session.dims)
      (fun _ _ => True) := by
  simp only [perform, leads_bind, leads_attempt, leads_onLoop, leads_update, leads_pure]
  refine (FrameLoop.loadRom_leads rom _).mono ?_ ?_
  · intro _ after ⟨session, state, fitted⟩ _
    exact ⟨after.own, rfl, session, state, fitted⟩
  · intro failure _ _
    cases failure with
    | crashed => trivial
    | refused cause => exact nofun

theorem performAll_append (first second : List (Move κ)) :
    (performAll (first ++ second) : Act (Interplay ε) Unit) =
      performAll first >>= fun _ => performAll second := by
  exact List.forM_append

/-- What every change keeps holds after any moves. -/
theorem performAll_leads {Good : Interplay ε → Prop}
    (kept : ∀ before after, Good before → before.Change after → Good after)
    (moves : List (Move κ)) (scene : Scene (Interplay ε)) (good : Good scene.own) :
    (performAll moves).Leads scene (fun _ after => Good after.own)
      (fun failure _ => failure = .crashed) := by
  refine Leads.forM (fun move scene good => ?_) moves good
  rw [leads_bind]
  refine (perform_leads move scene).mono (fun _ after change => ?_) fun _ _ crashed => crashed
  exact kept _ _ good change

end Interplay
end FrameViewer
