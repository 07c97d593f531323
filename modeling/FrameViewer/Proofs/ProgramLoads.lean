import FrameViewer.Engine.Scripted
import FrameViewer.Proofs.AllOrNothing
import FrameViewer.Proofs.EngineCalls
import FrameViewer.Proofs.LoopHandling
import FrameViewer.Proofs.TurnReports

/-! What a load does to a loop, whatever was done to the loop before. One that works starts the loop
over with a set of resources for the new engine; the tier is asked for nothing when the set fits
already. One that fails has made the new engine all the same, and leaves the renderer bare until a
load or a rebuild works. -/

namespace FrameViewer
open Act

namespace ResourceSet

private theorem step_enters {typed : Nat → ResourceId} {action : Act Backend Nat} (enters : Enters typed action)
    (created : List ResourceId) (scene : Scene Backend) :
    (step created action).Leads scene
      (fun number after =>
        after.platform.ledger = scene.platform.ledger ++ [.handedOut (typed number)])
      fun _ _ => True := by
  rw [step, leads_onFailure]
  refine (enters scene).mono (fun _ _ entered => entered) fun _ _ _ => ?_
  exact .of_forall (fun _ _ => trivial) fun _ _ => trivial

private theorem buffer_enters (label : String) (usage : BufferUsage) (contents : Bytes) :
    Enters .buffer (buffer label usage contents) :=
  .bind .own fun _ => .bind (.checked _) fun _ => (Creation.buffer _).make_enters

/-- A build that works enters the objects of its set in the order of their creation. -/
private theorem build_enters (dims : Dims) (scene : Scene Backend) :
    (build dims).Leads scene
      (fun set last => last.platform.ledger = scene.platform.ledger ++ set.ids.reverse.map .handedOut)
      fun _ _ => True := by
  unfold build
  split
  · trivial
  simp only [leads_bind, leads_own, leads_notify, leads_pure]
  refine (step_enters (buffer_enters _ _ _) _ _).mono (fun positions _ first => ?_) fun _ _ _ => trivial
  refine (step_enters (buffer_enters _ _ _) _ _).mono (fun colors _ second => ?_) fun _ _ _ => trivial
  refine (step_enters (buffer_enters _ _ _) _ _).mono (fun indices _ third => ?_) fun _ _ _ => trivial
  refine (step_enters (buffer_enters _ _ _) _ _).mono (fun uniforms _ fourth => ?_) fun _ _ _ => trivial
  refine (step_enters (Creation.texture _).make_enters _ _).mono (fun texture _ fifth => ?_)
    fun _ _ _ => trivial
  refine (step_enters (Creation.sampler _).make_enters _ _).mono (fun sampler _ sixth => ?_)
    fun _ _ _ => trivial
  refine (step_enters (Creation.pipeline _).make_enters _ _).mono (fun pipeline _ seventh => ?_)
    fun _ _ _ => trivial
  rw [Platform.ledger_record, seventh, sixth, fifth, fourth, third, second, first]
  simp [ids, Event.entry?, Creation.typed]

end ResourceSet

namespace Renderer

variable {dims : Dims} {scene : Scene Renderer} {done : Unit → Scene Renderer → Prop}
  {failed : Failure → Scene Renderer → Prop}

/-- A rebuild releases what the renderer owns, and builds on the same tier. -/
theorem leads_rebuild :
    (rebuild dims).Leads scene done failed ↔
      (ResourceSet.releaseAll scene.own.owned).Leads ⟨scene.own.backend, scene.platform⟩
        (fun _ torn => (ResourceSet.build dims).Leads torn
          (fun set built => done () ⟨⟨built.own, some set⟩, built.platform⟩)
          fun failure built => failed failure ⟨⟨built.own, none⟩, built.platform⟩)
        fun failure torn => failed failure ⟨⟨torn.own, none⟩, torn.platform⟩ := by
  unfold rebuild teardown owned
  rw [leads_bind, leads_bind, leads_own]
  cases bare : scene.own.resources with
  | none =>
    simp only [onBackend, leads_bind, leads_own, leads_within, leads_update, leads_pure,
      Option.map_none, Option.getD_none, ResourceSet.releaseAll_nil, bare]
  | some set =>
    simp only [onBackend, ResourceSet.release, leads_bind, leads_own, leads_setOwn, leads_within,
      leads_update, Option.map_some, Option.getD_some]

/-- The resources were replaced: all the old objects had been given back by the time the first of the
new ones was asked for. -/
inductive Replaced (dims : Dims) (before : Scene Renderer) : Scene Renderer → Prop
  | intro {torn built : Scene Backend} {set : ResourceSet}
      (released : ResourceSet.releaseAll before.own.owned ⟨before.own.backend, before.platform⟩ =
        .ok () torn)
      (given : torn.platform.ledger = before.platform.ledger ++ before.own.owned.map .takenBack)
      (empty : torn.own.live = 0) (created : ResourceSet.build dims torn = .ok set built)
      (handed : built.platform.ledger = torn.platform.ledger ++ set.ids.reverse.map .handedOut) :
      Replaced dims before ⟨⟨built.own, some set⟩, built.platform⟩

variable {base : Platform}

private theorem rebuild_replaces (dims : Dims) (accounted : Accounted ⟨7, {}, base⟩ scene) :
    (rebuild dims).Leads scene (fun _ after => Replaced dims scene after) fun _ _ => True := by
  have listed : Booked ⟨7, {}, base⟩ (scene.own.owned ++ []) ⟨scene.own.backend, scene.platform⟩ := by
    rwa [List.append_nil]
  rw [leads_rebuild]
  refine ((leads_ran _ _).and (ResourceSet.releaseAll_enters _ listed)).mono ?_ fun _ _ _ => trivial
  intro _ torn ⟨released, gone, given⟩
  refine ((leads_ran _ torn).and (ResourceSet.build_enters dims torn)).mono ?_ fun _ _ _ => trivial
  intro set built ⟨created, handed⟩
  exact .intro released given (Orderly.of_booked gone).2.live_eq created handed

/-- A replacement shows in the ledger. -/
theorem Replaced.drawn {before after : Scene Renderer} {base : Platform}
    (quiet : base.Extends Event.IsUndrawn before.platform) (replaced : Replaced dims before after) :
    ¬base.Extends Event.IsUndrawn after.platform := by
  intro undrawn
  obtain @⟨torn, built, set, -, given, -, -, handed⟩ := replaced
  have unentered (event : Event) (undrawn : event.IsUndrawn) : event.entry? = none := by
    cases event with
    | handedOut _ _ _ | takenBack _ _ _ => exact absurd (.inr rfl) undrawn
    | _ => rfl
  have early : before.platform.ledger = base.ledger := quiet.filterMap unentered
  have same : built.platform.ledger = base.ledger := undrawn.filterMap unentered
  rw [handed, given, early, List.append_assoc] at same
  simpa [ResourceSet.ids] using List.append_right_eq_self.mp same

theorem Accounted.live_eq (accounted : Accounted ⟨7, {}, base⟩ scene) :
    scene.own.live = scene.own.owned.length :=
  (Orderly.of_booked accounted).2.live_eq

theorem Accounted.undrawn {platform : Platform} (accounted : Accounted ⟨7, {}, base⟩ scene)
    (quiet : scene.platform.Extends Event.IsUndrawn platform) :
    Accounted ⟨7, {}, base⟩ ⟨scene.own, platform⟩ :=
  accounted.unheld (quiet.mono fun _ undrawn held => undrawn (.inr held)) fun _ backs => backs

/-- Without resources a frame is refused, and nothing else comes of it. -/
private theorem submit_of_bare (pixels : Bytes) (scene : Scene Renderer) (bare : scene.own.resources = none) :
    submit pixels scene = .error (.refused tornDown) scene := by
  have refused : (submit pixels).Leads scene (fun _ _ => False)
      fun failure after => failure = .refused tornDown ∧ after = scene := by
    unfold submit
    rw [leads_bind, leads_own, bare]
    exact ⟨rfl, rfl⟩
  unfold Leads at refused
  cases ran : submit pixels scene with
  | ok value after => simp only [ran] at refused
  | error failure after =>
    simp only [ran] at refused
    rw [refused.1, refused.2]

/-- A renderer at its start: built on a tier without objects, or left without any tier. -/
inductive Fresh : Renderer → Platform → Prop
  | built {backend : Backend} {dims : Dims} {platform : Platform} {renderer : Renderer}
      {after : Scene Unit} (empty : backend.live = 0)
      (ran : build backend dims ⟨(), platform⟩ = .ok renderer after) : Fresh renderer after.platform
  | inert (platform : Platform) : Fresh inert platform

theorem Fresh.accounted {renderer : Renderer} {platform : Platform} (fresh : renderer.Fresh platform) :
    ∃ base, Accounted ⟨7, {}, base⟩ ⟨renderer, platform⟩ := by
  cases fresh with
  | @built backend dims before _ after empty ran =>
    have start : Booked ⟨7, {}, before⟩ [] ⟨backend, before⟩ :=
      ⟨[], (List.append_nil _).symm, trivial, rfl, Backend.backs_of_live_eq_zero empty⟩
    exact ⟨before, (leads_of_ok ran).mp (build_accounted (Nat.le_refl 7) start)⟩
  | inert => exact ⟨platform, [], (List.append_nil _).symm, trivial, rfl, rfl⟩

end Renderer

variable {ε κ : Type} [Engine ε] [BEq κ]

namespace FrameLoop

def announced (l : FrameLoop ε) (rom : Rom) (platform : Platform) : Platform :=
  let engine := l.session.factory l.session.made
  ((platform.record (.notice (.loadingRom rom.name rom.bytes.size))).record
    (.engine (Engine.serial engine) (.create (Engine.screen engine).dims))).record
      (.engine (Engine.serial engine) (.load rom.bytes))

private theorem announced_undrawn (l : FrameLoop ε) (rom : Rom) (platform : Platform) :
    platform.Extends Event.IsUndrawn (l.announced rom platform) := by
  refine .trans (.trans (.record _ ?_) (.record _ ?_)) (.record _ ?_) <;> exact nofun

private theorem engineCalls_announced (l : FrameLoop ε) (rom : Rom) (platform : Platform) :
    (l.announced rom platform).engineCalls = [.load rom.bytes] := by
  simp [announced, Event.addCall]

def reloaded (l : FrameLoop ε) (rom : Rom) : FrameLoop ε :=
  { l with session := l.session.loaded rom }

def restarted (l : FrameLoop ε) : FrameLoop ε :=
  { l with state := { generation := l.session.generation } }

variable {rom : Rom} {scene : Scene (FrameLoop ε)} {done : Unit → Scene (FrameLoop ε) → Prop}
  {failed : Failure → Scene (FrameLoop ε) → Prop}

private theorem leads_loadRom :
    (loadRom rom).Leads scene done failed ↔
      if scene.own.renderer.resources.map (·.dims) ≠ some (scene.own.session.loaded rom).dims then
        (Renderer.rebuild (scene.own.session.loaded rom).dims).Leads
          ⟨scene.own.renderer, (scene.own.announced rom scene.platform).record
            (.notice (.dimsChanged (scene.own.session.loaded rom).dims))⟩
          (fun _ last => done ()
            ⟨{ scene.own.reloaded rom with renderer := last.own }.restarted, last.platform⟩)
          fun failure last =>
            failed failure ⟨{ scene.own.reloaded rom with renderer := last.own }, last.platform⟩
      else done () ⟨(scene.own.reloaded rom).restarted, scene.own.announced rom scene.platform⟩ := by
  unfold loadRom onSession onRenderer Session.loadRom Session.make Session.reportCall
  simp only [leads_bind, leads_own, leads_within, leads_notify, leads_emit, leads_setOwn, leads_pure]
  rw [leads_ite]
  simp only [leads_bind, leads_notify, leads_own, leads_within, leads_update]
  rfl

def called (l : FrameLoop ε) (rom : Rom) (platform : Platform) : Platform :=
  (l.announced rom platform).record (.notice (.dimsChanged (l.session.loaded rom).dims))

private theorem called_undrawn (l : FrameLoop ε) (rom : Rom) (platform : Platform) :
    platform.Extends Event.IsUndrawn (l.called rom platform) :=
  (l.announced_undrawn rom platform).trans (.record _ nofun)

/-- What a load leaves that worked. -/
structure Restarted (rom : Rom) (before after : Scene (FrameLoop ε)) : Prop where
  session : after.own.session = before.own.session.loaded rom
  /-- All that the new engine has heard of. -/
  heard : after.platform.engineCalls = [.load rom.bytes]
  keys : after.own.session.keys = {}
  state : after.own.state = { generation := after.own.session.generation }
  built : ∃ set, after.own.renderer.resources = some set ∧ set.dims = after.own.session.dims
  live : after.own.renderer.live = 7
  asked : ¬before.platform.Extends Event.IsUndrawn after.platform ↔
    before.own.renderer.resources.map (·.dims) ≠ some after.own.session.dims
  replaced : before.own.renderer.resources.map (·.dims) ≠ some after.own.session.dims →
    ∃ told, before.platform.Extends Event.IsUndrawn told ∧
      Renderer.Replaced after.own.session.dims ⟨before.own.renderer, told⟩
        ⟨after.own.renderer, after.platform⟩

private theorem loadRom_restarts {base : Platform}
    (accounted : Renderer.Accounted ⟨7, {}, base⟩ ⟨scene.own.renderer, scene.platform⟩) :
    (loadRom rom).Leads scene (fun _ after => Restarted rom scene after)
      fun _ after => after.own.session = scene.own.session.loaded rom ∧
        after.own.state = scene.own.state ∧ after.own.renderer.resources = none ∧
        after.own.renderer.live = 0 := by
  have lasting : Renderer.Lasting fun r p => Renderer.Accounted ⟨7, {}, base⟩ ⟨r, p⟩ :=
    Renderer.accounted_lasting (Nat.le_refl 7)
  have counted := (loadRom_leads rom scene).and (Act.Preserves.leads (loadRom_bears lasting rom) accounted)
  have seen : (loadRom rom).Leads scene
      (fun _ after => after.platform.engineCalls = [.load rom.bytes] ∧
        (¬scene.platform.Extends Event.IsUndrawn after.platform ↔
          scene.own.renderer.resources.map (·.dims) ≠ some (scene.own.session.loaded rom).dims) ∧
        (scene.own.renderer.resources.map (·.dims) ≠ some (scene.own.session.loaded rom).dims →
          ∃ told, scene.platform.Extends Event.IsUndrawn told ∧
            Renderer.Replaced (scene.own.session.loaded rom).dims ⟨scene.own.renderer, told⟩
              ⟨after.own.renderer, after.platform⟩))
      fun _ _ => True := by
    rw [leads_loadRom]
    split
    next other =>
      have quiet := scene.own.called_undrawn rom scene.platform
      have rebuilt := (Renderer.rebuild_replaces (scene.own.session.loaded rom).dims
        (accounted.undrawn quiet)).and (Renderer.rebuild_emits _ _)
      refine rebuilt.mono (fun _ after both => ?_) fun _ _ _ => trivial
      obtain ⟨replaced, grown⟩ := both
      refine ⟨?_, ?_, fun _ => ⟨_, quiet, replaced⟩⟩
      · rw [grown.engineCalls_eq fun event rendering => ?_]
        · exact (Platform.engineCalls_record _ _).trans (engineCalls_announced ..)
        · rcases rendering with part | part <;> simp [show event.part = _ from part]
      · exact ⟨fun _ => other, fun _ => replaced.drawn quiet⟩
    next fits =>
      have quiet := scene.own.announced_undrawn rom scene.platform
      exact ⟨engineCalls_announced .., ⟨fun drawn => absurd quiet drawn, fun other => absurd other fits⟩,
        fun other => absurd other fits⟩
  refine (counted.and seen).mono ?_ ?_
  · intro _ after restarted
    obtain ⟨⟨⟨session, state, set, built, dims⟩, still⟩, heard, asked, replaced⟩ := restarted
    have live := still.live_eq
    rw [← session] at asked replaced
    refine ⟨session, heard, ?_, ?_, ⟨set, built, dims⟩, ?_, asked, replaced⟩
    · rw [session]
      rfl
    · rw [state, session]
      rfl
    · rw [live, Renderer.owned, built]
      rfl
  · intro _ after failed
    obtain ⟨⟨⟨session, state, bare⟩, still⟩, _⟩ := failed
    refine ⟨session, state, bare, ?_⟩
    rw [still.live_eq, Renderer.owned, bare]
    rfl

/-- Without resources a load builds on the tier at hand, whatever the dimensions are. -/
private theorem loadRom_of_bare {set : ResourceSet} {built : Scene Backend}
    (bare : scene.own.renderer.resources = none)
    (created : ResourceSet.build (scene.own.session.loaded rom).dims
      ⟨scene.own.renderer.backend, scene.own.called rom scene.platform⟩ = .ok set built) :
    loadRom rom scene = .ok ()
      ⟨{ scene.own.reloaded rom with renderer := ⟨built.own, some set⟩ }.restarted, built.platform⟩ := by
  apply Leads.eq_ok
  have owned : scene.own.renderer.owned = [] := by rw [Renderer.owned, bare, Option.map_none, Option.getD_none]
  rw [leads_loadRom, bare, Option.map_none, if_pos (Option.some_ne_none _).symm,
    Renderer.leads_rebuild, owned, ResourceSet.releaseAll_nil, leads_pure, ← called, leads_of_ok created]
  exact ⟨rfl, rfl⟩

end FrameLoop

namespace Interplay

/-- How a loop stands whose renderer has no resources. -/
structure Barren (κ : Type) [BEq κ] (scene : Scene (Interplay ε)) : Prop where
  /-- A frame is refused, and nothing else comes of it. -/
  refuses : ∀ pixels, Renderer.submit pixels ⟨scene.own.loop.renderer, scene.platform⟩ =
    .error (.refused Renderer.tornDown) ⟨scene.own.loop.renderer, scene.platform⟩
  /-- A load whose objects the tier creates works, whatever the dimensions are. -/
  restores : ∀ rom : Rom, ∃ told, scene.platform.Extends Event.IsUndrawn told ∧
    ∀ set built, ResourceSet.build (scene.own.loop.session.loaded rom).dims
        ⟨scene.own.loop.renderer.backend, told⟩ = .ok set built →
      ∃ restored, perform (.load rom : Move κ) scene = .ok (.loaded (.ok ())) restored ∧
        restored.own.loop.renderer = ⟨built.own, some set⟩

private theorem Barren.of_bare {scene : Scene (Interplay ε)}
    (bare : scene.own.loop.renderer.resources = none) : Barren κ scene := by
  refine ⟨fun pixels => Renderer.submit_of_bare pixels _ bare, fun rom => ?_⟩
  refine ⟨_, scene.own.loop.called_undrawn rom scene.platform, fun set built created => ?_⟩
  let loop : FrameLoop ε :=
    { scene.own.loop.reloaded rom with renderer := ⟨built.own, some set⟩ }.restarted
  have loaded : FrameLoop.loadRom rom ⟨scene.own.loop, scene.platform⟩ = .ok () ⟨loop, built.platform⟩ :=
    FrameLoop.loadRom_of_bare bare created
  refine ⟨⟨{ scene.own with loop, loads := scene.own.loads ++ [true] }, built.platform⟩, ?_, rfl⟩
  apply Leads.eq_ok
  simp only [perform, leads_bind, leads_attempt, leads_onLoop, leads_of_ok loaded, leads_update,
    leads_pure]
  exact ⟨trivial, rfl⟩

/-- What a load leaves that did not work: the program is in the session, the loop's state is as it
was, and the renderer is bare until a load or a rebuild works. -/
structure Bereft (κ : Type) [BEq κ] (rom : Rom) (before after : Scene (Interplay ε)) : Prop where
  session : after.own.loop.session = before.own.loop.session.loaded rom
  state : after.own.loop.state = before.own.loop.state
  live : after.own.loop.renderer.live = 0
  barren : ∀ further : List (Handling κ), (handleAll further).Leads after
    (fun restored last => restored = false → Barren κ last) fun failure _ => failure = .crashed

/-- Whatever was done to a loop and its renderer: a load that works leaves an engine that was given
the program and nothing else, a loop that starts over, and seven objects of the engine's dimensions.
The tier is asked for something exactly when the renderer had none of these dimensions, and then the
old objects are released before the first new one is asked for. A load that fails leaves no object.
From then on every frame is refused without a word to the tier until a load or a rebuild works, and
a load works on the same tier as soon as that creates the objects. -/
theorem load_restarts_or_leaves_bare {renderer : Renderer} {platform : Platform}
    (fresh : renderer.Fresh platform) (session : Session ε) (past : List (Handling κ)) :
    (handleAll past).Leads ⟨.ofSession session renderer, platform⟩
      (fun _ before => ∀ rom : Rom, (perform (.load rom : Move κ)).Leads before
        (fun answer after =>
          (answer = .loaded (.ok ()) ∧
            FrameLoop.Restarted rom ⟨before.own.loop, before.platform⟩
              ⟨after.own.loop, after.platform⟩) ∨
          ∃ cause, answer = .loaded (.error cause) ∧ Bereft κ rom before after)
        fun failure _ => failure = .crashed)
      fun failure _ => failure = .crashed := by
  obtain ⟨base, start⟩ := fresh.accounted
  have lasting : Renderer.Lasting fun r p => Renderer.Accounted ⟨7, {}, base⟩ ⟨r, p⟩ :=
    Renderer.accounted_lasting (Nat.le_refl 7)
  have resized (size : Dims) : Act.Preserves (fun r p => Renderer.Accounted ⟨7, {}, base⟩ ⟨r, p⟩)
      (Renderer.resize size) :=
    .of_leads fun _ accounted => Renderer.resize_accounted size accounted
  have run : (handleAll past).Leads ⟨Interplay.ofSession session renderer, platform⟩ _ _ :=
    Act.Preserves.leads (handleAll_bears lasting resized past) start
  refine (run.and (handleAll_crashes past _)).mono ?_ fun _ _ both => both.2
  intro _ before both rom
  obtain ⟨accounted, -⟩ := both
  simp only [perform, leads_bind, leads_attempt, leads_onLoop, leads_update, leads_pure]
  refine (FrameLoop.loadRom_restarts accounted).mono (fun _ _ restarted => .inl ⟨trivial, restarted⟩) ?_
  intro failure after failed
  obtain ⟨session, state, bare, live⟩ := failed
  cases failure with
  | crashed => trivial
  | refused cause =>
    refine .inr ⟨cause, rfl, session, state, live, fun further => ?_⟩
    refine ((handleAll_stays_bare further _ bare).and (handleAll_crashes further _)).mono ?_ ?_
    · exact fun _ _ both unrestored => .of_bare (both.1 unrestored)
    · exact fun _ _ both => both.2

/-- A session whose screens are by turns two and four pixels wide. -/
@[irreducible] def widening : Session ScriptedEngine :=
  let script (dims : Dims) : EngineScript :=
    { dims, size := dims.area, steps := List.replicate 9 (.tick {}) }
  let factory := ScriptedEngine.factory [script ⟨2, 1⟩, script ⟨4, 1⟩, script ⟨2, 1⟩, script ⟨4, 1⟩]
  { engine := factory 0, factory, made := 1 }

/-- A callback pauses, a load fails, the renderer is rebuilt and fails at an upload, and a program is
loaded behind the loop's back. -/
def roughStart : List (Handling Unit) :=
  [.move (.start .display {} (millis 0)), .move (.load ⟨"wide", #[1]⟩), .use (.rebuild ⟨2, 1⟩),
   .use (.submit #[0, 1]), .swap ⟨"narrow", #[]⟩, .move (.interrupt (.resize ⟨9, 9⟩))]

theorem load_restarts_or_leaves_bare_on_faulty_tier :
    ∃ renderer built,
      (Renderer.build Renderer.faultyTier ⟨2, 1⟩ : Act Unit Renderer) ⟨(), {}⟩ = .ok renderer built ∧
      renderer.Fresh built.platform ∧
      (handleAll roughStart).Leads ⟨.ofSession widening renderer, built.platform⟩
        (fun _ before => ∀ rom : Rom, (perform (.load rom : Move Unit)).Leads before
          (fun answer after =>
            (answer = .loaded (.ok ()) ∧
              FrameLoop.Restarted rom ⟨before.own.loop, before.platform⟩
                ⟨after.own.loop, after.platform⟩) ∨
            ∃ cause, answer = .loaded (.error cause) ∧ Bereft Unit rom before after)
          fun failure _ => failure = .crashed)
        fun failure _ => failure = .crashed := by
  have works : (Renderer.build Renderer.faultyTier ⟨2, 1⟩ : Act Unit Renderer).Leads ⟨(), {}⟩
      (fun _ _ => True) fun _ _ => False := by
    unfold Renderer.faultyTier
    decide +kernel
  have empty : Renderer.faultyTier.live = 0 := by
    unfold Renderer.faultyTier
    rfl
  unfold Leads at works
  cases ran : (Renderer.build Renderer.faultyTier ⟨2, 1⟩ : Act Unit Renderer) ⟨(), {}⟩ with
  | error failure after => simp only [ran] at works
  | ok renderer built =>
    have fresh : renderer.Fresh built.platform := .built empty ran
    exact ⟨renderer, built, rfl, fresh, load_restarts_or_leaves_bare fresh widening roughStart⟩

end Interplay
end FrameViewer
