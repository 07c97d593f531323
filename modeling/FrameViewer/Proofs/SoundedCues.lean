import FrameViewer.Audio.Output
import FrameViewer.Proofs.ActionOutcomes

/-! What becomes of a beep that is due. A bell rings once, an output that is not open stays silent,
and one that is open gets the blocks of the beep as far as there is room for them. -/

namespace FrameViewer

def Platform.stream? (platform : Platform) : Option Audio.Stream :=
  match platform.cue with
  | .bell => none
  | .speaker output => output.stream

namespace Audio
open Act

def Stream.room (stream : Stream) : Nat :=
  queueLength - stream.queue.length

def Stream.fed (stream : Stream) (blocks : List Block) : Stream :=
  { stream with queue := stream.queue ++ blocks.take stream.room }

/-- The platform after a beep, by what there was to play it with. -/
inductive Beeped (before : Platform) : Platform → Prop where
  | rung (bell : before.cue = .bell) : Beeped before ((before.record .cued).record .beep)
  | unheard {output : Output} (speaker : before.cue = .speaker output)
      (closed : output.stream = none) : Beeped before (before.record .cued)
  | queued {output : Output} {stream : Stream} {blocks : List Block}
      (speaker : before.cue = .speaker output) (opened : output.stream = some stream)
      (wave : squareWave? stream.rate = some blocks) (fits : blocks.length ≤ stream.room) :
      Beeped before { before.record .cued with
        cue := .speaker { output with stream := some (stream.fed blocks) } }
  | cut {output : Output} {stream : Stream} {blocks : List Block}
      (speaker : before.cue = .speaker output) (opened : output.stream = some stream)
      (wave : squareWave? stream.rate = some blocks) (full : stream.room < blocks.length) :
      Beeped before (({ before.record .cued with
        cue := .speaker { output with stream := some (stream.fed blocks) } } : Platform).record
          (.notice .beepCut))

/-- Whatever plays it, a beep is one cue to those who look for cues, and nothing else. -/
theorem Beeped.filterMap {μ : Type} {read : Event → Option μ} {mark : μ} {before after : Platform}
    (beeped : Beeped before after) (cued : read .cued = some mark) (beep : read .beep = none)
    (beepCut : read (.notice .beepCut) = none) :
    after.events.toList.filterMap read = before.events.toList.filterMap read ++ [mark] := by
  cases beeped <;> simp [Platform.record, cued, beep, beepCut]

/-- A beep comes to that unless it is too long for its words at the rate of an open output. -/
theorem beep_sounds {σ : Type} (scene : Scene σ) :
    beep.Leads scene
      (fun _ after => after.own = scene.own ∧ Beeped scene.platform after.platform)
      fun failure after => failure = .crashed ∧ after = ⟨scene.own, scene.platform.record .cued⟩ ∧
        ∃ stream, scene.platform.stream? = some stream ∧ squareWave? stream.rate = none := by
  rw [beep, leads_bind, leads_emit, leads_bind, leads_platform,
    show (scene.platform.record .cued).cue = scene.platform.cue from rfl]
  cases cue : scene.platform.cue with
  | bell => exact ⟨rfl, .rung cue⟩
  | speaker output =>
    simp only
    cases open? : output.stream with
    | none => exact ⟨rfl, .unheard cue open?⟩
    | some stream =>
      rw [leads_bind, leads_checked]
      cases wave : squareWave? stream.rate with
      | none =>
        refine ⟨rfl, rfl, stream, ?_, wave⟩
        rw [Platform.stream?, cue]
        exact open?
      | some blocks =>
        simp only [enqueue, setOutput, leads_bind, leads_updatePlatform, leads_ite]
        split
        next full => exact ⟨rfl, .cut cue open? wave full⟩
        next fits => exact ⟨rfl, .queued cue open? wave (Nat.not_lt.mp fits)⟩

theorem beep_leads {σ : Type} (scene : Scene σ) :
    beep.Leads scene (fun _ after => after.own = scene.own) fun failure _ => failure = .crashed :=
  (beep_sounds scene).mono (fun _ _ sounded => sounded.1) fun _ _ failed => failed.1

end Audio
end FrameViewer
