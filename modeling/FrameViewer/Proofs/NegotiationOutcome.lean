import FrameViewer.Proofs.FirstFailure
import FrameViewer.Proofs.ListeningTiers
import FrameViewer.Proofs.NegotiationTurns

/-! The outcome of an application's negotiation. There is one negotiation at most and it has one
outcome: the session is shown with the renderer that was won, for good, or the application stays as it
was, with the one message of the failure and without any tier. -/

namespace FrameViewer
open Act

namespace Event.IsAside

theorem unheld (event : Event) (aside : event.IsAside) : event.part ≠ .holding :=
  fun part => aside (.inl (.inr part))

theorem unnegotiated (event : Event) (aside : event.IsAside) : event.part ≠ .negotiation :=
  fun part => aside (.inr part)

theorem untried (event : Event) (aside : event.IsAside) : event.tried? = none := by
  cases event with
  | notice notice =>
    cases notice with
    | trying tier => exact absurd rfl (unnegotiated _ aside)
    | _ => rfl
  | _ => rfl

end Event.IsAside

/-- What is told aside leaves all tiers as they are. -/
theorem Platform.Extends.vacant {others : List ResourceId} {tiers : Nat} {before after : Platform}
    (grown : before.Extends Event.IsAside after) (vacant : Vacant others tiers before.events.toList) :
    Vacant others tiers after.events.toList :=
  ⟨(grown.mono Event.IsAside.unheld).live.trans vacant.live,
    (grown.mono Event.IsAside.unnegotiated).openTiers.trans vacant.count⟩

/-- The probes that were asked come first in their order. -/
private theorem Negotiator.Found.asked_prefix {σ : Type} {dims : Dims} {probes nexts : List Probe}
    {scene last : Scene σ} {renderer : Renderer} {asked : List Tier}
    (found : Found dims probes scene renderer asked nexts last) : asked <+: probes.map Probe.tier := by
  cases found with
  | @intro early late _ probe _ _ _ _ split =>
    refine ⟨late.map Probe.tier, ?_⟩
    rw [split, List.map_append, List.map_cons, List.append_assoc]
    rfl

namespace Standing

/-- What the report tells of tiers as a negotiation over these probes goes on. No tier is tried but by
it, each once and in their order, and when it is lost no object of any tier is live. -/
def Accounts (probes : List Probe) : Standing → Platform → Prop
  | vacant, platform => platform.tried = [] ∧ Vacant [] 0 platform.events.toList
  | won renderer, platform =>
    platform.tried <+: probes.map Probe.tier ∧ renderer.backend.Listens
  | shown _ _, platform => platform.tried <+: probes.map Probe.tier
  | lost _, platform =>
    platform.tried = probes.map Probe.tier ∧ Vacant [] 0 platform.events.toList
  | broken, _ => True

variable {probes : List Probe} {bid : Bid}

theorem Accounts.aside {standing : Standing} {before after : Platform}
    (grown : before.Extends Event.IsAside after) (accounts : standing.Accounts probes before) :
    standing.Accounts probes after := by
  have tried : after.tried = before.tried := (grown.mono Event.IsAside.untried).tried
  cases standing with
  | broken => trivial
  | vacant => exact ⟨tried.trans accounts.1, grown.vacant accounts.2⟩
  | lost cause => exact ⟨tried.trans accounts.1, grown.vacant accounts.2⟩
  | won renderer => exact ⟨tried ▸ accounts.1, accounts.2⟩
  | shown size renderer =>
    rw [Accounts, tried]
    exact accounts

private theorem accounts_negotiates (same : bid.probes = probes) {platform : Platform}
    (accounts : vacant.Accounts probes platform) :
    (Negotiator.negotiate bid.session.dims).Leads ⟨{ probes := bid.probes }, platform⟩
      (fun _ after => ∃ renderer, after.own.active = some renderer ∧
        (won renderer).Accounts probes after.platform)
      fun failure after => (ofFailure failure).Accounts probes after.platform := by
  obtain ⟨untried, vacant⟩ := accounts
  subst same
  apply (Negotiator.negotiate_leads bid.session.dims (.idle vacant)).mono
  · intro _ after ⟨gained, _, _⟩
    obtain ⟨_, found, own, _, tried⟩ := id gained
    have active := congrArg Negotiator.active own
    refine ⟨_, active, ?_, gained.listens active⟩
    rw [tried, untried, List.nil_append]
    exact found.asked_prefix
  · intro failure after ⟨_, ends⟩
    cases failure with
    | crashed => trivial
    | refused cause =>
      obtain ⟨⟨_, _, _, _, _, _, tried⟩, left⟩ := ends
      refine ⟨?_, left⟩
      rw [tried, untried, List.nil_append]

/-- Drawing, building and releasing try no tier. -/
private theorem accounts_sized : Renderer.Sized fun size renderer => (shown size renderer).Accounts probes := by
  have untried {action : Act Renderer Unit} {first second : Dims}
      (emits : action.Emits Event.IsRendering) (scene : Scene Renderer)
      (accounts : (shown first scene.own).Accounts probes scene.platform) :
      action.Leads scene (fun _ after => (shown second after.own).Accounts probes after.platform)
        fun _ after => (shown second after.own).Accounts probes after.platform := by
    have still {after : Scene Renderer} (grown : scene.platform.Extends Event.IsRendering after.platform) :
        (shown second after.own).Accounts probes after.platform := by
      rw [Accounts, (grown.mono Event.IsRendering.untried).tried]
      exact accounts
    exact Leads.mono (emits scene) (fun _ _ => still) fun _ _ => still
  constructor
  · intro size
    exact
      { deaf := fun _ _ _ grown accounts => accounts.aside grown
        submit := fun pixels =>
          .of_leads (untried ((Renderer.submit_emits pixels).mono Event.IsDrawing.isRendering))
        rebuild := fun dims => .of_leads (untried (Renderer.rebuild_emits dims))
        teardown := .of_leads (untried Renderer.teardown_emits) }
  · exact fun size told scene => untried ((Renderer.resize_emits told).mono Event.IsDrawing.isRendering) scene

private theorem accounts_terms (same : bid.probes = probes) : bid.Terms (Accounts probes) where
  aside _ _ _ grown _ accounts := accounts.aside grown
  negotiates _ accounts := accounts_negotiates same accounts
  begins size scene accounts := by
    have drawn := (Renderer.resize_emits size scene).and (Renderer.resize_listens size accounts.2)
    apply drawn.mono
    · intro _ after ⟨grown, _⟩
      have rendering := grown.mono Event.IsDrawing.isRendering
      rw [Accounts, (rendering.mono Event.IsRendering.untried).tried]
      exact accounts.1
    · exact fun _ _ both => both.2
  sized := accounts_sized
  breaks _ _ _ := trivial

end Standing

namespace App

/-- As the session comes to be shown nothing was said of failures yet. -/
private theorem Reaches.unfailed {bid : Bid} {Holds : Standing → Platform → Prop} {renderer : Renderer}
    {scene : Scene App} (reaches : Reaches .underway scene) (promoted : bid.Promoted Holds renderer scene) :
    scene.platform.display.shown = [] ∧ scene.platform.display.raised = [] := by
  obtain ⟨s, stage, absent, idle, _⟩ := promoted.begins
  obtain ⟨course, _, fit⟩ : s.Reaches .underway _ _ := stage ▸ reaches.good
  cases course with
  | underway =>
    have stands : s.Underway scene.platform.display := fit.stands
    exact ⟨stands.shown, List.head?_eq_none_iff.mp (stands.waiting.symm.trans idle)⟩
  | ended first aftermath =>
    have ended : s.Ended scene.platform.display first aftermath := fit.stands
    exact absurd (ended.screen.symm.trans absent) nofun

/-- For any events in any order: how far the negotiation has come is a matter of which of them came.
The first event to resume the application starts it, and none starts another; before its outcome is in
the mailbox nothing is shown of a failure; the first event to look at the outcome takes it. Then the
session is shown with the renderer that was won, never to go back, and each failure on display is one
that the show has raised since; or the message of the failed negotiation is shown, that one alone, no
object of any tier is live, and nothing happens any more. The run breaks down only over the size of the
window, in the negotiation itself, or in the show. -/
theorem negotiation_has_one_outcome (settings : Settings) (probes : List Probe) (files : Files)
    (platform : Platform) (before : List AppEvent) (event : AppEvent) (after : List AppEvent) :
    (create settings probes files none).Leads (⟨(), platform.fresh⟩ : Scene Unit)
      (fun app begun => ∃ bid : Bid, bid.settings = settings ∧ bid.probes = probes ∧
        (handleAll before).Leads ⟨app, begun.platform⟩
          (fun _ early => ∃ plot, plot.juncture = Juncture.closed.after before ∧
            bid.Stands (Standing.Accounts probes) early plot ∧
            (handle event).Leads early
              (fun _ turned => ∃ next, next.juncture = plot.juncture.next event ∧
                bid.Turns (Standing.Accounts probes) plot event turned next ∧
                (plot.juncture ≠ .settled → ∀ renderer, next = .settled (.ok renderer) →
                  turned.platform.display.shown = [] ∧ turned.platform.display.raised = []) ∧
                (handleAll after).Leads turned
                  (fun _ late => ∃ later, later.juncture = next.juncture.after after ∧
                    bid.Runs (Standing.Accounts probes) next after late later ∧
                    ∀ s, late.own.2.stage = .showing s →
                      ∃ course : Course, course.Stands s late.platform.display)
                  fun failure last => failure = .crashed ∧ bid.Breaks last)
              fun failure last => failure = .crashed ∧ bid.Breaks last)
          fun failure last => failure = .crashed ∧ bid.Breaks last)
      fun _ _ => False := by
  have terms (bid : Bid) (same : bid.probes = probes) : bid.Terms (Standing.Accounts probes) :=
    Standing.accounts_terms same
  have fresh : Standing.vacant.Accounts probes platform.fresh := ⟨rfl, rfl, rfl⟩
  have created := (create_stands settings probes files none terms rfl fresh).and
    (@create_leads Unit settings probes files none platform ⟨(), platform.fresh⟩ rfl)
  apply created.mono
  · intro app begun ⟨⟨bid, same, probed, opens, stands⟩, reaches⟩
    have terms := terms bid probed
    refine ⟨bid, same, probed, ?_⟩
    apply ((bid.handleAll_runs terms before stands).and ((handleAll_advances before).leads reaches)).mono
    · intro _ early ⟨⟨plot, first⟩, reaches⟩
      refine ⟨plot, first.juncture opens, first.stands, ?_⟩
      apply ((bid.handle_turns terms event first.stands).and ((handle_advances event).leads reaches)).mono
      · intro _ turned ⟨⟨next, turns⟩, reaches⟩
        refine ⟨next, turns.juncture opens, turns, fun unsettled renderer won => ?_, ?_⟩
        · exact reaches.unfailed (turns.promoted unsettled renderer won)
        · apply ((bid.handleAll_runs terms after turns.stands).and ((handleAll_advances after).leads reaches)).mono
          · intro _ late ⟨⟨later, last⟩, reaches⟩
            refine ⟨later, last.juncture opens, last, fun s stage => ?_⟩
            obtain ⟨course, _, fit⟩ : s.Reaches .underway _ _ := stage ▸ reaches.good
            exact ⟨course, fit.stands⟩
          · exact fun _ _ both => ⟨both.2, both.1.2⟩
      · exact fun _ _ both => ⟨both.2, both.1.2⟩
    · exact fun _ _ both => ⟨both.2, both.1.2⟩
  · exact fun _ _ both => both.2

end App
end FrameViewer
