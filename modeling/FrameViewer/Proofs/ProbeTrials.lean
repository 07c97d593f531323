import FrameViewer.Proofs.SharedBooks

/-! The trials of a negotiation. A probe that is asked gives a renderer or declines, and whichever it
is, it leaves what other tiers hold as it was. -/

namespace FrameViewer
open Act

variable {σ α : Type}

def Scene.told (scene : Scene σ) (notice : Notice) : Scene σ :=
  ⟨scene.own, scene.platform.record (.notice notice)⟩

def Platform.tried (platform : Platform) : List Tier :=
  platform.events.toList.filterMap Event.tried?

namespace Platform

@[simp] theorem tried_trying (platform : Platform) (tier : Tier) :
    (platform.record (.notice (.trying tier))).tried = platform.tried ++ [tier] := by
  simp [tried, record, Event.tried?]

theorem tried_record (platform : Platform) {event : Event} (untried : event.tried? = none) :
    (platform.record event).tried = platform.tried := by
  simp [tried, record, untried]

theorem Extends.tried {before after : Platform} (grown : before.Extends (·.tried? = none) after) :
    after.tried = before.tried :=
  grown.filterMap fun _ untried => untried

end Platform

/-- Besides the objects `others` the renderer has its own, which its tier holds, and its tier is open
besides `tiers` others. -/
structure Renderer.Holding (others : List ResourceId) (tiers : Nat) (r : Renderer)
    (platform : Platform) : Prop where
  accounted : ∃ start : Platform, Accounted ⟨7, {}, start⟩ ⟨r, platform⟩ ∧
    (Books.read {} start.events.toList).live = others
  count : platform.openTiers = tiers + r.tiers

namespace Renderer.Holding

variable {others : List ResourceId} {tiers : Nat} {r : Renderer} {platform after : Platform}

theorem live (holding : r.Holding others tiers platform) :
    (Books.read {} platform.events.toList).live = r.owned ++ others := by
  obtain ⟨⟨start, accounted, apart⟩, _⟩ := holding
  exact Platform.live_of_booked accounted apart

theorem holds (holding : r.Holding others tiers platform) : r.backend.Holds r.owned := by
  obtain ⟨⟨start, accounted, _⟩, _⟩ := holding
  exact (Orderly.of_booked accounted).2

theorem notice (holding : r.Holding others tiers platform) (notice : Notice)
    (untried : (Event.notice notice).tried? = none) :
    platform.Sparing others tiers (platform.record (.notice notice)) ∧
      r.Holding others tiers (platform.record (.notice notice)) := by
  obtain ⟨⟨start, accounted, apart⟩, count⟩ := holding
  have later : Accounted ⟨7, {}, start⟩ ⟨r, platform.record (.notice notice)⟩ :=
    Booked.unheld accounted (.record _ notice.unheld) fun _ backs => backs
  obtain ⟨log, same, _⟩ := accounted
  refine ⟨.of_booked later apart ⟨log, same.symm⟩ (.record _ untried), ⟨start, later, apart⟩, ?_⟩
  exact (platform.openTiers_notice notice).trans count

end Renderer.Holding

namespace Probe

inductive Gives (dims : Dims) (probe next : Probe) (renderer : Renderer) (before after : Scene σ) :
    Prop where
  | built {backend : Backend} {middle : Scene σ}
    (acquired : probe.acquire before = .ok (.ok backend, next) middle)
    (built : Renderer.build backend dims middle = .ok renderer after)

inductive Declines (dims : Dims) (probe next : Probe) (cause : RenderError)
    (before after : Scene σ) : Prop where
  | unacquired (refused : probe.acquire before = .ok (.error cause, next) after)
  | unbuilt {backend : Backend} {middle : Scene σ}
    (acquired : probe.acquire before = .ok (.ok backend, next) middle)
    (refused : Renderer.build backend dims middle = .error (.refused cause) after)

inductive Crashes (dims : Dims) (probe : Probe) (before after : Scene σ) : Prop where
  | acquiring (crashed : probe.acquire before = .error .crashed after)
  | building {backend : Backend} {next : Probe} {middle : Scene σ}
    (acquired : probe.acquire before = .ok (.ok backend, next) middle)
    (crashed : Renderer.build backend dims middle = .error .crashed after)

section Trial

variable {dims : Dims} {probe next again : Probe} {renderer : Renderer} {cause : RenderError}
  {before after last : Scene σ}

private theorem Declines.not_gives (declines : probe.Declines dims next cause before after) :
    ¬ probe.Gives dims again renderer before last := by
  rintro ⟨acquired, built⟩
  cases declines with
  | unacquired refused =>
    rw [refused] at acquired
    cases acquired
  | unbuilt first refused =>
    rw [first] at acquired
    cases acquired
    rw [refused] at built
    cases built

theorem Declines.unique {other : RenderError} (declines : probe.Declines dims next cause before after)
    (declined : probe.Declines dims again other before last) :
    next = again ∧ cause = other ∧ after = last := by
  cases declines with
  | unacquired refused =>
    cases declined with
    | unacquired same =>
      rw [refused] at same
      cases same
      exact ⟨rfl, rfl, rfl⟩
    | unbuilt acquired _ =>
      rw [refused] at acquired
      cases acquired
  | unbuilt acquired refused =>
    cases declined with
    | unacquired same =>
      rw [acquired] at same
      cases same
    | unbuilt same later =>
      rw [acquired] at same
      cases same
      rw [refused] at later
      cases later
      exact ⟨rfl, rfl, rfl⟩

end Trial

section Books

variable {dims : Dims} {probe next : Probe} {backend : Backend} {renderer : Renderer}
  {cause : RenderError} {others : List ResourceId} {tiers : Nat} {before middle after : Scene σ}

/-- Acquiring a tier hands out no object and tries no tier. -/
theorem acquire_extends (probe : Probe) :
    (probe.acquire : Act σ _).Emits fun event => event.tried? = none ∧ event.part ≠ .holding := by
  refine probe.acquire_emits (fun event drawing => ?_) fun _ => ⟨rfl, nofun⟩
  exact ⟨Event.IsRendering.untried event drawing.isRendering, drawing.unheld⟩

private theorem build_untried (backend : Backend) (dims : Dims) :
    (Renderer.build backend dims : Act σ Renderer).Emits (·.tried? = none) :=
  Renderer.build_emits Event.IsRendering.untried (fun _ => rfl) backend dims

structure Acquired (others : List ResourceId) (tiers : Nat) (backend : Backend)
    (before after : Platform) : Prop where
  spares : before.Sparing others tiers after
  booked : Booked ⟨7, {}, after⟩ [] ⟨backend, after⟩
  apart : (Books.read {} after.events.toList).live = others
  present : backend.tiers = 1
  count : after.openTiers = tiers + 1
  untried : after.tried = before.tried

private theorem acquired_of_ok (acquired : probe.acquire before = .ok (.ok backend, next) middle)
    (vacant : Vacant others tiers before.platform.events.toList) :
    Acquired others tiers backend before.platform middle.platform := by
  have grown : before.platform.Extends _ middle.platform :=
    (leads_of_ok acquired).mp (probe.acquire_extends before)
  obtain ⟨present, bare, count⟩ := (leads_of_ok acquired).mp (probe.acquire_opens before)
  exact
    { spares := .of_unheld vacant grown
      booked := ⟨[], (List.append_nil _).symm, trivial, rfl, Backend.backs_of_live_eq_zero bare⟩
      apart := (grown.mono fun _ both => both.2).live.trans vacant.live
      present
      count := count.trans (congrArg (· + 1) vacant.count)
      untried := (grown.mono fun _ both => both.1).tried }

/-- A renderer that was given has seven objects, and its tier is open. -/
theorem Gives.holding (gives : probe.Gives dims next renderer before after)
    (vacant : Vacant others tiers before.platform.events.toList) :
    before.platform.Sparing others tiers after.platform ∧ renderer.Holding others tiers after.platform ∧
      renderer.owned.length = 7 ∧ after.platform.tried = before.platform.tried := by
  obtain ⟨acquired, built⟩ := gives
  have first := acquired_of_ok acquired vacant
  have grown : Platform.Extends _ _ after.platform := (leads_of_ok built).mp (build_untried _ dims _)
  have accounted := (leads_of_ok built).mp (Renderer.build_accounted (Nat.le_refl 7) first.booked)
  obtain ⟨same, seven, count⟩ := (leads_of_ok built).mp (Renderer.build_opens _ dims _)
  have spares := first.spares.trans (.of_booked accounted first.apart (List.prefix_refl _) grown)
  refine ⟨spares, ⟨⟨_, accounted, first.apart⟩, ?_⟩, seven, ?_⟩
  · rw [count, first.count, same, first.present]
  · rw [grown.tried, first.untried]

/-- A probe that declines leaves nothing. -/
theorem Declines.vacant (declines : probe.Declines dims next cause before after)
    (vacant : Vacant others tiers before.platform.events.toList) :
    before.platform.Sparing others tiers after.platform ∧
      Vacant others tiers after.platform.events.toList ∧
      after.platform.tried = before.platform.tried := by
  cases declines with
  | unacquired refused =>
    have grown : before.platform.Extends _ after.platform :=
      (leads_of_ok refused).mp (probe.acquire_extends before)
    have count := (leads_of_ok refused).mp (probe.acquire_opens before)
    refine ⟨.of_unheld vacant grown, ⟨?_, count.trans vacant.count⟩, ?_⟩
    · exact (grown.mono fun _ both => both.2).live.trans vacant.live
    · exact (grown.mono fun _ both => both.1).tried
  | unbuilt acquired refused =>
    have first := acquired_of_ok acquired vacant
    have grown : Platform.Extends _ _ after.platform :=
      (leads_of_error refused).mp (build_untried _ dims _)
    obtain ⟨dropped, booked⟩ :=
      (leads_of_error refused).mp (Renderer.build_accounted (Nat.le_refl 7) first.booked)
    have count := (leads_of_error refused).mp (Renderer.build_opens _ dims _)
    rw [first.count, first.present] at count
    refine ⟨first.spares.trans (.of_booked booked first.apart (List.prefix_refl _) grown), ?_, ?_⟩
    · exact ⟨Platform.live_of_booked booked first.apart, count⟩
    · exact grown.tried.trans first.untried

theorem Crashes.spares (crashes : probe.Crashes dims before after)
    (vacant : Vacant others tiers before.platform.events.toList) :
    before.platform.Sparing others tiers after.platform := by
  cases crashes with
  | acquiring crashed =>
    exact .of_unheld vacant ((leads_of_error crashed).mp (probe.acquire_extends before))
  | building acquired crashed =>
    have first := acquired_of_ok acquired vacant
    have grown : Platform.Extends _ _ after.platform :=
      (leads_of_error crashed).mp (build_untried _ dims _)
    obtain ⟨dropped, booked⟩ :=
      (leads_of_error crashed).mp (Renderer.build_accounted (Nat.le_refl 7) first.booked)
    exact first.spares.trans (.of_booked booked first.apart (List.prefix_refl _) grown)

end Books

end Probe

namespace Negotiator

private theorem tryProbe_leads (probe : Probe) (dims : Dims) (scene : Scene σ) :
    (tryProbe probe dims).Leads scene
      (fun found after => match found.1 with
        | .ok renderer => probe.Gives dims found.2 renderer (scene.told (.trying probe.tier)) after
        | .error cause => probe.Declines dims found.2 cause (scene.told (.trying probe.tier)) after)
      fun failure after => failure = .crashed ∧
        probe.Crashes dims (scene.told (.trying probe.tier)) after := by
  unfold tryProbe
  rw [leads_bind, leads_notify, leads_bind]
  refine ((leads_ran _ _).and (probe.acquire_opens _)).mono ?_ ?_
  · rintro ⟨cause | backend, next⟩ middle ⟨acquired, _⟩
    · exact .unacquired acquired
    · simp only [leads_bind, leads_attempt, leads_pure]
      refine (leads_ran _ _).mono (fun renderer after built => .built acquired built) ?_
      intro failure after failed
      cases failure with
      | refused cause => exact .unbuilt acquired failed
      | crashed => exact ⟨trivial, .building acquired failed⟩
  · rintro failure after ⟨failed, rfl, _⟩
    exact ⟨rfl, .acquiring failed⟩

/-- All of the probes decline, one after another. Each one's attempt tells its tier and its cause. -/
inductive Declined (dims : Dims) :
    List Probe → Scene σ → List (Tier × RenderError) → List Probe → Scene σ → Prop where
  | nil (scene : Scene σ) : Declined dims [] scene [] [] scene
  | cons {probe next : Probe} {rest nexts : List Probe} {cause : RenderError}
    {attempts : List (Tier × RenderError)} {scene middle last : Scene σ}
    (declines : probe.Declines dims next cause (scene.told (.trying probe.tier)) middle)
    (others : Declined dims rest (middle.told (.rejected probe.tier cause)) attempts nexts last) :
    Declined dims (probe :: rest) scene ((probe.tier, cause) :: attempts) (next :: nexts) last

/-- The first probe that does not decline gives the renderer. The ones after it are not asked, so
they stay as they are. -/
inductive Found (dims : Dims) (probes : List Probe) (scene : Scene σ) (renderer : Renderer) :
    List Tier → List Probe → Scene σ → Prop where
  | intro {early late passed : List Probe} {probe next : Probe}
    {attempts : List (Tier × RenderError)} {middle last : Scene σ}
    (split : probes = early ++ probe :: late)
    (declined : Declined dims early scene attempts passed middle)
    (gives : probe.Gives dims next renderer (middle.told (.trying probe.tier)) last) :
    Found dims probes scene renderer (early.map Probe.tier ++ [probe.tier])
      (passed ++ next :: late) (last.told (.renderingUsing probe.tier))

inductive BreaksDown (dims : Dims) (probes : List Probe) (scene last : Scene σ) : Prop where
  | intro {early late passed : List Probe} {probe : Probe} {attempts : List (Tier × RenderError)}
    {middle : Scene σ} (split : probes = early ++ probe :: late)
    (declined : Declined dims early scene attempts passed middle)
    (crashes : probe.Crashes dims (middle.told (.trying probe.tier)) last)

variable {dims : Dims} {probe next : Probe} {probes nexts : List Probe} {renderer : Renderer}
  {cause : RenderError} {attempts : List (Tier × RenderError)} {asked : List Tier}
  {others : List ResourceId} {tiers : Nat} {scene middle last : Scene σ}

theorem Declined.attempts_eq (declined : Declined dims probes scene attempts nexts last) :
    attempts.map (·.1) = probes.map Probe.tier := by
  induction declined with
  | nil scene => rfl
  | cons declines others ih => exact congrArg (_ :: ·) ih

/-- When all decline there is none that gives a renderer after those before it have declined. -/
theorem Declined.not_found (declined : Declined dims probes scene attempts nexts last) :
    ∀ renderer asked others last, ¬ Found dims probes scene renderer asked others last := by
  induction declined with
  | nil scene =>
    rintro renderer asked others last ⟨split, _, _⟩
    simp at split
  | cons declines rest ih =>
    rintro renderer asked others last ⟨split, declined, gives⟩
    cases declined with
    | nil =>
      obtain ⟨rfl, rfl⟩ := List.cons.inj split
      exact declines.not_gives gives
    | cons first declined =>
      obtain ⟨rfl, tail⟩ := List.cons.inj split
      obtain ⟨rfl, rfl, rfl⟩ := declines.unique first
      exact ih _ _ _ _ ⟨tail, declined, gives⟩

/-- Probes that decline leave nothing, and each is tried once. -/
theorem Declined.vacant (declined : Declined dims probes scene attempts nexts last)
    (vacant : Vacant others tiers scene.platform.events.toList) :
    scene.platform.Sparing others tiers last.platform ∧
      Vacant others tiers last.platform.events.toList ∧
      last.platform.tried = scene.platform.tried ++ probes.map Probe.tier := by
  induction declined with
  | nil scene =>
    refine ⟨.of_unheld vacant (.refl _), vacant, ?_⟩
    rw [List.map_nil, List.append_nil]
  | @cons probe next rest nexts cause attempts scene middle last declines others ih =>
    have trying := Platform.vacant_notice vacant (.trying probe.tier)
    obtain ⟨spares, bare, untried⟩ := declines.vacant trying
    have rejected := Platform.vacant_notice bare (.rejected probe.tier cause)
    obtain ⟨further, left, tried⟩ := ih rejected
    refine ⟨?_, left, ?_⟩
    · have after := (Platform.Sparing.notice bare rfl).trans further
      exact (Platform.Sparing.trying vacant _).trans (spares.trans after)
    · have first : (scene.told (.trying probe.tier)).platform.tried =
          scene.platform.tried ++ [probe.tier] := Platform.tried_trying _ _
      have second : (middle.told (.rejected probe.tier cause)).platform.tried =
          middle.platform.tried := Platform.tried_record _ rfl
      rw [tried, second, untried, first, List.append_assoc]
      rfl

/-- The renderer that was found is all that is held besides the rest. -/
theorem Found.holding (found : Found dims probes scene renderer asked nexts last)
    (vacant : Vacant others tiers scene.platform.events.toList) :
    scene.platform.Sparing others tiers last.platform ∧
      renderer.Holding others tiers last.platform ∧ renderer.owned.length = 7 ∧
      last.platform.tried = scene.platform.tried ++ asked := by
  cases found with
  | @intro early late passed probe next attempts middle last _ declined gives =>
    obtain ⟨spares, bare, before⟩ := declined.vacant vacant
    obtain ⟨built, holding, seven, untried⟩ :=
      gives.holding (Platform.vacant_notice bare (.trying probe.tier))
    obtain ⟨told, still⟩ := holding.notice (.renderingUsing probe.tier) rfl
    refine ⟨spares.trans ((Platform.Sparing.trying bare _).trans (built.trans told)), still, seven, ?_⟩
    have first : (middle.told (.trying probe.tier)).platform.tried =
        middle.platform.tried ++ [probe.tier] := Platform.tried_trying _ _
    have second : (last.told (.renderingUsing probe.tier)).platform.tried = last.platform.tried :=
      Platform.tried_record _ rfl
    rw [second, untried, first, before, List.append_assoc]

theorem BreaksDown.spares (broken : BreaksDown dims probes scene last)
    (vacant : Vacant others tiers scene.platform.events.toList) :
    scene.platform.Sparing others tiers last.platform := by
  obtain ⟨_, declined, crashes⟩ := broken
  obtain ⟨spares, bare, _⟩ := declined.vacant vacant
  have crashed := crashes.spares (Platform.vacant_notice bare _)
  exact spares.trans ((Platform.Sparing.trying bare _).trans crashed)

theorem tryProbes_leads (dims : Dims) (probes : List Probe) (scene : Scene σ) :
    (tryProbes dims probes).Leads scene
      (fun found after => match found.1 with
        | .ok renderer => ∃ asked, Found dims probes scene renderer asked found.2 after
        | .error attempts => Declined dims probes scene attempts found.2 after)
      fun failure after => failure = .crashed ∧ BreaksDown dims probes scene after := by
  induction probes generalizing scene with
  | nil => exact .nil scene
  | cons probe rest ih =>
    rw [tryProbes, leads_bind]
    refine (tryProbe_leads probe dims scene).mono ?_ ?_
    · rintro ⟨cause | renderer, next⟩ middle tried
      · simp only [leads_bind, leads_notify]
        refine (ih _).mono ?_ ?_
        · rintro ⟨attempts | renderer, nexts⟩ last found
          · exact .cons tried found
          · obtain ⟨asked, split, declined, gives⟩ := found
            exact ⟨_, .intro (congrArg (probe :: ·) split) (.cons tried declined) gives⟩
        · rintro failure after ⟨crashed, split, declined, crashes⟩
          exact ⟨crashed, .intro (congrArg (probe :: ·) split) (.cons tried declined) crashes⟩
      · simp only [leads_bind, leads_notify, leads_pure]
        exact ⟨_, .intro rfl (.nil scene) tried⟩
    · rintro failure after ⟨crashed, crashes⟩
      exact ⟨crashed, .intro rfl (.nil scene) crashes⟩

end Negotiator
end FrameViewer
