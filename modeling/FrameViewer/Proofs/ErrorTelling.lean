import FrameViewer.Proofs.TierVerdicts

/-! What a tier on a graphics device tells of the errors that its device raises. A journal keeps for
every request what was raised and called during it, and how it ended. -/

namespace FrameViewer

def Platform.calls (platform : Platform) : List Gpu.Call :=
  platform.events.toList.filterMap fun
    | .gpu call => some call
    | _ => none

namespace Gpu.Backend
open Act

inductive Request where
  | createBuffer (desc : BufferDesc)
  | createTexture (desc : TextureDesc)
  | createSampler (desc : SamplerDesc)
  | createPipeline (desc : PipelineDesc)
  | upload (texture : Nat) (region : Region) (bytes : Bytes)
  | submit (call : DrawCall)
  | resize (size : Dims)
  | release (id : ResourceId)

namespace Request

def action : Request → Act Backend Unit
  | createBuffer desc => do let _ ← Backend.createBuffer desc
  | createTexture desc => do let _ ← Backend.createTexture desc
  | createSampler desc => do let _ ← Backend.createSampler desc
  | createPipeline desc => do let _ ← Backend.createPipeline desc
  | upload texture region bytes => Backend.upload texture region bytes
  | submit call => Backend.submit call
  | resize size => Backend.resize size
  | release id => Backend.release id

def Overflows : Request → Prop
  | createBuffer desc => desc.size < desc.contents.size
  | _ => False

end Request

structure Entry where
  request : Request
  raised : List DeviceError
  calls : List Call
  outcome : Except RenderError Unit

def Entry.between (before after : Platform) (api : Api) (request : Request)
    (outcome : Except RenderError Unit) : Entry :=
  { request
    raised := (after.gpu.raised api).drop (before.gpu.raised api).length
    calls := after.calls.drop before.calls.length
    outcome }

structure Service where
  backend : Backend
  journal : List Entry := []

def serve (request : Request) : Act Service Unit := do
  let service ← Act.own
  let before ← Act.platform
  let outcome ← Act.attempt
    (Act.within service.backend (fun backend => { service with backend }) request.action)
  let entry := Entry.between before (← Act.platform) service.backend.device.api request outcome
  Act.update fun service => { service with journal := service.journal ++ [entry] }

def serveAll (requests : List Request) : Act Service Unit :=
  requests.forM serve

/-- The errors that wait after a request, given those that waited before it. A creation tells of what
it raised itself; a draw only of what was raised before. -/
def Entry.leaves (waiting : List DeviceError) (entry : Entry) : List DeviceError :=
  match entry.request with
  | .createBuffer _ | .createTexture _ | .createSampler _ | .createPipeline _ => []
  | .submit _ => entry.raised
  | .upload .. | .resize _ | .release _ => waiting ++ entry.raised

/-- The errors that were raised since the last report. -/
def unreported (journal : List Entry) : List DeviceError :=
  journal.foldl Entry.leaves []

/-- A creation fails with the first error that waits by its end, and for no error if there is none. -/
def Entry.TellsAll (others : RenderError → Prop) (waiting : List DeviceError) (entry : Entry) : Prop :=
  match waiting ++ entry.raised with
  | first :: _ => ∃ cause, entry.outcome = .error cause ∧ cause.report? = some first.text
  | [] => entry.outcome = .ok () ∨ ∃ cause, entry.outcome = .error cause ∧ others cause

/-- What a request tells of the errors that wait when it begins, and of those raised meanwhile. -/
def Entry.Tells (waiting : List DeviceError) (entry : Entry) : Prop :=
  match entry.request with
  | .createBuffer _ | .createTexture _ | .createSampler _ => entry.TellsAll (fun _ => False) waiting
  | .createPipeline _ => entry.TellsAll (fun cause => ∃ what, cause = unknownHandle what) waiting
  | .submit _ => match waiting with
    | first :: _ =>
      entry.outcome = .error (.lost first.text) ∧ entry.raised = [] ∧ entry.calls = []
    | [] => entry.outcome = .ok () ∨ (∃ what, entry.outcome = .error (deadHandle what)) ∨
        ∃ trouble : FrameResult, entry.outcome = .error (.lost trouble.reason)
  | .upload .. => entry.outcome = .ok () ∨
      entry.outcome = .error (.lost "framebuffer texture was released")
  | .resize _ | .release _ => entry.outcome = .ok ()

/-- Every request of the journal told what it had to. -/
def Faithful (journal : List Entry) : Prop :=
  ∀ early entry late, journal = early ++ entry :: late → entry.Tells (unreported early)

variable {api : Api} {waiting : List DeviceError} {request : Request} {points used : List String}
  {before after : Platform} {scene : Scene Backend}

private theorem Entry.between_raised (used : Machine.Used api points before.gpu after.gpu) (request : Request)
    (outcome : Except RenderError Unit) :
    (Entry.between before after api request outcome).raised = before.gpu.due api points := by
  rw [between, used.raised]
  exact List.drop_left

/-- The request was answered: it told what it had to, and what it left waits at the device. -/
def Answered (api : Api) (waiting : List DeviceError) (before after : Scene Backend) (request : Request)
    (outcome : Except RenderError Unit) : Prop :=
  (Entry.between before.platform after.platform api request outcome).Tells waiting ∧
    after.own.device = Regime.listened.device api
      ((Entry.between before.platform after.platform api request outcome).leaves waiting)

def Answers (api : Api) (waiting : List DeviceError) (request : Request) (action : Act Backend Unit) :
    Prop :=
  ∀ scene, scene.own.device = Regime.listened.device api waiting → action.Leads scene
    (fun _ after => Answered api waiting scene after request (.ok ()))
    (fun failure after => match failure with
      | .refused cause => Answered api waiting scene after request (.error cause)
      | .crashed => request.Overflows)

/-- A creation looks for errors at its end. -/
theorem creation_answers (others : RenderError → Prop) {kept : Backend → Nat → Backend → Device → Prop}
    {create : Act Backend Nat}
    (checks : ∀ frame : Backend, ∃ points, Checks frame.On points waiting
      (fun
        | .refused cause => others cause
        | .crashed => request.Overflows)
      (kept frame) frame.On create)
    (same : ∀ frame number b device, kept frame number b device → b.device = device)
    (tells : ∀ raised calls outcome, (Entry.mk request raised calls outcome).TellsAll others waiting →
      (Entry.mk request raised calls outcome).Tells waiting)
    (leaves : ∀ raised calls outcome, (Entry.mk request raised calls outcome).leaves waiting = []) :
    Answers api waiting request (do let _ ← create) := by
  intro scene at_
  obtain ⟨points, checks⟩ := checks scene.own
  rw [leads_bind]
  apply (checks api scene (.of_device_eq at_)).mono
  · rintro number after ⟨rfl, calm, now, used⟩
    refine ⟨tells _ _ _ ?_, ?_⟩
    · rw [← Entry.between, Entry.TellsAll, Entry.between_raised used, calm]
      exact .inl rfl
    · rw [Entry.between, leaves]
      exact same _ _ _ _ now
  · intro failure after ⟨part, _, told, now, used⟩
    have answered {cause : RenderError} (tellsAll :
        (Entry.between scene.platform after.platform api request (.error cause)).TellsAll others waiting) :
        Answered api waiting scene after request (.error cause) :=
      ⟨tells _ _ _ tellsAll, by rw [Entry.between, leaves]; exact now.device_eq⟩
    cases met : waiting ++ scene.platform.gpu.due api part with
    | nil =>
      rw [met] at told
      cases failure with
      | refused cause =>
        apply answered
        rw [Entry.TellsAll, Entry.between_raised used, met]
        exact .inr ⟨cause, rfl, told⟩
      | crashed => exact told
    | cons first rest =>
      rw [met] at told
      obtain ⟨cause, rfl, same⟩ := told
      apply answered
      rw [Entry.TellsAll, Entry.between_raised used, met]
      exact ⟨cause, rfl, same⟩

/-- What was raised meanwhile waits after what waited before. -/
theorem answered_of_waiting {outcome : Except RenderError Unit} {after : Scene Backend}
    (used : Machine.Used api points scene.platform.gpu after.platform.gpu)
    (now : after.own.device =
      Regime.listened.device api (waiting ++ scene.platform.gpu.due api points))
    (tells : ∀ raised calls, (Entry.mk request raised calls outcome).Tells waiting)
    (leaves : ∀ raised calls,
      (Entry.mk request raised calls outcome).leaves waiting = waiting ++ raised) :
    Answered api waiting scene after request outcome := by
  refine ⟨tells _ _, now.trans ?_⟩
  rw [Entry.between, leaves, ← Entry.between_raised used request outcome]
  rfl

theorem Request.answers (request : Request) (waiting : List DeviceError) :
    Answers api waiting request request.action := by
  cases request with
  | createBuffer desc =>
    exact creation_answers (fun _ => False)
      (fun frame => ⟨_, createBuffer_checks desc fun short => short⟩)
      (fun _ _ _ _ ⟨_, _, on⟩ => on.device_eq) (fun _ _ _ tells => tells) fun _ _ _ => rfl
  | createTexture desc =>
    exact creation_answers (fun _ => False) (fun frame => ⟨_, createTexture_checks desc⟩)
      (fun _ _ _ _ ⟨_, _, on⟩ => on.device_eq) (fun _ _ _ tells => tells) fun _ _ _ => rfl
  | createSampler desc =>
    exact creation_answers (fun _ => False) (fun frame => ⟨_, createSampler_checks desc⟩)
      (fun _ _ _ _ ⟨_, _, on⟩ => on.device_eq) (fun _ _ _ tells => tells) fun _ _ _ => rfl
  | createPipeline desc =>
    exact creation_answers (fun cause => ∃ what, cause = unknownHandle what)
      (fun frame => ⟨_, createPipeline_checks desc fun what _ => ⟨what, rfl⟩⟩)
      (fun _ _ _ _ ⟨_, _, on⟩ => on.device_eq) (fun _ _ _ tells => tells) fun _ _ _ => rfl
  | upload texture region bytes =>
    intro scene at_
    have left : Leaves scene.own.On (· = .refused (.lost "framebuffer texture was released")) _ :=
      upload_leaves texture region bytes fun _ => rfl
    apply (left.leads (.of_device_eq at_)).mono
    · intro _ after ⟨points, used, now⟩
      exact answered_of_waiting used now.device_eq (fun _ _ => .inl rfl) fun _ _ => rfl
    · rintro failure after ⟨rfl, points, used, now⟩
      exact answered_of_waiting used now.device_eq (fun _ _ => .inr rfl) fun _ _ => rfl
  | submit call =>
    intro scene at_
    have draws := submit_leads
      (fun failure => (∃ what, failure = .refused (deadHandle what)) ∨
        ∃ trouble : FrameResult, failure = .refused (.lost trouble.reason))
      call (fun what _ => .inl ⟨what, rfl⟩) (fun trouble => .inr ⟨trouble, rfl⟩) (.of_device_eq at_)
    apply draws.mono
    · rintro _ after ⟨rfl, points, used, now⟩
      exact answered_of_waiting used now.device_eq (fun _ _ => .inl rfl) fun _ _ => rfl
    · intro failure after failed
      cases waiting with
      | nil =>
        obtain ⟨told, points, used, now⟩ := failed
        obtain ⟨what, rfl⟩ | ⟨trouble, rfl⟩ := told
        · exact answered_of_waiting used now.device_eq (fun _ _ => .inr (.inl ⟨what, rfl⟩)) fun _ _ => rfl
        · exact answered_of_waiting used now.device_eq (fun _ _ => .inr (.inr ⟨trouble, rfl⟩))
            fun _ _ => rfl
      | cons first rest =>
        obtain ⟨rfl, same, now⟩ := failed
        have idle : Entry.between scene.platform after.platform api (.submit call)
            (.error (.lost first.text)) = ⟨.submit call, [], [], .error (.lost first.text)⟩ := by
          rw [same, Entry.between, List.drop_length, List.drop_length]
        refine ⟨idle ▸ ⟨rfl, rfl, rfl⟩, idle ▸ now.device_eq⟩
  | resize size =>
    intro scene at_
    apply (resize_leads size (.of_device_eq at_)).mono
    · intro _ after ⟨now, used⟩
      exact answered_of_waiting used now.device_eq (fun _ _ => rfl) fun _ _ => rfl
    · exact fun _ _ impossible => impossible.elim
  | release id =>
    intro scene at_
    apply (release_leads id scene).mono
    · intro _ after ⟨same, _, still⟩
      refine answered_of_waiting (.of_driver_eq still) ?_ (fun _ _ => rfl) fun _ _ => rfl
      rw [same, at_]
      exact congrArg (Regime.listened.device api) (List.append_nil waiting).symm
    · exact fun _ _ impossible => impossible.elim

private theorem unreported_concat (journal : List Entry) (entry : Entry) :
    unreported (journal ++ [entry]) = entry.leaves (unreported journal) := by
  rw [unreported, List.foldl_append]
  rfl

theorem Faithful.nil : Faithful [] := by
  intro early entry late split
  simp at split

/-- One more entry that tells what it has to. -/
theorem Faithful.concat {journal : List Entry} {entry : Entry} (faithful : Faithful journal)
    (tells : entry.Tells (unreported journal)) : Faithful (journal ++ [entry]) := by
  intro early other late split
  obtain rfl | ⟨rest, last, rfl⟩ := late.eq_nil_or_concat
  · obtain ⟨rfl, same⟩ := List.append_inj' split rfl
    cases same
    exact tells
  · rw [List.concat_eq_append, ← List.cons_append, ← List.append_assoc] at split
    exact faithful early other rest (List.append_inj' split rfl).1

/-- The journal has all the requests so far, and what was not told of yet waits at the device. -/
structure Kept (api : Api) (requests : List Request) (service : Service) : Prop where
  requests : service.journal.map Entry.request = requests
  faithful : Faithful service.journal
  device : service.backend.device = Regime.listened.device api (unreported service.journal)

private theorem serve_leads (request : Request) {requests : List Request} {scene : Scene Service}
    (kept : Kept api requests scene.own) :
    (serve request).Leads scene
      (fun _ after => Kept api (requests ++ [request]) after.own)
      (fun failure after =>
        failure = .crashed ∧ request.Overflows ∧ after.own.journal = scene.own.journal) := by
  have family : scene.own.backend.device.api = api := by
    rw [kept.device]
    rfl
  simp only [serve, leads_bind, leads_own, leads_platform, leads_attempt, leads_within, leads_update,
    family]
  have entered {outcome : Except RenderError Unit} {after : Scene Backend}
      (answered : Answered api (unreported scene.own.journal) ⟨scene.own.backend, scene.platform⟩ after
        request outcome) :
      Kept api (requests ++ [request]) ⟨after.own,
        scene.own.journal ++ [.between scene.platform after.platform api request outcome]⟩ := by
    refine ⟨?_, kept.faithful.concat answered.1, answered.2.trans ?_⟩
    · rw [List.map_append, kept.requests]
      rfl
    · rw [unreported_concat]
  apply (request.answers _ ⟨scene.own.backend, scene.platform⟩ kept.device).mono
  · exact fun _ after answered => entered answered
  · intro failure after answered
    cases failure with
    | refused cause => exact entered answered
    | crashed => exact ⟨trivial, answered, trivial⟩

/-- Those requests are still to come. -/
def Underway (api : Api) (requests rest : List Request) (scene : Scene Service) : Prop :=
  ∃ earlier, requests = earlier ++ rest ∧ Kept api earlier scene.own

private theorem serveAll_leads (requests : List Request) {scene : Scene Service}
    (kept : Kept api [] scene.own) :
    (serveAll requests).Leads scene
      (fun _ after => Kept api requests after.own)
      (fun failure after => failure = .crashed ∧ Faithful after.own.journal ∧
        ∃ early request late, requests = early ++ request :: late ∧ request.Overflows ∧
          after.own.journal.map Entry.request = early) := by
  have start : Underway api requests requests scene := ⟨[], rfl, kept⟩
  refine (leads_forM (Underway api requests) (fun request rest scene underway => ?_) requests
    start).mono ?_ fun _ _ failed => failed
  · obtain ⟨earlier, split, kept⟩ := underway
    apply (serve_leads request kept).mono
    · exact fun _ after later => ⟨earlier ++ [request], by simp [split], later⟩
    · intro failure after broken
      obtain ⟨crashed, overflows, same⟩ := broken
      rw [same]
      exact ⟨crashed, kept.faithful, earlier, request, rest, split, overflows, kept.requests⟩
  · intro _ after done
    obtain ⟨earlier, rfl, kept⟩ := done
    rw [List.append_nil]
    exact kept

/-- Whatever a tier is asked for once it is acquired, in any order: errors of its device are told by
the next request that looks for them, only the first of them, and once. A draw that begins with an
error waiting does nothing else. The run breaks down only with contents longer than their buffer. -/
theorem errors_told_once (tier : Tier) (requests : List Request) (platform : Platform) :
    (Acquire.tier tier : Act Unit Backend).Leads ⟨(), platform⟩
      (fun b acquired => (serveAll requests).Leads ⟨{ backend := b }, acquired.platform⟩
        (fun _ after =>
          after.own.journal.map Entry.request = requests ∧ Faithful after.own.journal ∧
          after.own.backend.device.listener =
            .installed ((unreported after.own.journal).head?.map DeviceError.text))
        (fun failure after => failure = .crashed ∧ Faithful after.own.journal ∧
          ∃ early request late, requests = early ++ request :: late ∧ request.Overflows ∧
            after.own.journal.map Entry.request = early))
      fun _ _ => True := by
  apply (Acquire.tier_leads tier _).mono
  · intro b acquired ⟨_, started, _⟩
    apply (serveAll_leads requests ⟨rfl, .nil, started.device_eq⟩).mono
    · intro _ after kept
      exact ⟨kept.requests, kept.faithful, by rw [kept.device]; rfl⟩
    · exact fun _ _ failed => failed
  · exact fun _ _ _ => trivial

end Gpu.Backend
end FrameViewer
