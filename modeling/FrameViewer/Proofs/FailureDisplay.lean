import FrameViewer.App.Basic
import FrameViewer.Proofs.FrameOwnership
import FrameViewer.Proofs.Refusals
import FrameViewer.Proofs.WholePictures

/-! The first failure of a show, and what may become of it once it is on display. A callback that
was on its way then finds no renderer, and its failure is shown in place of the first. -/

namespace FrameViewer
open Act

def Event.cause? : Event → Option RenderError
  | raised cause => some cause
  | _ => none

def Event.failure? : Event → Option String
  | notice (.failed message) => some message
  | _ => none

def Event.title? : Event → Option String
  | windowTitle title => some title
  | _ => none

/-- What was said of failures so far. -/
structure Display where
  /-- The failures that the event loop was given. -/
  raised : List RenderError
  shown : List String
  titles : List String

def Platform.display (platform : Platform) : Display where
  raised := platform.events.toList.filterMap Event.cause?
  shown := platform.events.toList.filterMap Event.failure?
  titles := platform.events.toList.filterMap Event.title?

def Display.title? (display : Display) : Option String :=
  display.titles.getLast?

/-- Says nothing of a failure, and leaves the title. -/
structure Event.IsPlain (event : Event) : Prop where
  cause : event.cause? = none
  failure : event.failure? = none
  title : event.title? = none

theorem Event.IsRoutine.isPlain (event : Event) (routine : event.IsRoutine) : event.IsPlain := by
  refine ⟨?_, ?_, ?_⟩
  · cases event with
    | raised cause => exact absurd rfl routine
    | _ => rfl
  · cases event with
    | notice n =>
      cases n with
      | failed message => exact absurd rfl routine
      | _ => rfl
    | _ => rfl
  · cases event with
    | windowTitle title => exact absurd rfl routine
    | _ => rfl

theorem Platform.Extends.display {before after : Platform}
    (grown : before.Extends Event.IsPlain after) : after.display = before.display := by
  unfold Platform.display
  rw [grown.filterMap fun _ plain => plain.cause, grown.filterMap fun _ plain => plain.failure,
    grown.filterMap fun _ plain => plain.title]

theorem Platform.display_plain (platform : Platform) {event : Event} (plain : event.IsPlain) :
    (platform.record event).display = platform.display :=
  (Platform.Extends.record platform plain).display

theorem Platform.display_record (platform : Platform) (event : Event) :
    (platform.record event).display =
      { raised := platform.display.raised ++ event.cause?.toList
        shown := platform.display.shown ++ event.failure?.toList
        titles := platform.display.titles ++ event.title?.toList } := by
  have last {α : Type} (read : Event → Option α) : List.filterMap read [event] = (read event).toList := by
    cases found : read event <;> simp [found]
  simp only [Platform.display, Platform.record, Array.toList_push, List.filterMap_append, last]

theorem Platform.display_fresh (platform : Platform) : platform.fresh.display = ⟨[], [], []⟩ :=
  rfl

inductive Aftermath where
  /-- No callback was on its way. -/
  | settled
  /-- A callback is on its way. -/
  | awaiting
  /-- It came to its end without a renderer, and its failure waits for the event loop. -/
  | refused
  /-- That failure is shown in place of the first. -/
  | replaced
  deriving DecidableEq, Repr

namespace Aftermath

inductive LeadsTo : Aftermath → Aftermath → Prop where
  | refl (aftermath : Aftermath) : LeadsTo aftermath aftermath
  | refuse : LeadsTo awaiting refused
  | display : LeadsTo refused replaced
  | displace : LeadsTo awaiting replaced

theorem LeadsTo.trans {first second third : Aftermath} (early : first.LeadsTo second)
    (late : second.LeadsTo third) : first.LeadsTo third := by
  cases early with
  | refl => exact late
  | refuse =>
    cases late with
    | refl => exact .refuse
    | display => exact .displace
  | display =>
    cases late
    exact .display
  | displace =>
    cases late
    exact .displace

def latest (first : RenderError) : Aftermath → RenderError
  | replaced => Renderer.tornDown
  | _ => first

def messages (first : RenderError) : Aftermath → List String
  | replaced => [first.message, Renderer.tornDown.message]
  | _ => [first.message]

def waiting : Aftermath → Option RenderError
  | refused => some Renderer.tornDown
  | _ => none

end Aftermath

namespace Show

/-- No failure is on display; the first one that was raised, if any, waits. -/
structure Underway (s : Show) (display : Display) : Prop where
  screen : s.screen = none
  shown : display.shown = []
  waiting : s.fatal.slot = display.raised.head?

/-- The show has ended with its first failure, and this has become of it. -/
structure Ended (s : Show) (display : Display) (first : RenderError) (aftermath : Aftermath) :
    Prop where
  raised : display.raised.head? = some first
  shown : display.shown = aftermath.messages first
  screen : s.screen = some (.console true [(aftermath.latest first).message])
  title : display.title? = some ("chipview: " ++ (aftermath.latest first).message)
  stopped : s.loop.state.running = false
  bare : s.loop.renderer.resources = none
  waiting : s.fatal.slot = aftermath.waiting
  inFlight : s.loop.state.inFlight = decide (aftermath = .awaiting)

end Show

inductive Course where
  | underway
  | ended (first : RenderError) (aftermath : Aftermath)

namespace Course

inductive LeadsTo : Course → Course → Prop where
  | underway (course : Course) : LeadsTo underway course
  | ended (first : RenderError) {early late : Aftermath} (leads : early.LeadsTo late) :
    LeadsTo (ended first early) (ended first late)

theorem LeadsTo.refl (course : Course) : course.LeadsTo course := by
  cases course with
  | underway => exact .underway _
  | ended first aftermath => exact .ended first (.refl aftermath)

theorem LeadsTo.trans {first second third : Course} (early : first.LeadsTo second)
    (late : second.LeadsTo third) : first.LeadsTo third := by
  cases early with
  | underway => exact .underway _
  | ended cause leads =>
    cases late with
    | ended _ further => exact .ended cause (leads.trans further)

def Stands (s : Show) (display : Display) : Course → Prop
  | underway => s.Underway display
  | ended first aftermath => s.Ended display first aftermath

end Course

namespace Show

/-- A callback is on its way, or a failure waits for the event loop. -/
def IsUnsettled (s : Show) : Prop :=
  s.loop.state.inFlight = true ∨ s.fatal.slot ≠ none

/-- A loop that is still stopped and without a renderer does not matter otherwise. -/
theorem Ended.withLoop {s : Show} {display : Display} {first : RenderError} {aftermath : Aftermath}
    {loop : FrameLoop Player} (ended : s.Ended display first aftermath)
    (stopped : loop.state.running = false) (bare : loop.renderer.resources = none)
    (inFlight : loop.state.inFlight = s.loop.state.inFlight) :
    Ended { s with loop } display first aftermath :=
  { raised := ended.raised
    shown := ended.shown
    screen := ended.screen
    title := ended.title
    stopped
    bare
    waiting := ended.waiting
    inFlight := inFlight.trans ended.inFlight }

private theorem Ended.isUnsettled_iff {s : Show} {display : Display} {first : RenderError}
    {aftermath : Aftermath} (ended : s.Ended display first aftermath) :
    s.IsUnsettled ↔ aftermath = .awaiting ∨ aftermath = .refused := by
  unfold IsUnsettled
  rw [ended.inFlight, ended.waiting]
  cases aftermath <;> simp [Aftermath.waiting]

/-- What is shown and what the title says changes only as a callback that was on its way has ended
and the event loop has looked at its failure. -/
theorem Ended.stays_iff {s t : Show} {early late : Display} {first : RenderError}
    {before after : Aftermath} (ended : s.Ended early first before) (still : t.Ended late first after)
    (leads : before.LeadsTo after) :
    late.shown = early.shown ∧ late.title? = early.title? ↔ (s.IsUnsettled → t.IsUnsettled) := by
  rw [ended.isUnsettled_iff, still.isUnsettled_iff, ended.shown, still.shown, ended.title, still.title]
  cases leads with
  | refl => simp
  | refuse => simp [Aftermath.messages, Aftermath.latest]
  | display | displace => simp [Aftermath.messages]

/-- A show on that course, with callbacks of the generations `held` that have not ended. -/
structure Fit (course : Course) (held : List Nat) (s : Show) (display : Display) : Prop where
  owned : s.loop.Owned held
  whole : s.loop.session.Whole
  stands : course.Stands s display

def Reaches (course : Course) (held : List Nat) (s : Show) (display : Display) : Prop :=
  ∃ later, course.LeadsTo later ∧ s.Fit later held display

theorem Fit.reaches {course : Course} {held : List Nat} {s : Show} {display : Display}
    (fit : s.Fit course held display) : s.Reaches course held display :=
  ⟨course, .refl course, fit⟩

end Show

end FrameViewer
