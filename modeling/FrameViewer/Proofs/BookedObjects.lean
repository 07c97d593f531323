import FrameViewer.Graphics.Backend
import FrameViewer.Proofs.ActionBounds
import FrameViewer.Proofs.ObjectBooks

/-! What a tier holds is what the books on its report say, and what an action may do about that:
leave every object as it is, add one, or take one off. -/

namespace FrameViewer
open Act

def Backend.Backs : Backend → Books → Prop
  | null, books => books.live = []
  | simulated b, books => b.live.Backs (fun id => some id.number) books
  | gpu b, books =>
    b.buffers.Backs ResourceId.buffer? books ∧ b.textures.Backs ResourceId.texture? books ∧
      b.samplers.Backs ResourceId.sampler? books ∧ b.pipelines.Backs ResourceId.pipeline? books

/-- The live objects of the tier are those, each under the number that it was handed out with. -/
def Backend.Holds : Backend → List ResourceId → Prop
  | null, live => live = []
  | simulated b, live => b.live.ids.Perm (live.map ResourceId.number)
  | gpu b, live =>
    b.buffers.ids.Perm (live.filterMap ResourceId.buffer?) ∧
      b.textures.ids.Perm (live.filterMap ResourceId.texture?) ∧
      b.samplers.ids.Perm (live.filterMap ResourceId.sampler?) ∧
      b.pipelines.ids.Perm (live.filterMap ResourceId.pipeline?)

theorem Slots.Backs.perm {α : Type} {slots : Slots α} {number : ResourceId → Option Nat}
    {books : Books} (backs : slots.Backs number books) :
    slots.ids.Perm (books.live.filterMap number) := by
  rw [backs.ids]
  exact List.reverse_perm _

theorem Backend.Backs.holds {backend : Backend} {books : Books} (backs : backend.Backs books) :
    backend.Holds books.live := by
  cases backend with
  | null => exact backs
  | simulated b => simpa [Holds] using Slots.Backs.perm backs
  | gpu b => exact ⟨backs.1.perm, backs.2.1.perm, backs.2.2.1.perm, backs.2.2.2.perm⟩

private theorem Slots.Backs.of_size_eq_zero {α : Type} {slots : Slots α} (empty : slots.size = 0)
    (number : ResourceId → Option Nat) : slots.Backs number {} := by
  refine ⟨?_, nofun, nofun, .nil⟩
  rw [Slots.ids, List.eq_nil_of_length_eq_zero empty]
  rfl

theorem Backend.backs_of_live_eq_zero {backend : Backend} (empty : backend.live = 0) :
    backend.Backs {} := by
  cases backend with
  | null => rfl
  | simulated b => exact .of_size_eq_zero empty _
  | gpu b =>
    have total : b.buffers.size + b.textures.size + b.samplers.size + b.pipelines.size = 0 := empty
    exact ⟨.of_size_eq_zero (by omega) _, .of_size_eq_zero (by omega) _,
      .of_size_eq_zero (by omega) _, .of_size_eq_zero (by omega) _⟩

/-- From where on the books are checked, and against which number of live objects. -/
structure Audit where
  most : Nat
  start : Books
  base : Platform

/-- Everything reported since the audit began was in order, and the tier holds the objects `live`
that are on the books now. -/
def Booked (audit : Audit) (live : List ResourceId) (scene : Scene Backend) : Prop :=
  ∃ log, scene.platform.events.toList = audit.base.events.toList ++ log ∧
    audit.start.Audited audit.most log ∧ (audit.start.read log).live = live ∧
    scene.own.Backs (audit.start.read log)

namespace Booked

variable {audit : Audit} {platform : Platform} {live : List ResourceId} {scene : Scene Backend}
  {backend : Backend} {tier : Tier} {id : ResourceId} {object : Nat}

theorem unheld (booked : Booked audit live scene)
    (grown : scene.platform.Extends (·.part ≠ .holding) platform)
    (backs : ∀ books, scene.own.Backs books → backend.Backs books) :
    Booked audit live ⟨backend, platform⟩ := by
  obtain ⟨log, same, audited, held, backed⟩ := booked
  obtain ⟨added, further, unheld⟩ := grown
  obtain ⟨read, order⟩ : (audit.start.read log).read added = audit.start.read log ∧
      (audit.start.read log).Audited audit.most added := Books.read_of_unheld unheld
  refine ⟨log ++ added, ?_, ?_, ?_, ?_⟩
  · rw [further, same, List.append_assoc]
  · exact Books.audited_append.mpr ⟨audited, order⟩
  · rw [Books.read_append, read]
    exact held
  · rw [Books.read_append, read]
    exact backs _ backed

theorem entered {event : Event} {later : List ResourceId}
    (booked : Booked audit live scene)
    (entry : ∀ books : Books, books.live = live → scene.own.Backs books →
      books.Allows audit.most event ∧ (books.enter event).live = later ∧ backend.Backs (books.enter event)) :
    Booked audit later ⟨backend, scene.platform.record event⟩ := by
  obtain ⟨log, same, audited, held, backed⟩ := booked
  obtain ⟨allowed, listed, backs⟩ := entry (audit.start.read log) held backed
  have read : audit.start.read (log ++ [event]) = (audit.start.read log).enter event := Books.read_append
  refine ⟨log ++ [event], ?_, ?_, ?_, ?_⟩
  · simp [Platform.record, same]
  · exact Books.audited_append.mpr ⟨audited, allowed, trivial⟩
  · rw [read]
    exact listed
  · rw [read]
    exact backs

/-- A number that was never handed out is entered, if there is room. -/
theorem handedOut (booked : Booked audit live scene) (room : live.length < audit.most)
    (entry : ∀ books, scene.own.Backs books →
      id ∉ books.handed ∧ backend.Backs (books.enter (.handedOut tier id object))) :
    Booked audit (id :: live)
      ⟨backend, scene.platform.record (.handedOut tier id object)⟩ := by
  apply booked.entered
  intro books same backs
  obtain ⟨fresh, kept⟩ := entry books backs
  exact ⟨⟨fresh, same ▸ room⟩, congrArg (id :: ·) same, kept⟩

theorem takenBack {stale : Bool} (booked : Booked audit live scene) (member : id ∈ live)
    (entry : ∀ books, id ∈ books.live → scene.own.Backs books →
      stale = false ∧ backend.Backs (books.enter (.takenBack tier id stale))) :
    Booked audit (live.erase id)
      ⟨backend, scene.platform.record (.takenBack tier id stale)⟩ := by
  apply booked.entered
  intro books same backs
  have listed : id ∈ books.live := same ▸ member
  obtain ⟨fresh, kept⟩ := entry books listed backs
  exact ⟨⟨listed, fresh⟩, congrArg (·.erase id) same, kept⟩

end Booked

section Rules

variable {τ α β : Type} {put : τ → Backend}

@[reducible] def sparing : Bounds (Scene Backend) :=
  .each fun ledger : Audit × List ResourceId =>
    .keeping (Booked ledger.1 ledger.2) (fun _ => Booked ledger.1 ledger.2) (·.part ≠ .holding)

instance (put : τ → Backend) : Hearing (fun scene => ⟨put scene.own, scene.platform⟩) sparing where
  record _ _ unheld ledger booked := booked.unheld (.record _ (unheld ledger)) fun _ backs => backs

/-- However the action ends, the objects of the tier `put` makes of its part are live as before. -/
def Spares (put : τ → Backend) (action : Act τ α) : Prop :=
  action.Respects (fun scene => ⟨put scene.own, scene.platform⟩) sparing

def Adds (put : τ → Backend) (typed : Nat → ResourceId) (action : Act τ Nat) : Prop :=
  ∀ (audit : Audit) (live : List ResourceId) (scene : Scene τ),
    Booked audit live ⟨put scene.own, scene.platform⟩ → live.length < audit.most →
      action.Leads scene
        (fun number after =>
          Booked audit (typed number :: live) ⟨put after.own, after.platform⟩)
        (fun _ after => Booked audit live ⟨put after.own, after.platform⟩)

def Removes (put : τ → Backend) (id : ResourceId) (action : Act τ Unit) : Prop :=
  ∀ (audit : Audit) (live : List ResourceId) (scene : Scene τ),
    Booked audit live ⟨put scene.own, scene.platform⟩ → id ∈ live →
      action.Leads scene
        (fun _ after => Booked audit (live.erase id) ⟨put after.own, after.platform⟩)
        (fun _ _ => False)

namespace Spares

variable {audit : Audit} {live : List ResourceId} {action : Act τ α}

theorem leads (spares : Spares put action) (scene : Scene τ)
    (booked : Booked audit live ⟨put scene.own, scene.platform⟩) :
    action.Leads scene (fun _ after => Booked audit live ⟨put after.own, after.platform⟩)
      fun _ after => Booked audit live ⟨put after.own, after.platform⟩ :=
  (respects_each.mp spares (audit, live)).leads booked

theorem of_leads (kept : ∀ audit live scene, Booked audit live ⟨put scene.own, scene.platform⟩ →
      action.Leads scene (fun _ after => Booked audit live ⟨put after.own, after.platform⟩)
        fun _ after => Booked audit live ⟨put after.own, after.platform⟩) : Spares put action :=
  respects_each.mpr fun ledger => .of_leads (kept ledger.1 ledger.2)

theorem emit {event : Event} (unheld : event.part ≠ .holding) : Spares put (emit event) :=
  Respects.emit fun _ => unheld

theorem updatePlatform {f : Platform → Platform} (same : ∀ p, (f p).events = p.events) :
    Spares put (updatePlatform f) :=
  fun scene _ booked => booked.unheld (.of_events_eq (same scene.platform)) fun _ backs => backs

theorem update {f : τ → τ} (keeps : ∀ part books, (put part).Backs books → (put (f part)).Backs books) :
    Spares put (update f) :=
  fun scene _ booked => booked.unheld (.refl _) (keeps scene.own)

end Spares

theorem Adds.bind {action : Act τ α} {next : α → Act τ Nat} {typed : Nat → ResourceId}
    (first : Spares put action) (rest : ∀ value, Adds put typed (next value)) :
    Adds put typed (action >>= next) := by
  intro audit live scene booked room
  rw [leads_bind]
  exact (first.leads scene booked).mono (fun value after still => rest value audit live after still room)
    fun _ _ still => still

end Rules

end FrameViewer
