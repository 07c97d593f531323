import FrameViewer.Proofs.AlignedSizes
import FrameViewer.Proofs.Creations
import FrameViewer.Proofs.TierNegotiation

/-! A build makes all seven objects of its set or none. Whatever the tier held before it holds again
after a build that fails, and after the release of a set that was built; either way the objects go in
the reverse order of their creation, each once. -/

namespace FrameViewer
open Act

def Quad.contents : List Bytes :=
  [vertexBytes, colorBytes, indexBytes, uniformBytes]

private theorem Quad.contents_small : ∀ contents ∈ Quad.contents, contents.size ≤ 96 := by
  decide +kernel

/-- A tier that holds something is there. -/
theorem Booked.present {audit : Audit} {id : ResourceId} {live : List ResourceId} {scene : Scene Backend}
    (booked : Booked audit (id :: live) scene) : scene.own ≠ .null := by
  intro absent
  obtain ⟨log, _, _, held, backs⟩ := booked
  rw [absent] at backs
  rw [show (audit.start.read log).live = [] from backs] at held
  cases held

namespace ResourceSet

/-- The creations that make a set, in their order, when contents take buffers of that size. -/
def creations (size : Bytes → Nat) (set : ResourceSet) : List (Creation × Nat) :=
  [(.buffer ⟨"quad-positions", .vertex, size Quad.vertexBytes, Quad.vertexBytes⟩, set.positions),
   (.buffer ⟨"quad-colors", .vertex, size Quad.colorBytes, Quad.colorBytes⟩, set.colors),
   (.buffer ⟨"quad-indices", .index, size Quad.indexBytes, Quad.indexBytes⟩, set.indices),
   (.buffer ⟨"quad-uniforms", .uniform, size Quad.uniformBytes, Quad.uniformBytes⟩, set.uniforms),
   (.texture ⟨"framebuffer", set.dims⟩, set.texture),
   (.sampler ⟨"framebuffer-sampler", .nearest, .tile⟩, set.sampler),
   (.pipeline
      { label := "quad-pipeline"
        layouts := Quad.layouts
        uniforms := set.uniforms
        texture := set.texture
        sampler := set.sampler
        counterClockwise := false
        cullBackFaces := false }, set.pipeline)]

private theorem objects_creations (size : Bytes → Nat) (set : ResourceSet) :
    Creation.objects (set.creations size) = set.ids.reverse :=
  rfl

/-- Before any of the creations there are fewer than seven. -/
theorem length_early {size : Bytes → Nat} {set : ResourceSet} {early late : List (Creation × Nat)}
    {creation : Creation × Nat} (planned : set.creations size = early ++ creation :: late) :
    early.length < 7 := by
  have seven : (set.creations size).length = 7 := rfl
  rw [planned, List.length_append, List.length_cons] at seven
  omega

section Build
open Creation

variable {start scene : Scene Backend} {size : Bytes → Nat} {dims : Dims} {audit : Audit}
  {others : List ResourceId} {made : List (Creation × Nat)}

/-- Of the creations of some set the `early` ones were made, the next one failed, and they were undone. -/
def BreaksOff (size : Bytes → Nat) (start : Scene Backend) (dims : Dims)
    (early : List (Creation × Nat)) (failure : Failure) (last : Scene Backend) : Prop :=
  ∃ (set : ResourceSet) (creation : Creation) (number : Nat) (late : List (Creation × Nat))
    (middle failed : Scene Backend), set.dims = dims ∧
    set.creations size = early ++ (creation, number) :: late ∧ Makes start early middle ∧
    creation.make middle = .error failure failed ∧ rollBack (objects early).reverse failed = .ok () last

private theorem buffer_eq {label : String} {usage : BufferUsage} {contents : Bytes} {rounded : Nat}
    (fits : alignUp? contents.size scene.own.alignment = some rounded) :
    buffer label usage contents scene = (Creation.buffer ⟨label, usage, rounded, contents⟩).make scene := by
  change (checked (alignUp? contents.size scene.own.alignment) >>= fun size =>
    Backend.createBuffer { label, usage, size, contents }) scene = _
  rw [fits]
  rfl

/-- A step that works is one more creation; one that fails ends the build. -/
theorem step_makes {α : Type} (creation : Creation) {action : Act Backend Nat}
    {next : Nat → Act Backend α} {done : α → Scene Backend → Prop} {created : List ResourceId}
    (booked : Booked audit others start) (room : others.length + 7 ≤ audit.most)
    (set : ResourceSet) (of : set.dims = dims)
    (planned : ∃ number late, set.creations size = made ++ (creation, number) :: late)
    (sofar : Makes start made scene) (newest : created = (objects made).reverse)
    (same : action scene = creation.make scene)
    (rest : ∀ number after, Makes start (made ++ [(creation, number)]) after →
      (next number).Leads after done
        fun failure last => ∃ early, BreaksOff size start dims early failure last) :
    (step created action >>= next).Leads scene done
      fun failure last => ∃ early, BreaksOff size start dims early failure last := by
  obtain ⟨number, late, planned⟩ := planned
  subst newest
  have few := length_early planned
  have held := sofar.booked booked (by omega)
  have room : ((objects made).reverse ++ others).length < audit.most := by
    simp only [objects, List.length_append, List.length_reverse, List.length_map]
    omega
  have adds := creation.make_adds audit _ scene held room
  rw [leads_bind, step, leads_onFailure]
  unfold Leads at adds
  cases ran : creation.make scene with
  | ok value after =>
    rw [leads_of_ok (same.trans ran)]
    exact rest value after (sofar.snoc ran)
  | error failure failed =>
    rw [ran] at adds
    rw [leads_of_error (same.trans ran)]
    apply (Leads.and (rollBack_leads _ adds) (leads_ran _ _)).mono
    · rintro ⟨⟩ last ⟨_, undone⟩
      exact ⟨made, set, creation, number, late, scene, failed, of, planned, sofar, ran, undone⟩
    · exact fun _ _ impossible => impossible.1.elim

/-- A build that works has made the creations of its set, and one that fails breaks off at one of
them. -/
theorem build_makes (drawn : dims.isEmpty = false)
    (sized : ∀ contents ∈ Quad.contents,
      alignUp? contents.size start.own.alignment = some (size contents))
    (booked : Booked audit others start) (room : others.length + 7 ≤ audit.most) :
    (build dims).Leads start
      (fun set last => set.dims = dims ∧ ∃ middle, Makes start (set.creations size) middle ∧
        last = ⟨middle.own, middle.platform.record (.notice (.built start.own.tier dims))⟩)
      (fun failure last => ∃ early, BreaksOff size start dims early failure last) := by
  have fits {made : List (Creation × Nat)} {scene : Scene Backend} (sofar : Makes start made scene)
      (label : String) (usage : BufferUsage) {contents : Bytes} (member : contents ∈ Quad.contents) :
      buffer label usage contents scene =
        (Creation.buffer ⟨label, usage, size contents, contents⟩).make scene :=
    buffer_eq (sofar.alignment ▸ sized contents member)
  rw [build, drawn, if_neg Bool.false_ne_true, leads_bind, leads_own]
  refine step_makes _ booked room ⟨0, 0, 0, 0, 0, 0, 0, dims⟩ rfl ⟨_, _, rfl⟩ .nil rfl
    (fits .nil _ _ (by simp [Quad.contents])) fun positions scene sofar => ?_
  refine step_makes _ booked room ⟨positions, 0, 0, 0, 0, 0, 0, dims⟩ rfl ⟨_, _, rfl⟩ sofar rfl
    (fits sofar _ _ (by simp [Quad.contents])) fun colors scene sofar => ?_
  refine step_makes _ booked room ⟨positions, colors, 0, 0, 0, 0, 0, dims⟩ rfl ⟨_, _, rfl⟩ sofar rfl
    (fits sofar _ _ (by simp [Quad.contents])) fun indices scene sofar => ?_
  refine step_makes _ booked room ⟨positions, colors, indices, 0, 0, 0, 0, dims⟩ rfl ⟨_, _, rfl⟩ sofar rfl
    (fits sofar _ _ (by simp [Quad.contents])) fun uniforms scene sofar => ?_
  refine step_makes (.texture _) booked room ⟨positions, colors, indices, uniforms, 0, 0, 0, dims⟩ rfl
    ⟨_, _, rfl⟩ sofar rfl rfl fun texture scene sofar => ?_
  refine step_makes (.sampler _) booked room ⟨positions, colors, indices, uniforms, texture, 0, 0, dims⟩
    rfl ⟨_, _, rfl⟩ sofar rfl rfl fun sampler scene sofar => ?_
  refine step_makes (.pipeline _) booked room
    ⟨positions, colors, indices, uniforms, texture, sampler, 0, dims⟩ rfl ⟨_, _, rfl⟩ sofar rfl rfl
    fun pipeline scene sofar => ?_
  exact ⟨rfl, scene, sofar, rfl⟩

end Build

section Release
open Creation

variable {audit : Audit} {others : List ResourceId} {scene : Scene Backend}

/-- Releases are entered in their order. -/
theorem releaseAll_enters (ids : List ResourceId) (booked : Booked audit (ids ++ others) scene) :
    (releaseAll ids).Leads scene
      (fun _ after => Booked audit others after ∧
        after.platform.ledger = scene.platform.ledger ++ ids.map .takenBack)
      fun _ _ => False := by
  induction ids generalizing scene with
  | nil => exact ⟨booked, (List.append_nil _).symm⟩
  | cons id rest ih =>
    rw [releaseAll_cons, leads_bind]
    apply (Leads.and (Backend.release_removes id audit _ scene booked List.mem_cons_self)
      (Backend.release_enters id scene booked.present)).mono
    · rintro _ middle ⟨removed, entered⟩
      have held : Booked audit (rest ++ others) middle := by simpa using removed
      apply (ih held).mono
      · rintro _ after ⟨gone, more⟩
        exact ⟨gone, by rw [more, entered, List.append_assoc, List.map_cons, List.singleton_append]⟩
      · exact fun _ _ impossible => impossible
    · exact fun _ _ impossible => impossible.1

private theorem rollBack_enters (created : List ResourceId) (booked : Booked audit (created ++ others) scene) :
    (rollBack created).Leads scene
      (fun _ after => Booked audit others after ∧
        after.platform.ledger = scene.platform.ledger ++ created.map .takenBack)
      fun _ _ => False := by
  rw [rollBack]
  split
  · rw [leads_bind, leads_own, leads_bind, leads_notify]
    have told : (scene.platform.record (.notice (.rollingBack created.length scene.own.tier))).ledger =
        scene.platform.ledger :=
      (Platform.ledger_record ..).trans (List.append_nil _)
    rw [← told]
    exact releaseAll_enters created (booked.unheld (.record _ nofun) fun _ backs => backs)
  · exact releaseAll_enters created booked

end Release

section Outcome
open Creation

/-- The sizes are the contents' own, rounded up to that power of two. -/
def Rounded (k : Nat) (size : Bytes → Nat) : Prop :=
  ∀ contents ∈ Quad.contents, RoundsUp (2 ^ k) contents.size (size contents)

/-- The contents of the quad fit a word with any alignment that does. -/
theorem exists_sizes {k : Nat} (inWord : k < 64) : ∃ size : Bytes → Nat,
    (∀ contents ∈ Quad.contents, alignUp? contents.size (2 ^ k) = some (size contents)) ∧
      Rounded k size := by
  have fits (contents : Bytes) (member : contents ∈ Quad.contents) :
      alignUp? contents.size (2 ^ k) = some ((alignUp? contents.size (2 ^ k)).getD 0) ∧
        RoundsUp (2 ^ k) contents.size ((alignUp? contents.size (2 ^ k)).getD 0) := by
    have few := Quad.contents_small contents member
    have half : 2 ^ k ≤ 2 ^ 63 := Nat.pow_le_pow_right Nat.two_pos (Nat.le_of_lt_succ inWord)
    have word : wordLimit = 2 ^ 64 := rfl
    have fitting : contents.size + 2 ^ k < wordLimit := by omega
    obtain ⟨rounded, found, rounds⟩ := exists_alignUp? fitting
    rw [found]
    exact ⟨rfl, rounds⟩
  exact ⟨fun contents => (alignUp? contents.size (2 ^ k)).getD 0,
    fun contents member => (fits contents member).1, fun contents member => (fits contents member).2⟩

/-- Since `start`, when `books` were kept of the tier, everything reported was in order and came to
these entries; now the tier holds the objects `live` and no others. -/
def Recorded (books : Books) (start : Platform) (entries : List LedgerEntry) (live : List ResourceId)
    (scene : Scene Backend) : Prop :=
  ∃ log, scene.platform.events.toList = start.events.toList ++ log ∧
    books.Audited (books.live.length + 7) log ∧ log.filterMap Event.entry? = entries ∧
    scene.own.Holds live ∧ scene.own.live = live.length

theorem Recorded.of_booked {books : Books} {start : Platform} {entries : List LedgerEntry}
    {live : List ResourceId} {scene : Scene Backend}
    (booked : Booked ⟨books.live.length + 7, books, start⟩ live scene)
    (entered : scene.platform.ledger = start.ledger ++ entries) :
    Recorded books start entries live scene := by
  obtain ⟨log, grown, audited, held, backs⟩ := booked
  refine ⟨log, grown, audited, ?_, held ▸ backs.holds, held ▸ backs.holds.live_eq⟩
  rw [Platform.ledger, grown, List.filterMap_append] at entered
  exact List.append_cancel_left entered

/-- What a build that works leaves: its seven objects beside those that were there, and a set that takes
them all off again. -/
structure Whole (k : Nat) (books : Books) (start : Scene Backend) (dims : Dims) (set : ResourceSet)
    (last : Scene Backend) : Prop where
  drawn : dims.isEmpty = false
  of : set.dims = dims
  made : ∃ size middle, Rounded k size ∧ Makes start (set.creations size) middle ∧
    last = ⟨middle.own, middle.platform.record (.notice (.built start.own.tier dims))⟩
  recorded : Recorded books start.platform (set.ids.reverse.map .handedOut) (set.ids ++ books.live) last
  released : set.release.Leads last
    (fun _ after => Recorded books start.platform
      (set.ids.reverse.map .handedOut ++ set.ids.map .takenBack) books.live after)
    fun _ _ => False

/-- What a build that fails leaves: when there is nothing to draw, all as it was; else the objects that
were there, after those created before the failing one were released, the newest first. -/
def Undone (k : Nat) (books : Books) (start : Scene Backend) (dims : Dims) (failure : Failure)
    (last : Scene Backend) : Prop :=
  if dims.isEmpty then
    failure = .refused (.resource "texture" ("empty framebuffer " ++ dims.text)) ∧ last = start
  else
    ∃ size early, Rounded k size ∧ BreaksOff size start dims early failure last ∧
      Recorded books start.platform
        ((objects early).map .handedOut ++ (objects early).reverse.map .takenBack) books.live last

variable {k : Nat} {books : Books} {start : Scene Backend} {dims : Dims} {size : Bytes → Nat}

private theorem Whole.of_makes {set : ResourceSet} {middle : Scene Backend} (drawn : dims.isEmpty = false)
    (of : set.dims = dims) (rounded : Rounded k size)
    (booked : Booked ⟨books.live.length + 7, books, start.platform⟩ books.live start)
    (makes : Makes start (set.creations size) middle) :
    Whole k books start dims set
      ⟨middle.own, middle.platform.record (.notice (.built start.own.tier dims))⟩ := by
  have held := makes.booked booked (Nat.le_refl _)
  rw [objects_creations, List.reverse_reverse] at held
  have told : (middle.platform.record (.notice (.built start.own.tier dims))).ledger =
      start.platform.ledger ++ set.ids.reverse.map .handedOut := by
    rw [Platform.ledger_record, makes.ledger, objects_creations]
    exact List.append_nil _
  have built : Booked ⟨books.live.length + 7, books, start.platform⟩ (set.ids ++ books.live)
      ⟨middle.own, middle.platform.record (.notice (.built start.own.tier dims))⟩ :=
    held.unheld (.record _ nofun) fun _ backs => backs
  refine ⟨drawn, of, ⟨size, middle, rounded, makes, rfl⟩, .of_booked built told, ?_⟩
  apply (releaseAll_enters set.ids built).mono
  · intro _ after ⟨gone, more⟩
    refine .of_booked gone ?_
    rw [more, told, List.append_assoc]
  · exact fun _ _ impossible => impossible

private theorem Undone.of_breaksOff {early : List (Creation × Nat)} {failure : Failure} {last : Scene Backend}
    (drawn : dims.isEmpty = false) (rounded : Rounded k size)
    (booked : Booked ⟨books.live.length + 7, books, start.platform⟩ books.live start)
    (breaks : BreaksOff size start dims early failure last) : Undone k books start dims failure last := by
  rw [Undone, drawn, if_neg Bool.false_ne_true]
  refine ⟨size, early, rounded, breaks, ?_⟩
  obtain ⟨set, creation, number, late, middle, failed, of, planned, sofar, ran, undone⟩ := breaks
  have few := length_early planned
  have held := sofar.booked booked (Nat.add_le_add_left (Nat.le_of_lt few) _)
  have adds := creation.make_adds _ _ middle held (by simp [objects]; omega)
  have enters := creation.make_enters middle
  rw [leads_of_error ran] at adds enters
  have still : Booked _ ((objects early).reverse ++ books.live) failed := adds
  have gone := rollBack_enters _ still
  rw [leads_of_ok undone, enters, sofar.ledger, List.append_assoc] at gone
  exact .of_booked gone.1 gone.2

/-- Whatever the tier holds, whatever its alignment and wherever it fails, a build makes all of its
objects or leaves the tier with those that it held. -/
theorem build_all_or_nothing {backend : Backend} (held : backend.Backs books)
    (aligned : backend.alignment = 2 ^ k) (inWord : k < 64) (dims : Dims) (platform : Platform) :
    (build dims).Leads ⟨backend, platform⟩ (Whole k books ⟨backend, platform⟩ dims)
      (Undone k books ⟨backend, platform⟩ dims) := by
  by_cases empty : dims.isEmpty = true
  · rw [build, if_pos empty, leads_refuse, Undone, if_pos empty]
    exact ⟨rfl, rfl⟩
  have drawn : dims.isEmpty = false := by simpa using empty
  have booked : Booked ⟨books.live.length + 7, books, platform⟩ books.live ⟨backend, platform⟩ :=
    ⟨[], (List.append_nil _).symm, trivial, rfl, held⟩
  obtain ⟨size, sized, rounded⟩ := exists_sizes inWord
  apply (build_makes drawn (aligned ▸ sized) booked (Nat.le_refl _)).mono
  · rintro set _ ⟨of, middle, makes, rfl⟩
    exact .of_makes drawn of rounded booked makes
  · intro failure last ⟨early, breaks⟩
    exact .of_breaksOff drawn rounded booked breaks

@[irreducible] def takenTier : Backend :=
  .simulated
    { script :=
        { alignment := 8, faults := [⟨"framebuffer", some 1, .resource "texture" "out of memory"⟩] }
      live := { next := 4, items := [(2, "kept")] } }

def takenBooks : Books :=
  { live := [.texture 2], handed := [.buffer 3, .texture 2, .buffer 1] }

theorem build_all_or_nothing_on_taken_tier :
    takenTier.Backs takenBooks ∧ takenTier.alignment = 2 ^ 3 ∧ 3 < 64 ∧
      (build ⟨2, 1⟩).Leads ⟨takenTier, {}⟩ (Whole 3 takenBooks ⟨takenTier, {}⟩ ⟨2, 1⟩)
        (Undone 3 takenBooks ⟨takenTier, {}⟩ ⟨2, 1⟩) := by
  have held : takenTier.Backs takenBooks := by
    unfold takenTier
    exact ⟨rfl, by simp [takenBooks, ResourceId.number], by simp [takenBooks], by decide⟩
  have aligned : takenTier.alignment = 2 ^ 3 := by
    unfold takenTier
    rfl
  have inWord : 3 < 64 := by decide
  exact ⟨held, aligned, inWord, build_all_or_nothing held aligned inWord ⟨2, 1⟩ {}⟩

end Outcome
end ResourceSet
end FrameViewer
