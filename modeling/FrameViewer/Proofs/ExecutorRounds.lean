import FrameViewer.Proofs.ParkedTasks
import Mathlib.Algebra.GroupWithZero.Nat

/-! What one drive of the executor runs, and in which order: first the tasks that were due, then
those that came in, each of them once. Those that park again stand behind the others. -/

namespace FrameViewer
open Act

variable {τ ρ : Type}

namespace Executor

/-- A task parked on a deadline. -/
structure Wait (τ : Type) where
  deadline : Nat
  id : Nat
  task : τ

def Wait.timer (wait : Wait τ) : Nat × Nat :=
  (wait.deadline, wait.id)

def Wait.entry (wait : Wait τ) : Nat × τ :=
  (wait.id, wait.task)

structure Run (τ : Type) where
  id : Nat
  task : τ
  polled : Polled τ

def Run.wait? (run : Run τ) : Option (Wait τ) :=
  run.polled.parked.map fun (deadline, task) => { deadline, id := run.id, task }

def tellReady (poll : τ → Act ρ (Polled τ)) : Nat → Act (Executor τ × ρ) (List (Run τ))
  | 0 => return []
  | fuel + 1 => do
    let (e, _) ← Act.own
    let e := if e.ready.isEmpty then e.takeOver else e
    match e.pop with
    | (none, e) =>
      Act.update fun s => (e, s.2)
      return []
    | (some (id, task), e) =>
      Act.update fun s => (e, s.2)
      let s ← Act.own
      let polled ← Act.within s.2 (fun rest => (e, rest)) (poll task)
      Act.update fun s => (s.1.settle id polled, s.2)
      return { id, task, polled } :: (← tellReady poll fuel)

private theorem runReady_eq_tellReady (poll : τ → Act ρ (Polled τ)) (fuel : Nat) :
    runReady poll fuel = (do
      let _ ← tellReady poll fuel
      return ()) := by
  induction fuel with
  | zero => simp [runReady, tellReady]
  | succ fuel ih =>
    unfold runReady tellReady
    simp only [bind_assoc]
    congr 1
    funext s
    generalize (if s.1.ready.isEmpty then s.1.takeOver else s.1).pop = popped
    obtain ⟨_ | ⟨id, task⟩, e⟩ := popped <;> simp [ih]

structure Round (τ : Type) where
  now : Nat
  runs : List (Run τ)

def tellDrive (size : τ → Nat) (poll : τ → Act ρ (Polled τ)) : Act (Executor τ × ρ) (Round τ) := do
  let now := (← Act.platform).clock
  Act.update fun s => ((s.1.wake now).takeOver, s.2)
  let (e, _) ← Act.own
  return { now, runs := ← tellReady poll (e.work size) }

theorem drive_eq_tellDrive (size : τ → Nat) (poll : τ → Act ρ (Polled τ)) :
    drive size poll = (do
      let _ ← tellDrive size poll
      return ()) := by
  simp [drive, tellDrive, runReady_eq_tellReady]

/-- The tasks that came in are taken over under new numbers, and all of them are ready. -/
theorem takeOver_eq (e : Executor τ) :
    e.takeOver = { e with
      next := e.next + e.incoming.length
      incoming := []
      tasks := e.tasks ++ (e.incoming.zipIdx e.next).map Prod.swap
      ready := e.ready ++ List.range' e.next e.incoming.length } := by
  rw [takeOver, List.zipIdx_map_snd]
  rfl

private theorem mem_newcomers (e : Executor τ) {entry : Nat × τ}
    (member : entry ∈ (e.incoming.zipIdx e.next).map Prod.swap) :
    entry.1 ∈ List.range' e.next e.incoming.length := by
  obtain ⟨numbered, inside, rfl⟩ := List.mem_map.mp member
  rw [← List.zipIdx_map_snd]
  exact List.mem_map_of_mem inside

/-- How a run is registered: what it spawned comes in, and its task stands behind the others if it
parked again. -/
def register (run : Run τ) (e : Executor τ) : Executor τ :=
  { e with
    incoming := e.incoming ++ run.polled.spawned
    tasks := e.tasks ++ run.wait?.toList.map Wait.entry
    timers := e.timers ++ run.wait?.toList.map Wait.timer }

structure Drained (before : Executor τ) (runs : List (Run τ)) (after : Executor τ) : Prop where
  /-- Those that were due come first, then those that came in, by new numbers. -/
  turns : ∃ fresh, runs.map Run.id = before.ready ++ List.range' before.next fresh ∧
    after.next = before.next + fresh
  known : ∀ run ∈ runs, run.id ∈ before.ready → (run.id, run.task) ∈ before.tasks
  tasks : after.tasks = before.tasks.filter (fun entry => entry.1 ∉ before.ready) ++
    (runs.filterMap Run.wait?).map Wait.entry
  timers : after.timers = before.timers ++ (runs.filterMap Run.wait?).map Wait.timer
  idle : after.ready = []
  empty : after.incoming = []

namespace Drained

variable {e after : Executor τ} {runs : List (Run τ)}

theorem refl (idle : e.ready = []) (empty : e.incoming = []) : Drained e [] e where
  turns := ⟨0, by simp [idle], rfl⟩
  known := by simp
  tasks := by simp [idle]
  timers := by simp
  idle := idle
  empty := empty

/-- It makes no difference when new tasks are taken over. -/
theorem of_takeOver (scheduled : e.Scheduled fun _ => True) (drained : Drained e.takeOver runs after) :
    Drained e runs after := by
  have old (id : Nat) (member : id ∈ e.tasks.map (·.1)) : id < e.next :=
    scheduled.numbered.bounded id member
  have due (id : Nat) (ready : id ∈ e.ready) : id < e.next :=
    old id (scheduled.turns.mem_iff.mp (List.mem_append_left _ ready))
  rw [takeOver_eq] at drained
  obtain ⟨⟨fresh, turns, next⟩, known, tasks, timers, idle, empty⟩ := drained
  refine ⟨⟨e.incoming.length + fresh, ?_, ?_⟩, ?_, ?_, timers, idle, empty⟩
  · rw [turns, List.append_assoc, List.range'_append_1]
  · rw [next, Nat.add_assoc]
  · intro run member ready
    have among := known run member (List.mem_append_left _ ready)
    refine (List.mem_append.mp among).resolve_right fun new => ?_
    have later := (List.mem_range'_1.mp (e.mem_newcomers new)).1
    exact absurd (due run.id ready) (Nat.not_lt_of_le later)
  · rw [tasks]
    congr 1
    have gone : ((e.incoming.zipIdx e.next).map Prod.swap).filter
        (fun entry => entry.1 ∉ e.ready ++ List.range' e.next e.incoming.length) = [] := by
      refine List.filter_eq_nil_iff.mpr fun entry member kept => ?_
      exact of_decide_eq_true kept (List.mem_append_right _ (e.mem_newcomers member))
    rw [List.filter_append, gone, List.append_nil]
    refine List.filter_congr fun entry member => ?_
    have := old entry.1 (List.mem_map_of_mem member)
    simp [List.mem_range'_1]
    omega

private theorem of_settle {run : Run τ} (scheduled : e.Scheduled fun _ => True)
    (drained : Drained (e.settle run.id run.polled) runs after) :
    Drained (e.register run) runs after := by
  have spawned : ({ e with incoming := e.incoming ++ run.polled.spawned }).Scheduled fun _ => True :=
    ⟨⟨scheduled.numbered.distinct, scheduled.numbered.bounded⟩, scheduled.turns, scheduled.parked⟩
  unfold settle at drained
  unfold register Run.wait?
  cases parked : run.polled.parked with
  | none =>
    simp only [parked] at drained
    simpa using of_takeOver spawned drained
  | some wait => simpa [parked, Wait.entry, Wait.timer] using drained

/-- A task that was due is run, and what it came to is added to what is left. -/
theorem cons {others : List Nat} {run : Run τ} (scheduled : e.Scheduled fun _ => True)
    (ready : e.ready = run.id :: others) (lookup : e.tasks.lookup run.id = some run.task)
    (drained : Drained
      (({ e with ready := others, tasks := e.tasks.filter (·.1 != run.id) } : Executor τ).register run)
      runs after) : Drained e (run :: runs) after := by
  have distinct : (run.id :: others).Nodup := by
    rw [← ready]
    exact (scheduled.turns.nodup_iff.mpr scheduled.numbered.distinct).of_append_left
  obtain ⟨alone, -⟩ := List.nodup_cons.mp distinct
  have found : (run.id, run.task) ∈ e.tasks := by
    obtain ⟨before, after, split, _⟩ := List.lookup_eq_some_iff.mp lookup
    simp [split]
  have given : run.id < e.next := scheduled.numbered.bounded _ (List.mem_map_of_mem found)
  have marked : ∀ wait ∈ run.wait?.toList.map Wait.entry, wait.1 = run.id := by
    intro entry member
    obtain ⟨wait, inside, rfl⟩ := List.mem_map.mp member
    obtain ⟨_, _, rfl⟩ := Option.map_eq_some_iff.mp (Option.mem_toList.mp inside)
    rfl
  have kept : run.wait?.toList ++ runs.filterMap Run.wait? = (run :: runs).filterMap Run.wait? := by
    cases wait : run.wait? <;> simp [wait]
  obtain ⟨fresh, turns, next⟩ : ∃ fresh, runs.map Run.id = others ++ List.range' e.next fresh ∧
      after.next = e.next + fresh := drained.turns
  have tasks : after.tasks = (e.tasks.filter (·.1 != run.id) ++
      run.wait?.toList.map Wait.entry).filter (fun entry => entry.1 ∉ others) ++
      (runs.filterMap Run.wait?).map Wait.entry := drained.tasks
  have timers : after.timers = e.timers ++ run.wait?.toList.map Wait.timer ++
      (runs.filterMap Run.wait?).map Wait.timer := drained.timers
  refine ⟨⟨fresh, ?_, next⟩, ?_, ?_, ?_, drained.idle, drained.empty⟩
  · rw [List.map_cons, turns, ready, List.cons_append]
  · intro other member due
    rcases List.mem_cons.mp member with rfl | later
    · exact found
    -- It is another task, as no task is run twice.
    have apart : other.id ≠ run.id := by
      intro same
      have again : run.id ∈ others ++ List.range' e.next fresh :=
        turns ▸ same ▸ List.mem_map_of_mem later
      rcases List.mem_append.mp again with early | new
      · exact alone early
      · have := (List.mem_range'_1.mp new).1
        omega
    rw [ready] at due
    have waits := drained.known other later ((List.mem_cons.mp due).resolve_left apart)
    rcases List.mem_append.mp waits with old | new
    · exact (List.mem_filter.mp old).1
    · exact absurd (marked _ new) apart
  · have stays : (run.wait?.toList.map Wait.entry).filter (fun entry => entry.1 ∉ others) =
        run.wait?.toList.map Wait.entry := by
      refine List.filter_eq_self.mpr fun entry member => ?_
      rw [marked entry member]
      exact decide_eq_true alone
    rw [tasks, ready, List.filter_append, List.filter_filter, stays, List.append_assoc,
      ← List.map_append, kept]
    congr 1
    refine List.filter_congr fun entry _ => ?_
    simp [bne, beq_eq_decide, Bool.and_comm]
  · rw [timers, List.append_assoc, ← List.map_append, kept]

end Drained

/-- What the tasks that are due or come in can still make to be run. -/
def load (size : τ → Nat) (e : Executor τ) : Nat :=
  ((e.tasks.filter (fun entry => entry.1 ∈ e.ready)).map (size ·.2)).sum + (e.incoming.map size).sum

private theorem foldl_size {α : Type} (size : α → Nat) (items : List α) (start : Nat) :
    items.foldl (fun total item => total + size item) start = start + (items.map size).sum := by
  induction items generalizing start with
  | nil => rfl
  | cons item items ih => rw [List.foldl_cons, ih, List.map_cons, List.sum_cons, Nat.add_assoc]

private theorem load_le_work (size : τ → Nat) (e : Executor τ) : e.load size ≤ e.work size := by
  have parts := (List.filter_append_perm (fun entry => entry.1 ∈ e.ready) e.tasks).map (size ·.2)
  have total : e.work size = (e.incoming.map size).sum + (e.tasks.map (size ·.2)).sum := by
    unfold work
    rw [foldl_size size, foldl_size (fun entry : Nat × τ => size entry.2), Nat.zero_add]
  rw [load, total, ← parts.sum_nat, List.map_append, List.sum_append_nat]
  omega

section Load

variable {size : τ → Nat} {e : Executor τ} (scheduled : e.Scheduled fun _ => True)
include scheduled

private theorem load_takeOver : e.takeOver.load size = e.load size := by
  have old : e.tasks.filter (fun entry => entry.1 ∈ e.ready ++ List.range' e.next e.incoming.length) =
      e.tasks.filter (fun entry => entry.1 ∈ e.ready) := by
    refine List.filter_congr fun entry member => ?_
    have := scheduled.numbered.bounded entry.1 (List.mem_map_of_mem member)
    simp [List.mem_range'_1]
    omega
  have new : ((e.incoming.zipIdx e.next).map Prod.swap).filter
      (fun entry => entry.1 ∈ e.ready ++ List.range' e.next e.incoming.length) =
      (e.incoming.zipIdx e.next).map Prod.swap := by
    refine List.filter_eq_self.mpr fun entry member => ?_
    exact decide_eq_true (List.mem_append_right _ (e.mem_newcomers member))
  have sizes : ((e.incoming.zipIdx e.next).map Prod.swap).map (size ·.2) =
      e.incoming.map size := by
    conv => rhs; rw [← List.zipIdx_map_fst e.next e.incoming]
    simp only [List.map_map]
    rfl
  rw [takeOver_eq]
  unfold load
  rw [List.filter_append, old, new, List.map_append, sizes, List.sum_append, List.map_nil,
    List.sum_nil, Nat.add_zero]

private theorem load_settle (run : Run τ) (absent : run.id ∉ e.ready) :
    (e.settle run.id run.polled).load size = e.load size + (run.polled.spawned.map size).sum := by
  have spawned : ({ e with incoming := e.incoming ++ run.polled.spawned }).Scheduled fun _ => True :=
    ⟨⟨scheduled.numbered.distinct, scheduled.numbered.bounded⟩, scheduled.turns, scheduled.parked⟩
  unfold settle
  cases run.polled.parked with
  | none =>
    rw [load_takeOver spawned]
    simp [load, Nat.add_assoc]
  | some parked => simp [load, absent, Nat.add_assoc]

private theorem nothing_due (least : ∀ task, 1 ≤ size task) (none : e.load size = 0) :
    e.ready = [] ∧ e.incoming = [] := by
  obtain ⟨due, new⟩ := Nat.add_eq_zero_iff.mp none
  constructor
  · refine List.eq_nil_iff_forall_not_mem.mpr fun id ready => ?_
    obtain ⟨task, lookup⟩ := scheduled.found ready
    obtain ⟨before, after, split, _⟩ := List.lookup_eq_some_iff.mp lookup
    have := least task
    simp [split, ready] at due
    omega
  · refine List.eq_nil_iff_forall_not_mem.mpr fun task member => ?_
    have := least task
    have := List.sum_eq_zero_iff_forall_eq_nat.mp new _ (List.mem_map_of_mem member)
    omega

private theorem load_pop {rest : Executor τ} {id : Nat} {task : τ}
    (popped : e.pop = (some (id, task), rest)) : e.load size = size task + rest.load size := by
  obtain ⟨others, ready, lookup, rfl⟩ := pop_eq_some popped
  obtain ⟨before, after, split, left⟩ := filter_of_lookup scheduled.numbered.distinct lookup
  have distinct := scheduled.numbered.distinct
  rw [split, List.map_append, List.map_cons, List.nodup_middle, List.nodup_cons,
    ← List.map_append] at distinct
  have same : (before ++ after).filter (fun entry => entry.1 ∈ id :: others) =
      (before ++ after).filter (fun entry => entry.1 ∈ others) := by
    refine List.filter_congr fun entry member => ?_
    have apart : entry.1 ≠ id := fun equal =>
      distinct.1 (List.mem_map.mpr ⟨entry, member, equal⟩)
    simp [apart]
  have taken : (e.tasks.filter fun entry => entry.1 ∈ id :: others).Perm
      ((id, task) :: (before ++ after).filter fun entry => entry.1 ∈ others) := by
    rw [split, ← same]
    exact (List.perm_middle.filter _).trans (by simp)
  unfold load
  simp only [ready, left]
  rw [(taken.map (size ·.2)).sum_nat, List.map_cons, List.sum_cons, Nat.add_assoc]

end Load

/-- Each run spawns less than it was itself, so that a drive comes to an end, and breaks down only
so. -/
structure Brief (size : τ → Nat) (poll : τ → Act ρ (Polled τ)) (failed : Failure → Prop) : Prop where
  least : ∀ task, 1 ≤ size task
  spawns : ∀ task scene, (poll task).Leads scene
    (fun polled _ => (polled.spawned.map size).sum < size task) fun failure _ => failed failure

section Drive

variable {size : τ → Nat} {poll : τ → Act ρ (Polled τ)} {failed : Failure → Prop}
  {scene : Scene (Executor τ × ρ)}

private theorem tellReady_leads (brief : Brief size poll failed) (fuel : Nat)
    (scheduled : scene.own.1.Scheduled fun _ => True) (enough : scene.own.1.load size ≤ fuel) :
    (tellReady poll fuel).Leads scene (fun runs after => Drained scene.own.1 runs after.own.1)
      fun failure _ => failed failure := by
  induction fuel generalizing scene with
  | zero =>
    obtain ⟨idle, empty⟩ := nothing_due scheduled brief.least (Nat.le_zero.mp enough)
    exact .refl idle empty
  | succ fuel ih =>
    obtain ⟨⟨e, shared⟩, platform⟩ := scene
    unfold tellReady
    simp only [leads_bind, leads_own]
    -- New tasks are taken over first when no other is ready, and that makes no difference.
    have current : ∃ e', e' = (if e.ready.isEmpty then e.takeOver else e) ∧
        e'.Scheduled (fun _ => True) ∧ e'.load size ≤ fuel + 1 ∧ (e'.ready = [] → e'.incoming = []) ∧
        ∀ runs after, Drained e' runs after → Drained e runs after := by
      refine ⟨_, rfl, ?_⟩
      split
      next =>
        exact ⟨scheduled.takeOver, Nat.le_trans (Nat.le_of_eq (load_takeOver scheduled)) enough, fun _ => rfl,
          fun runs after => .of_takeOver scheduled⟩
      next busy =>
        exact ⟨scheduled, enough, fun empty => absurd (List.isEmpty_iff.mpr empty) busy,
          fun _ _ drained => drained⟩
    obtain ⟨e', same, scheduled', enough', taken, whole⟩ := current
    rw [← same]
    cases popped : e'.pop with
    | mk task rest =>
      cases task with
      | none =>
        obtain ⟨rfl, empty⟩ := scheduled'.pop_none popped
        exact whole _ _ (.refl empty (taken empty))
      | some task =>
        obtain ⟨id, task⟩ := task
        obtain ⟨still, given, absent, -⟩ := scheduled'.pop_some popped
        have smaller : e'.load size = size task + rest.load size := load_pop scheduled' popped
        obtain ⟨others, ready, lookup, left⟩ := pop_eq_some popped
        have unready : id ∉ rest.ready := by
          have distinct := (scheduled'.turns.nodup_iff.mpr scheduled'.numbered.distinct).of_append_left
          rw [ready] at distinct
          rw [left]
          exact (List.nodup_cons.mp distinct).1
        simp only [leads_bind, leads_update, leads_own, leads_within]
        refine (brief.spawns task _).mono (fun polled after less => ?_) fun _ _ broken => broken
        have settled : (rest.settle id polled).Scheduled fun _ => True :=
          still.settle given absent fun _ _ _ => trivial
        have lighter : (rest.settle id polled).load size ≤ fuel := by
          rw [load_settle still { id, task, polled } unready]
          show rest.load size + (polled.spawned.map size).sum ≤ fuel
          omega
        refine (ih settled lighter).mono (fun runs last drained => ?_) fun _ _ broken => broken
        refine whole _ _ (.cons scheduled' ready lookup ?_)
        rw [← left]
        exact .of_settle still drained

/-- A drive runs what is due by its time, and what comes in. -/
theorem tellDrive_leads (brief : Brief size poll failed) (scheduled : scene.own.1.Scheduled fun _ => True) :
    (tellDrive size poll).Leads scene
      (fun round after => round.now = scene.platform.clock ∧
        Drained (scene.own.1.wake round.now) round.runs after.own.1)
      fun failure _ => failed failure := by
  unfold tellDrive
  simp only [leads_bind, leads_platform, leads_update, leads_own]
  have woken := scheduled.wake scene.platform.clock
  refine Leads.mono (tellReady_leads brief _ ?_ (load_le_work size _)) ?_ fun _ _ broken => broken
  · exact woken.takeOver
  · exact fun runs after drained => ⟨rfl, .of_takeOver woken drained⟩

end Drive
end Executor
end FrameViewer
