import FrameViewer.Proofs.ExecutorTasks

/-! A task that has not ended and was taken over is due to run, or one timer of its own is to wake
it. A drive of the executor goes on until no task is due. -/

namespace FrameViewer
open Act

variable {τ ρ : Type} {Parked : τ → Prop}

/-- A run of a task that spawned nothing, and parked at most something of that kind. -/
structure Polled.Parks (Parked : τ → Prop) (polled : Polled τ) : Prop where
  alone : polled.spawned = []
  parked : ∀ deadline task, polled.parked = some (deadline, task) → Parked task

namespace Executor

/-- Every task has its number either among those that are due or at one timer, and what waits at
a timer is of that kind. -/
structure Scheduled (Parked : τ → Prop) (e : Executor τ) : Prop where
  numbered : e.Numbered
  turns : (e.ready ++ e.timers.map (·.2)).Perm (e.tasks.map (·.1))
  parked : ∀ entry ∈ e.tasks, entry.1 ∉ e.ready → Parked entry.2

/-- How many tasks are to be run before the executor comes to rest. -/
def due (e : Executor τ) : Nat :=
  e.ready.length + e.incoming.length

private theorem due_takeOver (e : Executor τ) : e.takeOver.due = e.due := by
  simp [due, takeOver]

private theorem due_settle (e : Executor τ) (id : Nat) {polled : Polled τ} (alone : polled.spawned = []) :
    (e.settle id polled).due = e.due := by
  unfold settle
  rw [alone, List.append_nil]
  cases polled.parked with
  | none => exact e.due_takeOver
  | some parked => rfl

namespace Scheduled

variable {e rest : Executor τ} {id : Nat} {task : τ}

theorem wake (scheduled : e.Scheduled Parked) (now : Nat) : (e.wake now).Scheduled Parked := by
  refine ⟨⟨scheduled.numbered.distinct, scheduled.numbered.bounded⟩, ?_, ?_⟩
  · have later : e.timers.filter (now < ·.1) =
        e.timers.filter (fun timer => !decide (timer.1 ≤ now)) := by
      apply List.filter_congr
      intro timer _
      rw [← decide_not, decide_eq_decide, Nat.not_le]
    have split : ((e.timers.filter (·.1 ≤ now)).map (·.2) ++
        (e.timers.filter (now < ·.1)).map (·.2)).Perm (e.timers.map (·.2)) := by
      rw [later, ← List.map_append]
      exact (List.filter_append_perm _ _).map _
    simp only [Executor.wake, List.append_assoc]
    exact (split.append_left _).trans scheduled.turns
  · intro entry member absent
    apply scheduled.parked entry member
    intro ready
    exact absent (List.mem_append_left _ ready)

theorem takeOver (scheduled : e.Scheduled Parked) : e.takeOver.Scheduled Parked := by
  refine ⟨scheduled.numbered.takeOver, ?_, ?_⟩
  · simp only [Executor.takeOver, List.map_append, List.map_map, List.append_assoc]
    refine (List.perm_append_comm.append_left _).trans ?_
    rw [← List.append_assoc]
    exact scheduled.turns.append_right _
  · intro entry member absent
    rcases List.mem_append.mp member with old | new
    · apply scheduled.parked entry old
      intro ready
      exact absent (List.mem_append_left _ ready)
    · obtain ⟨numbered, inside, rfl⟩ := List.mem_map.mp new
      exact absurd (List.mem_append_right _ (List.mem_map_of_mem inside)) absent

theorem found (scheduled : e.Scheduled Parked) (ready : id ∈ e.ready) :
    ∃ task, e.tasks.lookup id = some task := by
  have member : id ∈ e.tasks.map (·.1) :=
    scheduled.turns.mem_iff.mp (List.mem_append_left _ ready)
  cases lookup : e.tasks.lookup id with
  | some task => exact ⟨task, rfl⟩
  | none =>
    obtain ⟨entry, inside, rfl⟩ := List.mem_map.mp member
    have different := List.lookup_eq_none_iff.mp lookup entry inside
    simp at different

/-- Numbers that are due belong to tasks, so only an executor at rest has nothing to run. -/
theorem pop_none (scheduled : e.Scheduled Parked) (popped : e.pop = (none, rest)) :
    rest = e ∧ e.ready = [] := by
  unfold pop at popped
  split at popped
  next empty =>
    cases popped
    exact ⟨rfl, empty⟩
  next first others ready =>
    obtain ⟨task, lookup⟩ := scheduled.found (ready ▸ List.mem_cons_self)
    rw [lookup] at popped
    cases popped

theorem pop_some (scheduled : e.Scheduled Parked) (popped : e.pop = (some (id, task), rest)) :
    rest.Scheduled Parked ∧ id < rest.next ∧ id ∉ rest.tasks.map (·.1) ∧ rest.due + 1 = e.due := by
  obtain ⟨_, numbered, given, absent⟩ := Executor.pop_some scheduled.numbered popped
  obtain ⟨others, ready, lookup, rfl⟩ := pop_eq_some popped
  refine ⟨⟨numbered, ?_, ?_⟩, given, absent, ?_⟩
  · obtain ⟨before, after, split, left⟩ := filter_of_lookup scheduled.numbered.distinct lookup
    have turns := scheduled.turns
    rw [ready, split, List.map_append, List.map_cons] at turns
    simp only [left, List.map_append]
    exact (turns.trans List.perm_middle).cons_inv
  · intro entry member waits
    obtain ⟨inside, different⟩ := List.mem_filter.mp member
    apply scheduled.parked entry inside
    rw [ready, List.mem_cons]
    rintro (same | again)
    · exact bne_iff_ne.mp different same
    · exact waits again
  · simp only [due, ready, List.length_cons]
    omega

theorem settle (scheduled : e.Scheduled Parked) (given : id < e.next)
    (absent : id ∉ e.tasks.map (·.1)) {polled : Polled τ}
    (parks : ∀ deadline task, polled.parked = some (deadline, task) → Parked task) :
    (e.settle id polled).Scheduled Parked := by
  have numbered := scheduled.numbered.settle given absent polled
  have spawned : ({ e with incoming := e.incoming ++ polled.spawned }).Scheduled Parked :=
    ⟨⟨scheduled.numbered.distinct, scheduled.numbered.bounded⟩, scheduled.turns, scheduled.parked⟩
  unfold Executor.settle at numbered ⊢
  cases waits : polled.parked with
  | none => exact spawned.takeOver
  | some parked =>
    obtain ⟨deadline, task⟩ := parked
    rw [waits] at numbered
    refine ⟨numbered, ?_, ?_⟩
    · simp only [List.map_append, List.map_cons, List.map_nil]
      rw [← List.append_assoc]
      exact scheduled.turns.append_right _
    · intro entry member idle
      rcases List.mem_append.mp member with old | new
      · exact scheduled.parked entry old idle
      · obtain rfl := List.mem_singleton.mp new
        exact parks deadline task waits

end Scheduled

/-- No task is due: each that was taken over is parked. -/
structure Rested (Parked : τ → Prop) (e : Executor τ) : Prop extends Scheduled Parked e where
  idle : e.ready = []

namespace Rested

variable {e : Executor τ} {entry : Nat × τ}

theorem spawn (rested : e.Rested Parked) (task : τ) : (e.spawn task).Rested Parked :=
  ⟨⟨⟨rested.numbered.distinct, rested.numbered.bounded⟩, rested.turns, rested.parked⟩, rested.idle⟩

theorem waits (rested : e.Rested Parked) (member : entry ∈ e.tasks) : Parked entry.2 := by
  apply rested.parked entry member
  rw [rested.idle]
  exact List.not_mem_nil

/-- A task at rest has one timer, and no other task has it. -/
theorem timer (rested : e.Rested Parked) (member : entry ∈ e.tasks) :
    ∃ deadline, (deadline, entry.1) ∈ e.timers ∧ (e.timers.map (·.2)).count entry.1 = 1 ∧
      (e.tasks.map (·.1)).count entry.1 = 1 := by
  have turns := rested.turns
  rw [rested.idle, List.nil_append] at turns
  have number : entry.1 ∈ e.tasks.map (·.1) := List.mem_map_of_mem member
  have once := List.count_eq_one_of_mem rested.numbered.distinct number
  obtain ⟨⟨deadline, id⟩, inside, same⟩ := List.mem_map.mp (turns.mem_iff.mpr number)
  obtain rfl : id = entry.1 := same
  exact ⟨deadline, inside, (turns.count_eq _).trans once, once⟩

end Rested

private theorem length_le_total {size : τ → Nat} (least : ∀ task, 1 ≤ size task) (tasks : List (Nat × τ))
    (start : Nat) :
    tasks.length + start ≤ tasks.foldl (fun total (_, task) => total + size task) start := by
  induction tasks generalizing start with
  | nil => exact Nat.le_of_eq (Nat.zero_add start)
  | cons entry entries ih =>
    have := least entry.2
    have := ih (start + size entry.2)
    show entries.length + 1 + start ≤ entries.foldl _ (start + size entry.2)
    omega

private theorem length_le_work {size : τ → Nat} (least : ∀ task, 1 ≤ size task) (e : Executor τ) :
    e.tasks.length ≤ e.work size := by
  exact Nat.le_trans (Nat.le_add_right _ _) (length_le_total least e.tasks _)

section Drive

variable {poll : τ → Act ρ (Polled τ)} {scene : Scene (Executor τ × ρ)}
  (polls : ∀ task shared,
    (poll task).Leads shared (fun polled _ => polled.Parks Parked) fun _ _ => True)
include polls

/-- Each run of a task takes one from those that are due and adds none. -/
private theorem runReady_rests (fuel : Nat) (scheduled : scene.own.1.Scheduled Parked)
    (enough : scene.own.1.due ≤ fuel) :
    (runReady poll fuel).Leads scene
      (fun _ after => after.own.1.Scheduled Parked ∧ after.own.1.due = 0) fun _ _ => True := by
  induction fuel generalizing scene with
  | zero => exact ⟨scheduled, Nat.le_zero.mp enough⟩
  | succ fuel ih =>
    obtain ⟨⟨e, shared⟩, platform⟩ := scene
    unfold runReady
    simp only [leads_bind, leads_own]
    -- When nothing is due after that, nothing was left to be taken over either.
    have next : (if e.ready.isEmpty then e.takeOver else e).Scheduled Parked ∧
        (if e.ready.isEmpty then e.takeOver else e).due ≤ fuel + 1 ∧
        ((if e.ready.isEmpty then e.takeOver else e).ready = [] →
          (if e.ready.isEmpty then e.takeOver else e).incoming = []) := by
      split
      next => exact ⟨scheduled.takeOver, e.due_takeOver ▸ enough, fun _ => rfl⟩
      next busy => exact ⟨scheduled, enough, fun empty => absurd (List.isEmpty_iff.mpr empty) busy⟩
    generalize (if e.ready.isEmpty then e.takeOver else e) = current at next
    obtain ⟨scheduled, enough, taken⟩ := next
    cases popped : current.pop with
    | mk task rest =>
      cases task with
      | none =>
        obtain ⟨rfl, empty⟩ := scheduled.pop_none popped
        refine ⟨scheduled, ?_⟩
        rw [due, empty, taken empty]
        rfl
      | some task =>
        obtain ⟨id, task⟩ := task
        obtain ⟨still, given, absent, fewer⟩ := scheduled.pop_some popped
        simp only [leads_bind, leads_update, leads_own, leads_within]
        refine (polls task _).mono (fun polled after parks => ?_) fun _ _ failed => failed
        refine ih (still.settle given absent parks.parked) ?_
        show (rest.settle id polled).due ≤ fuel
        rw [due_settle rest id parks.alone]
        omega

/-- A drive ends with every task parked. -/
theorem drive_rests {size : τ → Nat} (least : ∀ task, 1 ≤ size task)
    (scheduled : scene.own.1.Scheduled Parked) :
    (drive size poll).Leads scene (fun _ after => after.own.1.Rested Parked ∧ after.own.1.incoming = [])
      fun _ _ => True := by
  obtain ⟨⟨e, shared⟩, platform⟩ := scene
  unfold drive
  simp only [leads_bind, leads_platform, leads_update, leads_own]
  have woken : (e.wake platform.clock).takeOver.Scheduled Parked :=
    (scheduled.wake platform.clock).takeOver
  have enough : (e.wake platform.clock).takeOver.due ≤ (e.wake platform.clock).takeOver.work size := by
    have fewer := woken.turns.length_eq
    have within := length_le_work least (e.wake platform.clock).takeOver
    have none : (e.wake platform.clock).takeOver.incoming = [] := rfl
    rw [List.length_append, List.length_map, List.length_map] at fewer
    rw [due, none, List.length_nil]
    omega
  refine (runReady_rests polls _ woken enough).mono ?_ fun _ _ failed => failed
  intro _ after ⟨settled, done⟩
  obtain ⟨idle, none⟩ := Nat.add_eq_zero_iff.mp done
  exact ⟨⟨settled, List.eq_nil_of_length_eq_zero idle⟩, List.eq_nil_of_length_eq_zero none⟩

end Drive
end Executor
end FrameViewer
