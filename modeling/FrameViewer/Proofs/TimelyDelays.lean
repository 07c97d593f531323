import FrameViewer.Errand
import FrameViewer.Proofs.ExecutorRounds

/-! Delays neither fire early nor get lost. A task that parked is run again by the first drive that
begins at its deadline or later, and until then one timer stands for it. -/

namespace FrameViewer
open Act

variable {τ ρ : Type}

namespace Executor

section Waiting

def lastRuns : List (Run τ) → List (Run τ)
  | [] => []
  | run :: later =>
    if run.id ∈ later.map Run.id then lastRuns later else run :: lastRuns later

/-- The tasks that parked when they last ran. -/
def waiting (runs : List (Run τ)) : List (Wait τ) :=
  (lastRuns runs).filterMap Run.wait?

private theorem id_of_wait? {run : Run τ} {wait : Wait τ} (parked : run.wait? = some wait) :
    wait.id = run.id := by
  obtain ⟨_, _, rfl⟩ := Option.map_eq_some_iff.mp parked
  rfl

private theorem lastRuns_sublist (runs : List (Run τ)) : (lastRuns runs).Sublist runs := by
  induction runs with
  | nil => exact .slnil
  | cons run later ih =>
    rw [lastRuns]
    split
    · exact ih.cons run
    · exact ih.cons_cons run

private theorem lastRuns_nodup (runs : List (Run τ)) : ((lastRuns runs).map Run.id).Nodup := by
  induction runs with
  | nil => exact List.nodup_nil
  | cons run later ih =>
    rw [lastRuns]
    split
    next => exact ih
    next fresh =>
      rw [List.map_cons, List.nodup_cons]
      exact ⟨fun again => fresh (((lastRuns_sublist later).map Run.id).subset again), ih⟩

private theorem lastRuns_of_nodup {runs : List (Run τ)} (distinct : (runs.map Run.id).Nodup) :
    lastRuns runs = runs := by
  induction runs with
  | nil => rfl
  | cons run later ih =>
    obtain ⟨fresh, distinct⟩ := List.nodup_cons.mp distinct
    rw [lastRuns, if_neg fresh, ih distinct]

private theorem lastRuns_append (early late : List (Run τ)) :
    lastRuns (early ++ late) =
      (lastRuns early).filter (fun run => run.id ∉ late.map Run.id) ++ lastRuns late := by
  induction early with
  | nil => rfl
  | cons run rest ih =>
    rw [List.cons_append, lastRuns, lastRuns, ih, List.map_append]
    rcases Classical.em (run.id ∈ rest.map Run.id) with again | last
    · rw [if_pos again, if_pos (List.mem_append_left _ again)]
    · rw [if_neg last, List.filter_cons]
      rcases Classical.em (run.id ∈ late.map Run.id) with later | never
      · simp [later]
      · simp [last, never]

private theorem wait_ids_sublist (runs : List (Run τ)) :
    ((runs.filterMap Run.wait?).map Wait.id).Sublist (runs.map Run.id) := by
  induction runs with
  | nil => exact .slnil
  | cons run later ih =>
    cases parked : run.wait? with
    | none =>
      rw [List.filterMap_cons_none parked]
      exact ih.cons _
    | some wait =>
      rw [List.filterMap_cons_some parked, List.map_cons, List.map_cons, id_of_wait? parked]
      exact ih.cons_cons _

private theorem waiting_nodup (runs : List (Run τ)) : ((waiting runs).map Wait.id).Nodup :=
  (lastRuns_nodup runs).sublist (wait_ids_sublist _)

private theorem mem_ids_of_waiting {runs : List (Run τ)} {wait : Wait τ} (waits : wait ∈ waiting runs) :
    wait.id ∈ runs.map Run.id :=
  ((wait_ids_sublist _).trans ((lastRuns_sublist runs).map _)).subset (List.mem_map_of_mem waits)

private theorem filterMap_wait?_filter (ids : List Nat) (runs : List (Run τ)) :
    (runs.filter fun run => run.id ∉ ids).filterMap Run.wait? =
      (runs.filterMap Run.wait?).filter fun wait => wait.id ∉ ids := by
  rw [List.filterMap_filter, List.filter_filterMap]
  congr 1
  funext run
  cases parked : run.wait? with
  | none => simp
  | some wait => simp [Option.filter, id_of_wait? parked]

private theorem waiting_append (early : List (Run τ)) {late : List (Run τ)}
    (distinct : (late.map Run.id).Nodup) :
    waiting (early ++ late) =
      (waiting early).filter (fun wait => wait.id ∉ late.map Run.id) ++ late.filterMap Run.wait? := by
  rw [waiting, lastRuns_append, List.filterMap_append, lastRuns_of_nodup distinct,
    filterMap_wait?_filter, waiting]

end Waiting

/-- Between two drives: what is left of the tasks that were run so far, and their timers. -/
structure AtRest (past : List (Run τ)) (e : Executor τ) : Prop where
  tasks : e.tasks = (waiting past).map Wait.entry
  /-- One timer stands for each task that is parked, and none for any other. -/
  timers : e.timers = (waiting past).map Wait.timer
  idle : e.ready = []
  given : ∀ run ∈ past, run.id < e.next

/-- What a drive runs: first what is due by its time, in the order of the timers, and then tasks
that never ran. A task that is run again is what it was left as. -/
structure Round.Follows (past : List (Run τ)) (round : Round τ) : Prop where
  turns : ∃ fresh, round.runs.map Run.id =
    ((waiting past).filter (·.deadline ≤ round.now)).map Wait.id ++ fresh ∧
      ∀ id ∈ fresh, id ∉ past.map Run.id
  once : (round.runs.map Run.id).Nodup
  resumed : ∀ run ∈ round.runs, ∀ wait ∈ waiting past, wait.id = run.id → run.task = wait.task

section Rounds

variable {past runs : List (Run τ)} {e after : Executor τ} {now : Nat}

private theorem eq_of_waiting {wait other : Wait τ} (waits : wait ∈ waiting past)
    (waits' : other ∈ waiting past) (same : wait.id = other.id) : wait = other :=
  List.inj_on_of_nodup_map (waiting_nodup past) waits waits' same

private theorem mem_due_iff {wait : Wait τ} (waits : wait ∈ waiting past) :
    wait.id ∈ ((waiting past).filter (·.deadline ≤ now)).map Wait.id ↔ wait.deadline ≤ now := by
  constructor
  · intro due
    obtain ⟨other, inside, same⟩ := List.mem_map.mp due
    obtain ⟨waits', due⟩ := List.mem_filter.mp inside
    rw [eq_of_waiting waits waits' same.symm]
    exact of_decide_eq_true due
  · exact fun due => List.mem_map_of_mem (List.mem_filter.mpr ⟨waits, decide_eq_true due⟩)

/-- Of the tasks that are parked, a drive runs those whose deadline has come. -/
theorem Round.Follows.runs_iff {round : Round τ} (follows : round.Follows past) {wait : Wait τ}
    (waits : wait ∈ waiting past) :
    wait.id ∈ round.runs.map Run.id ↔ wait.deadline ≤ round.now := by
  obtain ⟨fresh, turns, new⟩ := follows.turns
  rw [turns, List.mem_append, mem_due_iff waits]
  exact or_iff_left fun first => new _ first (mem_ids_of_waiting waits)

private theorem AtRest.given_ids (rest : AtRest past e) : ∀ id ∈ past.map Run.id, id < e.next := by
  intro id member
  obtain ⟨run, among, rfl⟩ := List.mem_map.mp member
  exact rest.given run among

theorem AtRest.scheduled (rest : AtRest past e) : e.Scheduled fun _ => True := by
  have ids : e.tasks.map (·.1) = (waiting past).map Wait.id := by
    rw [rest.tasks, List.map_map]
    rfl
  have turns : e.timers.map (·.2) = (waiting past).map Wait.id := by
    rw [rest.timers, List.map_map]
    rfl
  refine ⟨⟨?_, ?_⟩, ?_, fun _ _ _ => trivial⟩
  · rw [ids]
    exact waiting_nodup past
  · intro id member
    rw [ids] at member
    obtain ⟨wait, waits, rfl⟩ := List.mem_map.mp member
    exact rest.given_ids _ (mem_ids_of_waiting waits)
  · rw [rest.idle, List.nil_append, turns, ids]

private theorem AtRest.due_eq (rest : AtRest past e) (now : Nat) :
    (e.wake now).ready = ((waiting past).filter (·.deadline ≤ now)).map Wait.id := by
  rw [wake, rest.idle, List.nil_append, rest.timers, List.filter_map, List.map_map]
  rfl

private theorem AtRest.given_due (rest : AtRest past e) : ∀ id ∈ (e.wake now).ready, id < e.next := by
  intro id due
  rw [rest.due_eq] at due
  obtain ⟨wait, inside, rfl⟩ := List.mem_map.mp due
  exact rest.given_ids _ (mem_ids_of_waiting (List.mem_filter.mp inside).1)

theorem AtRest.follows (rest : AtRest past e) (drained : Drained (e.wake now) runs after) :
    ({ now, runs } : Round τ).Follows past := by
  obtain ⟨fresh, turns⟩ : ∃ fresh, runs.map Run.id =
      (e.wake now).ready ++ List.range' e.next fresh := drained.turns.imp fun _ turns => turns.1
  refine ⟨⟨List.range' e.next fresh, ?_, ?_⟩, ?_, ?_⟩
  · rw [← rest.due_eq]
    exact turns
  · intro id new ran
    have := rest.given_ids id ran
    have := (List.mem_range'_1.mp new).1
    omega
  · rw [turns, List.nodup_append]
    refine ⟨?_, List.nodup_range', ?_⟩
    · rw [rest.due_eq]
      exact (waiting_nodup past).sublist (List.filter_sublist.map _)
    · intro id due other new same
      have := rest.given_due id due
      have := (List.mem_range'_1.mp new).1
      omega
  · intro run ran wait parked same
    have due : run.id ∈ (e.wake now).ready := by
      have turn := turns ▸ List.mem_map_of_mem ran
      refine (List.mem_append.mp turn).resolve_right fun new => ?_
      have := rest.given_ids _ (mem_ids_of_waiting parked)
      have := (List.mem_range'_1.mp new).1
      omega
    have left : (run.id, run.task) ∈ (waiting past).map Wait.entry :=
      rest.tasks ▸ drained.known run ran due
    obtain ⟨other, parked', found⟩ := List.mem_map.mp left
    obtain ⟨number, task⟩ := Prod.mk.inj found
    rw [eq_of_waiting parked parked' (same.trans number.symm), task]

theorem AtRest.drained (rest : AtRest past e) (drained : Drained (e.wake now) runs after) :
    AtRest (past ++ runs) after := by
  have follows := rest.follows drained
  obtain ⟨fresh, turns, next⟩ : ∃ fresh, runs.map Run.id =
      (e.wake now).ready ++ List.range' e.next fresh ∧ after.next = e.next + fresh := drained.turns
  refine ⟨?_, ?_, drained.idle, ?_⟩
  · rw [drained.tasks, waiting_append past follows.once, List.map_append,
      show (e.wake now).tasks = e.tasks from rfl, rest.tasks, List.filter_map]
    congr 2
    refine List.filter_congr fun wait parked => ?_
    rw [Function.comp_apply, decide_eq_decide, rest.due_eq, follows.runs_iff parked]
    exact not_congr (mem_due_iff parked)
  · rw [drained.timers, waiting_append past follows.once, List.map_append,
      show (e.wake now).timers = e.timers.filter (now < ·.1) from rfl, rest.timers, List.filter_map]
    congr 2
    refine List.filter_congr fun wait parked => ?_
    rw [Function.comp_apply, decide_eq_decide, follows.runs_iff parked, Nat.not_le]
    rfl
  · intro run member
    rw [next]
    rcases List.mem_append.mp member with old | new
    · exact Nat.lt_add_right fresh (rest.given run old)
    · rcases List.mem_append.mp (turns ▸ List.mem_map_of_mem new) with due | first
      · exact Nat.lt_add_right fresh (rest.given_due _ due)
      · exact (List.mem_range'_1.mp first).2

end Rounds

def Orderly (past : List (Run τ)) : List (Round τ) → Prop
  | [] => True
  | round :: later => round.Follows past ∧ Orderly (past ++ round.runs) later

section Orderly

variable {past : List (Run τ)} {early late : List (Round τ)}

private theorem orderly_append : Orderly past (early ++ late) ↔
    Orderly past early ∧ Orderly (past ++ early.flatMap Round.runs) late := by
  induction early generalizing past with
  | nil => simp [Orderly]
  | cons round rest ih => simp [Orderly, ih, and_assoc]

/-- A task that is parked stays so, and is not run, as long as no drive begins at its deadline. -/
theorem Orderly.spares {wait : Wait τ} (orderly : Orderly past late) (parked : wait ∈ waiting past)
    (early : ∀ round ∈ late, round.now < wait.deadline) :
    wait ∈ waiting (past ++ late.flatMap Round.runs) ∧
      ∀ round ∈ late, wait.id ∉ round.runs.map Run.id := by
  induction late generalizing past with
  | nil => simpa using parked
  | cons round later ih =>
    obtain ⟨follows, orderly⟩ := orderly
    obtain ⟨first, early⟩ := List.forall_mem_cons.mp early
    have spared : wait.id ∉ round.runs.map Run.id := by
      rw [follows.runs_iff parked]
      exact Nat.not_le.mpr first
    have still : wait ∈ waiting (past ++ round.runs) := by
      rw [waiting_append past follows.once]
      exact List.mem_append_left _ (List.mem_filter.mpr ⟨parked, decide_eq_true spared⟩)
    obtain ⟨parked, others⟩ := ih orderly still early
    rw [List.flatMap_cons, ← List.append_assoc]
    exact ⟨parked, List.forall_mem_cons.mpr ⟨spared, others⟩⟩

end Orderly

inductive Call (τ : Type) where
  | spawn (task : τ)
  | wait (micros : Nat)
  | drive

section Calls

variable (size : τ → Nat) (poll : τ → Act ρ (Polled τ))

def Call.action : Call τ → Act (Executor τ × ρ) Unit
  | .spawn task => Act.update fun s => (s.1.spawn task, s.2)
  | .wait micros => Act.updatePlatform fun p => { p with clock := p.clock + micros }
  | .drive => Executor.drive size poll

def tell : List (Call τ) → Act (Executor τ × ρ) (List (Round τ))
  | [] => return []
  | .drive :: calls => do
    let round ← tellDrive size poll
    return round :: (← tell calls)
  | call :: calls => do
    call.action size poll
    tell calls

private theorem forM_action_eq_tell (calls : List (Call τ)) :
    calls.forM (Call.action size poll) = (do
      let _ ← tell size poll calls
      return ()) := by
  induction calls with
  | nil => simp [tell]
  | cons call calls ih =>
    cases call <;> simp_all [tell, Call.action, drive_eq_tellDrive]

end Calls

/-- A task that parked is not run before its deadline, and the first drive from then on runs what was
left of it. -/
def Punctual (rounds : List (Round τ)) : Prop :=
  ∀ early round mid later late run wait, rounds = early ++ round :: (mid ++ later :: late) →
    run ∈ round.runs → run.wait? = some wait → (∀ other ∈ mid, other.now < wait.deadline) →
    (∀ other ∈ mid, wait.id ∉ other.runs.map Run.id) ∧
      (wait.id ∈ later.runs.map Run.id ↔ wait.deadline ≤ later.now) ∧
      ∀ next ∈ later.runs, next.id = wait.id → next.task = wait.task

private theorem Orderly.punctual {rounds : List (Round τ)} (orderly : Orderly [] rounds) :
    Punctual rounds := by
  rintro early round mid later late run wait rfl ran parked before
  obtain ⟨-, follows, onwards⟩ := orderly_append.mp orderly
  obtain ⟨between, next, -⟩ := orderly_append.mp onwards
  have waits : wait ∈ waiting ([] ++ early.flatMap Round.runs ++ round.runs) := by
    rw [waiting_append _ follows.once]
    exact List.mem_append_right _ (List.mem_filterMap.mpr ⟨run, ran, parked⟩)
  obtain ⟨still, spared⟩ := between.spares waits before
  exact ⟨spared, next.runs_iff still,
    fun again among same => next.resumed again among wait still same.symm⟩

/-- The rounds of a run of the executor from its beginning, and where it stands after them. -/
structure Timely (rounds : List (Round τ)) (e : Executor τ) : Prop extends
    AtRest (rounds.flatMap Round.runs) e where
  /-- Those that are due come in the order of their timers. -/
  orderly : Orderly [] rounds
  punctual : Punctual rounds
  /-- No task has two timers. -/
  single : (e.timers.map (·.2)).Nodup

section Run

variable {size : τ → Nat} {poll : τ → Act ρ (Polled τ)} {failed : Failure → Prop}

private theorem tell_leads (brief : Brief size poll failed) (calls : List (Call τ)) {past : List (Run τ)}
    {scene : Scene (Executor τ × ρ)} (rest : AtRest past scene.own.1) :
    (tell size poll calls).Leads scene
      (fun rounds after => Orderly past rounds ∧
        AtRest (past ++ rounds.flatMap Round.runs) after.own.1)
      fun failure _ => failed failure := by
  induction calls generalizing past scene with
  | nil =>
    refine ⟨trivial, ?_⟩
    rw [List.flatMap_nil, List.append_nil]
    exact rest
  | cons call calls ih =>
    cases call with
    | spawn task => exact ih ⟨rest.tasks, rest.timers, rest.idle, rest.given⟩
    | wait micros => exact ih rest
    | drive =>
      refine (tellDrive_leads brief rest.scheduled).bind fun round after ⟨_, drained⟩ => ?_
      refine (ih (rest.drained drained)).bind fun rounds last ⟨orderly, rest'⟩ => ?_
      rw [List.append_assoc] at rest'
      exact ⟨⟨rest.follows drained, orderly⟩, rest'⟩

/-- A parked task is woken on time, however many others park, end and come in beside it. -/
theorem parked_tasks_run_from_deadline (brief : Brief size poll failed) (calls : List (Call τ))
    (shared : ρ) (platform : Platform) :
    calls.forM (Call.action size poll) = (do
      let _ ← tell size poll calls
      return ()) ∧
    (tell size poll calls).Leads ⟨({}, shared), platform⟩
      (fun rounds after => Timely rounds after.own.1) fun failure _ => failed failure := by
  refine ⟨forM_action_eq_tell size poll calls, ?_⟩
  have start : AtRest ([] : List (Run τ)) {} := ⟨rfl, rfl, rfl, by simp⟩
  refine (tell_leads brief calls start).mono (fun rounds after ⟨orderly, rest⟩ => ?_) fun _ _ broken => broken
  refine ⟨rest, orderly, orderly.punctual, ?_⟩
  rw [rest.timers, List.map_map]
  exact waiting_nodup _

end Run
end Executor

namespace NamedTask

private theorem perform_spawns (name : String) (spawned : List NamedTask) (errands : List Errand)
    (scene : Scene Unit) :
    (perform name spawned errands).Leads scene
      (fun polled _ => (polled.spawned.map size).sum ≤ (spawned.map size).sum + weighAll errands)
      fun _ _ => False := by
  induction errands generalizing spawned scene with
  | nil => exact Nat.le_add_right _ _
  | cons errand rest ih =>
    cases errand with
    | say text =>
      refine (ih spawned _).mono (fun polled _ less => ?_) fun _ _ impossible => impossible
      simp only [weighAll, weigh]
      omega
    | delay micros =>
      rw [perform]
      split
      · refine (ih spawned _).mono (fun polled _ less => ?_) fun _ _ impossible => impossible
        simp only [weighAll, weigh]
        omega
      · exact Nat.le_add_right _ _
    | spawn child errands =>
      refine (ih _ scene).mono (fun polled _ less => ?_) fun _ _ impossible => impossible
      simp [weighAll, weigh, size] at less ⊢
      omega

theorem brief : Executor.Brief size poll fun _ => False where
  least task := Nat.le_add_right 1 _
  spawns task scene := by
    refine (perform_spawns task.name [] task.rest scene).mono (fun polled _ less => ?_)
      fun _ _ impossible => impossible
    simp [size] at less ⊢
    omega

/-- Two tasks and one that comes in later; a jump of the clock makes the three of them due at once. -/
@[irreducible] def appointments : List (Executor.Call NamedTask) :=
  [.spawn ⟨"early", [.delay 10, .delay 5]⟩,
    .spawn ⟨"late", [.delay 3, .spawn "guest" [.delay 2], .delay 4]⟩,
    .drive, .wait 3, .drive, .wait 20, .drive, .wait 10, .drive]

private theorem appointments_rounds :
    (Executor.tell size poll appointments).Leads ⟨({}, ()), {}⟩
      (fun rounds _ => rounds.map (fun round => (round.now, round.runs.map Executor.Run.id)) =
        [(0, [0, 1]), (3, [1, 2]), (23, [0, 1, 2]), (33, [0])])
      fun _ _ => True := by
  decide +kernel

theorem appointments_run_from_deadline :
    Executor.Brief size poll (fun _ => False) ∧
      (Executor.tell size poll appointments).Leads ⟨({}, ()), {}⟩
        (fun rounds after => Executor.Timely rounds after.own.1 ∧
          rounds.map (fun round => (round.now, round.runs.map Executor.Run.id)) =
            [(0, [0, 1]), (3, [1, 2]), (23, [0, 1, 2]), (33, [0])])
        fun _ _ => False := by
  refine ⟨brief, Leads.mono (Leads.and
    (Executor.parked_tasks_run_from_deadline brief appointments () {}).right appointments_rounds) ?_ ?_⟩
  · exact fun _ _ both => both
  · exact fun _ _ both => both.1

end NamedTask
end FrameViewer
