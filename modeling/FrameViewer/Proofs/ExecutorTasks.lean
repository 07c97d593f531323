import FrameViewer.Executor
import FrameViewer.Proofs.ActionOutcomes
import Mathlib.Data.List.Nodup

/-! No task is lost or run twice. What holds of the tasks that have not ended and of what they
share is kept by a drive of the executor as soon as every run of a task keeps it. -/

namespace FrameViewer
open Act

variable {τ ρ : Type}

def Polled.left (polled : Polled τ) : List τ :=
  polled.spawned ++ (polled.parked.map (·.2)).toList

namespace Executor

def pending (e : Executor τ) : List τ :=
  e.incoming ++ e.tasks.map (·.2)

/-- No two tasks have the same number, and none has one that is yet to be given. -/
structure Numbered (e : Executor τ) : Prop where
  distinct : (e.tasks.map (·.1)).Nodup
  bounded : ∀ id ∈ e.tasks.map (·.1), id < e.next

theorem Numbered.takeOver {e : Executor τ} (numbered : e.Numbered) : e.takeOver.Numbered := by
  have ids : e.takeOver.tasks.map (·.1) =
      e.tasks.map (·.1) ++ List.range' e.next e.incoming.length := by
    simp only [Executor.takeOver, List.map_append, List.map_map]
    congr 1
    exact List.zipIdx_map_snd _ _
  refine ⟨?_, ?_⟩
  · rw [ids, List.nodup_append]
    refine ⟨numbered.distinct, List.nodup_range' , ?_⟩
    intro id member other further
    have := numbered.bounded id member
    have := List.mem_range'_1.mp further
    omega
  · intro id member
    rw [ids, List.mem_append, List.mem_range'_1] at member
    show id < e.next + e.incoming.length
    rcases member with member | ⟨_, bounded⟩
    · have := numbered.bounded id member
      omega
    · exact bounded

private theorem takeOver_pending (e : Executor τ) : e.takeOver.pending.Perm e.pending := by
  have tasks : (e.incoming.zipIdx e.next).map (fun task => task.1) = e.incoming :=
    List.zipIdx_map_fst _ _
  simp only [pending, takeOver, List.nil_append, List.map_append, List.map_map, Function.comp_def,
    tasks]
  exact List.perm_append_comm

theorem filter_of_lookup {tasks : List (Nat × τ)} {id : Nat} {task : τ}
    (distinct : (tasks.map (·.1)).Nodup) (found : tasks.lookup id = some task) :
    ∃ before after, tasks = before ++ (id, task) :: after ∧
      tasks.filter (·.1 != id) = before ++ after := by
  obtain ⟨before, after, split, _⟩ := List.lookup_eq_some_iff.mp found
  subst split
  refine ⟨before, after, rfl, ?_⟩
  rw [List.map_append, List.map_cons, List.nodup_middle, List.nodup_cons] at distinct
  have others (entry : Nat × τ) (member : entry ∈ before ++ after) : (entry.1 != id) = true := by
    rw [bne_iff_ne]
    intro same
    apply distinct.1
    rw [← List.map_append]
    exact List.mem_map.mpr ⟨entry, member, same⟩
  rw [List.filter_append, List.filter_cons_of_neg (by simp), ← List.filter_append]
  exact List.filter_eq_self.mpr others

theorem pop_eq_some {e rest : Executor τ} {id : Nat} {task : τ}
    (popped : e.pop = (some (id, task), rest)) :
    ∃ others, e.ready = id :: others ∧ e.tasks.lookup id = some task ∧
      rest = { e with ready := others, tasks := e.tasks.filter (·.1 != id) } := by
  unfold pop at popped
  split at popped
  · cases popped
  next first others ready =>
    obtain ⟨found, rfl⟩ := Prod.mk.inj popped
    obtain ⟨lookup, rfl⟩ : e.tasks.lookup first = some task ∧ first = id := by simpa using found
    exact ⟨others, ready, lookup, rfl⟩

/-- A task that is taken out to be run was one of those that have not ended, and its number is
kept for it. -/
theorem pop_some {e rest : Executor τ} {id : Nat} {task : τ} (numbered : e.Numbered)
    (popped : e.pop = (some (id, task), rest)) :
    e.pending.Perm (task :: rest.pending) ∧ rest.Numbered ∧
      id < rest.next ∧ id ∉ rest.tasks.map (·.1) := by
  obtain ⟨others, _, lookup, rfl⟩ := pop_eq_some popped
  obtain ⟨before, after, split, left⟩ := filter_of_lookup numbered.distinct lookup
  have distinct := numbered.distinct
  have bounded := numbered.bounded
  rw [split, List.map_append, List.map_cons, List.nodup_middle, List.nodup_cons,
    ← List.map_append] at distinct
  rw [split, List.map_append, List.map_cons] at bounded
  simp only [pending, left]
  rw [split, List.map_append, List.map_cons, List.map_append]
  refine ⟨?_, ⟨distinct.2, ?_⟩, ?_, distinct.1⟩
  · rw [← List.append_assoc, ← List.append_assoc]
    exact List.perm_middle
  · intro other member
    apply bounded other
    have parts : other ∈ before.map (·.1) ∨ other ∈ after.map (·.1) := by
      rwa [← List.mem_append, ← List.map_append]
    rcases parts with early | late
    · exact List.mem_append_left _ early
    · exact List.mem_append_right _ (List.mem_cons_of_mem _ late)
  · exact bounded id (List.mem_append_right _ List.mem_cons_self)

theorem pop_none {e rest : Executor τ} (popped : e.pop = (none, rest)) :
    rest.incoming = e.incoming ∧ rest.tasks = e.tasks ∧ rest.next = e.next := by
  unfold pop at popped
  split at popped
  · cases popped
    exact ⟨rfl, rfl, rfl⟩
  next first others _ =>
    obtain ⟨found, rfl⟩ := Prod.mk.inj popped
    have absent : e.tasks.lookup first = none := by simpa using found
    refine ⟨rfl, List.filter_eq_self.mpr fun entry member => ?_, rfl⟩
    rw [bne_comm]
    simpa using List.lookup_eq_none_iff.mp absent entry member

private theorem settle_pending (id : Nat) (polled : Polled τ) (e : Executor τ) :
    (e.settle id polled).pending.Perm (polled.left ++ e.pending) := by
  have spawned : ({ e with incoming := e.incoming ++ polled.spawned }).pending.Perm
      (polled.spawned ++ e.pending) := by
    simp only [pending, ← List.append_assoc]
    exact List.perm_append_comm.append_right _
  unfold settle Polled.left
  cases polled.parked with
  | none =>
    rw [Option.map_none, Option.toList_none, List.append_nil]
    exact (takeOver_pending _).trans spawned
  | some parked =>
    obtain ⟨deadline, task⟩ := parked
    simp only [Option.map_some, Option.toList_some, pending, List.map_append, List.map_cons, List.map_nil]
    rw [← List.append_assoc]
    refine (List.Perm.append_right [task] spawned).trans ?_
    rw [List.append_assoc, List.append_assoc]
    exact List.perm_append_comm.append_left _

theorem Numbered.settle {e : Executor τ} {id : Nat} (numbered : e.Numbered) (given : id < e.next)
    (absent : id ∉ e.tasks.map (·.1)) (polled : Polled τ) : (e.settle id polled).Numbered := by
  have spawned : ({ e with incoming := e.incoming ++ polled.spawned }).Numbered :=
    ⟨numbered.distinct, numbered.bounded⟩
  unfold Executor.settle
  cases polled.parked with
  | none => exact spawned.takeOver
  | some parked =>
    have ids : (e.tasks ++ [(id, parked.2)]).map (·.1) = e.tasks.map (·.1) ++ [id] := by simp
    refine ⟨?_, ?_⟩
    · rw [ids]
      exact List.nodup_append.mpr ⟨numbered.distinct, List.nodup_singleton _,
        fun other member last same equal =>
          absent (List.mem_singleton.mp same ▸ equal ▸ member)⟩
    · intro other member
      rw [ids, List.mem_append, List.mem_singleton] at member
      rcases member with member | rfl
      · exact numbered.bounded other member
      · exact given

/-- The executor is in order, and `Good` holds of the tasks that have not ended and of what they
share. -/
structure Keeps (Good : List τ → ρ → Platform → Prop) (scene : Scene (Executor τ × ρ)) : Prop where
  numbered : scene.own.1.Numbered
  good : Good scene.own.1.pending scene.own.2 scene.platform

section Drive

variable {Good : List τ → ρ → Platform → Prop} {failed : Failure → ρ → Platform → Prop}
  {poll : τ → Act ρ (Polled τ)} {scene : Scene (Executor τ × ρ)}
  (perm : ∀ tasks others rest platform, tasks.Perm others → Good tasks rest platform →
    Good others rest platform)
  (polls : ∀ task others rest platform, Good (task :: others) rest platform →
    (poll task).Leads ⟨rest, platform⟩
      (fun polled after => Good (polled.left ++ others) after.own after.platform)
      (fun failure after => failed failure after.own after.platform))
include perm

theorem Keeps.takeOver {e : Executor τ} {rest : ρ} {platform : Platform}
    (keeps : Keeps Good ⟨(e, rest), platform⟩) : Keeps Good ⟨(e.takeOver, rest), platform⟩ :=
  ⟨keeps.numbered.takeOver, perm _ _ _ _ e.takeOver_pending.symm keeps.good⟩

include polls

private theorem runReady_keeps (fuel : Nat) (keeps : Keeps Good scene) :
    (runReady poll fuel).Leads scene (fun _ after => Keeps Good after)
      (fun failure after => failed failure after.own.2 after.platform) := by
  induction fuel generalizing scene with
  | zero => exact keeps
  | succ fuel ih =>
    obtain ⟨⟨e, rest⟩, platform⟩ := scene
    unfold runReady
    simp only [leads_bind, leads_own]
    -- Spawned tasks are taken over first when no other is ready.
    have ready : Keeps Good ⟨(if e.ready.isEmpty then e.takeOver else e, rest), platform⟩ := by
      split
      · exact keeps.takeOver perm
      · exact keeps
    generalize (if e.ready.isEmpty then e.takeOver else e) = e' at ready
    cases popped : e'.pop with
    | mk task left =>
      cases task with
      | none =>
        obtain ⟨incoming, tasks, next⟩ := pop_none popped
        have numbered := ready.numbered
        have good := ready.good
        refine ⟨⟨?_, ?_⟩, ?_⟩
        · simpa only [tasks] using numbered.distinct
        · simpa only [tasks, next] using numbered.bounded
        · simpa only [pending, incoming, tasks] using good
      | some task =>
        obtain ⟨id, task⟩ := task
        obtain ⟨same, numbered, given, absent⟩ := pop_some ready.numbered popped
        simp only [leads_bind, leads_update, leads_own, leads_within]
        refine (polls task _ _ _ (perm _ _ _ _ same ready.good)).mono (fun polled after good => ?_)
          fun _ _ failed => failed
        exact ih ⟨numbered.settle given absent polled, perm _ _ _ _ (settle_pending id polled left).symm good⟩

/-- A drive of the executor keeps what every run of a task keeps. -/
theorem drive_keeps (size : τ → Nat) (keeps : Keeps Good scene) :
    (drive size poll).Leads scene (fun _ after => Keeps Good after)
      (fun failure after => failed failure after.own.2 after.platform) := by
  obtain ⟨⟨e, rest⟩, platform⟩ := scene
  unfold drive
  simp only [leads_bind, leads_platform, leads_update, leads_own]
  have woken : Keeps Good ⟨(e.wake platform.clock, rest), platform⟩ :=
    ⟨⟨keeps.numbered.distinct, keeps.numbered.bounded⟩, keeps.good⟩
  exact runReady_keeps perm polls _ (woken.takeOver perm)

end Drive

/-- A drive fails only as a run of a task fails. -/
theorem drive_leads {Good : List τ → ρ → Platform → Prop} {failed : Failure → Prop}
    {poll : τ → Act ρ (Polled τ)} {scene : Scene (Executor τ × ρ)}
    (perm : ∀ tasks others rest platform, tasks.Perm others → Good tasks rest platform →
      Good others rest platform)
    (polls : ∀ task others rest platform, Good (task :: others) rest platform →
      (poll task).Leads ⟨rest, platform⟩
        (fun polled after => Good (polled.left ++ others) after.own after.platform)
        (fun failure _ => failed failure))
    (size : τ → Nat) (keeps : Keeps Good scene) :
    (drive size poll).Leads scene (fun _ after => Keeps Good after)
      (fun failure _ => failed failure) :=
  @drive_keeps _ _ Good (fun failure _ _ => failed failure) poll scene perm polls size keeps

end Executor
end FrameViewer
