import FrameViewer.Proofs.ActionOutcomes

/-! Runs of which a record is kept: each call with what there was to see before and after it. What
each call does to that, a row of linked records does as a whole. -/

namespace FrameViewer

/-- A call, what there was to see before and after it, what it answered and what it reported. -/
structure CallRecord (κ ν ρ : Type) where
  call : κ
  before : ν
  after : ν
  answer : ρ
  log : List Event

variable {σ κ ν ρ β : Type}

/-- Each call begins with what the one before it left. -/
def Linked (first : ν) : List (CallRecord κ ν ρ) → ν → Prop
  | [], last => first = last
  | record :: rest, last => record.before = first ∧ Linked record.after rest last

namespace Linked

variable {first last : ν} {records early late : List (CallRecord κ ν ρ)}

theorem append_iff : Linked first (early ++ late) last ↔
    ∃ middle, Linked first early middle ∧ Linked middle late last := by
  induction early generalizing first with
  | nil => simp [Linked]
  | cons record rest ih => simp [Linked, ih, and_assoc]

/-- What no call ends is there at each of them and in the end. -/
theorem lasting (Good : ν → Prop) (linked : Linked first records last)
    (kept : ∀ record ∈ records, Good record.before → Good record.after) (good : Good first) :
    (∀ record ∈ records, Good record.before) ∧ Good last := by
  induction records generalizing first with
  | nil => exact ⟨nofun, (show first = last from linked) ▸ good⟩
  | cons record rest ih =>
    obtain ⟨rfl, linked⟩ := linked
    rw [List.forall_mem_cons] at kept
    obtain ⟨onwards, ends⟩ := ih linked kept.2 (kept.1 good)
    exact ⟨List.forall_mem_cons.mpr ⟨good, onwards⟩, ends⟩

/-- What is there in the end was there from the first and was left alone, or it came with some call
and was left alone since. -/
theorem since (Good : ν → Prop) {Leaves Brings : CallRecord κ ν ρ → Prop}
    (linked : Linked first records last)
    (back : ∀ record ∈ records, Good record.after →
      Good record.before ∧ Leaves record ∨ Brings record) (good : Good last) :
    (Good first ∧ ∀ record ∈ records, Leaves record) ∨
      ∃ early record late, records = early ++ record :: late ∧ Brings record ∧
        ∀ later ∈ late, Leaves later := by
  induction records generalizing first with
  | nil => exact .inl ⟨(show first = last from linked) ▸ good, nofun⟩
  | cons record rest ih =>
    obtain ⟨rfl, linked⟩ := linked
    rw [List.forall_mem_cons] at back
    obtain ⟨there, left⟩ | ⟨early, bringing, late, rfl, brought, left⟩ := ih linked back.2
    · rcases back.1 there with ⟨former, leaves⟩ | brings
      · exact .inl ⟨former, List.forall_mem_cons.mpr ⟨leaves, left⟩⟩
      · exact .inr ⟨[], record, rest, rfl, brings, left⟩
    · exact .inr ⟨record :: early, bringing, late, rfl, brought, left⟩

/-- What is taken and what waits in the end is what waited and what was put in, in order. -/
theorem conserves {waiting : ν → List β} {taken put : CallRecord κ ν ρ → List β}
    (linked : Linked first records last)
    (each : ∀ record ∈ records,
      taken record ++ waiting record.after = waiting record.before ++ put record) :
    records.flatMap taken ++ waiting last = waiting first ++ records.flatMap put := by
  induction records generalizing first with
  | nil =>
    obtain rfl := linked
    simp
  | cons record rest ih =>
    obtain ⟨rfl, linked⟩ := linked
    rw [List.forall_mem_cons] at each
    simp only [List.flatMap_cons, List.append_assoc]
    rw [ih linked each.2, ← List.append_assoc, each.1, List.append_assoc]

theorem counts (made : ν → Nat) {steps : CallRecord κ ν ρ → List β}
    (linked : Linked first records last)
    (each : ∀ record ∈ records, made record.after = made record.before + (steps record).length) :
    made last = made first + (records.flatMap steps).length := by
  induction records generalizing first with
  | nil =>
    obtain rfl := linked
    rfl
  | cons record rest ih =>
    obtain ⟨rfl, linked⟩ := linked
    rw [List.forall_mem_cons] at each
    rw [ih linked each.2, each.1, List.flatMap_cons, List.length_append, Nat.add_assoc]

/-- What no call ends begins at most once. -/
theorem countP_begins (good : ν → Bool) (linked : Linked first records last)
    (kept : ∀ record ∈ records, good record.before = true → good record.after = true) :
    records.countP (fun record => !good record.before && good record.after) ≤
      if good first then 0 else 1 := by
  induction records generalizing first with
  | nil => exact Nat.zero_le _
  | cons record rest ih =>
    obtain ⟨rfl, linked⟩ := linked
    rw [List.forall_mem_cons] at kept
    have onwards := ih linked kept.2
    have here := kept.1
    rw [List.countP_cons]
    cases before : good record.before <;> cases after : good record.after <;> simp_all

end Linked

/-- The records of a run: they are of these calls, each did what the law says, and what it began
with is what the one before it left. -/
structure Recorded (Lawful : CallRecord κ ν ρ → Prop) (calls : List κ) (first : ν)
    (records : List (CallRecord κ ν ρ)) (last : ν) : Prop where
  calls : records.map CallRecord.call = calls
  lawful : ∀ record ∈ records, Lawful record
  linked : Linked first records last

namespace Act

variable {scene : Scene σ} {failed : Failure → Scene σ → Prop} {view : Scene σ → ν}
  {perform : κ → Act σ ρ}

def record (view : Scene σ → ν) (perform : κ → Act σ ρ) (call : κ) : Act σ (CallRecord κ ν ρ) := do
  let before ← get
  let answer ← perform call
  let after ← get
  return {
    call
    before := view before
    after := view after
    answer
    log := after.platform.events.toList.drop before.platform.events.size }

private theorem leads_record {call : κ} {done : CallRecord κ ν ρ → Scene σ → Prop}
    (leads : (perform call).Leads scene
      (fun answer after => ∃ log,
        after.platform.events.toList = scene.platform.events.toList ++ log ∧
        done ⟨call, view scene, view after, answer, log⟩ after) failed) :
    (record view perform call).Leads scene done failed := by
  unfold record
  rw [leads_bind]
  change Leads (perform call >>= _) scene done failed
  refine leads.bind fun answer after reached => ?_
  obtain ⟨log, same, reached⟩ := reached
  have added : after.platform.events.toList.drop scene.platform.events.size = log := by
    rw [same, ← Array.length_toList, List.drop_left]
  rw [← added] at reached
  exact reached

/-- A run of calls that each fit their scene and do there what the law says. -/
theorem leads_recordAll (Lawful : CallRecord κ ν ρ → Prop) {Fits : List κ → Scene σ → Prop}
    (lawful : ∀ call rest scene, Fits (call :: rest) scene →
      (perform call).Leads scene
        (fun answer after => Fits rest after ∧ ∃ log,
          after.platform.events.toList = scene.platform.events.toList ++ log ∧
          Lawful ⟨call, view scene, view after, answer, log⟩) failed)
    (calls : List κ) (fits : Fits calls scene) :
    (calls.mapM (record view perform)).Leads scene
      (fun records after => Fits [] after ∧
        Recorded Lawful calls (view scene) records (view after)) failed := by
  induction calls generalizing scene with
  | nil => exact ⟨fits, rfl, nofun, rfl⟩
  | cons call rest ih =>
    rw [List.mapM_cons]
    have first : (record view perform call).Leads scene
        (fun record after => record.call = call ∧ record.before = view scene ∧
          record.after = view after ∧ Lawful record ∧ Fits rest after) failed := by
      refine leads_record ((lawful call rest scene fits).mono ?_ fun _ _ broken => broken)
      intro answer after done
      obtain ⟨further, log, same, law⟩ := done
      exact ⟨log, same, rfl, rfl, rfl, law, further⟩
    refine first.bind fun record after done => ?_
    obtain ⟨same, began, ended, law, further⟩ := done
    refine (ih further).bind fun records last done => ?_
    obtain ⟨ends, recorded⟩ := done
    refine ⟨ends, ?_, List.forall_mem_cons.mpr ⟨law, recorded.lawful⟩, began, ?_⟩
    · rw [List.map_cons, same, recorded.calls]
    · exact ended ▸ recorded.linked

end Act
end FrameViewer
