import FrameViewer.Proofs.RaisedErrors

/-! Points that are looked at in groups. What is raised at the points of a group is told once all of them
were used, and only the first error of the first group that has any is told. -/

namespace FrameViewer.Gpu

/-- Points that are used before it is looked at what was raised there, and the failure that the text
of the first error is told as. -/
structure Check where
  points : List String
  into : String → RenderError

def pointsOf (checks : List Check) : List String :=
  checks.flatMap Check.points

theorem pointsOf_append (checks more : List Check) :
    pointsOf (checks ++ more) = pointsOf checks ++ pointsOf more :=
  List.flatMap_append

theorem pointsOf_singleton (check : Check) : pointsOf [check] = check.points :=
  List.flatMap_singleton ..

namespace Machine

variable {api : Api} {machine before middle : Machine}

theorem due_prefix {used points : List String} (least : used <+: points) (machine : Machine) (api : Api) :
    machine.due api used <+: machine.due api points := by
  obtain ⟨rest, rfl⟩ := least
  rw [due, due, Script.dueAll_append]
  exact List.prefix_append ..

/-- Where errors are due at some of these points, one of them is the first to raise any. -/
private theorem exists_first_point {done points : List String} {first : DeviceError}
    (calm : machine.due api done = []) (raised : (machine.due api (done ++ points)).head? = some first) :
    ∃ early point, early ++ [point] <+: points ∧ machine.due api (done ++ early) = [] ∧
      (machine.due api (done ++ (early ++ [point]))).head? = some first := by
  induction points generalizing done with
  | nil =>
    rw [List.append_nil, calm] at raised
    cases raised
  | cons point rest ih =>
    rw [List.append_cons] at raised
    by_cases still : machine.due api (done ++ [point]) = []
    · obtain ⟨early, found, inside, quiet, tells⟩ := ih still raised
      refine ⟨point :: early, found, (List.prefix_append_right_inj [point]).mpr inside, ?_, ?_⟩
      · rwa [List.append_cons]
      · rwa [List.cons_append, List.append_cons]
    · obtain ⟨more, same⟩ := due_prefix (List.prefix_append (done ++ [point]) rest) machine api
      refine ⟨[], point, by simp, by rwa [List.append_nil], ?_⟩
      obtain ⟨head, tail, here⟩ := List.exists_cons_of_ne_nil still
      rw [← same, here] at raised
      rw [List.nil_append, here]
      exact raised

/-- In that row of checks those `passed` find nothing, and `broken` is the first to find an error. The
first one was raised at the first of all the points, in their order, that raise any. -/
structure FirstBroken (machine : Machine) (api : Api) (checks passed : List Check) (broken : Check)
    (first : DeviceError) : Prop where
  among : passed ++ [broken] <+: checks
  place : ∃ early point, early ++ [point] <+: broken.points ∧
    machine.due api (pointsOf passed ++ early) = [] ∧
    (machine.due api (pointsOf passed ++ (early ++ [point]))).head? = some first

namespace FirstBroken

variable {checks done passed : List Check} {broken : Check} {first : DeviceError}

theorem of_head? (among : passed ++ [broken] <+: checks) (calm : machine.due api (pointsOf passed) = [])
    (raised : (machine.due api (pointsOf (passed ++ [broken]))).head? = some first) :
    machine.FirstBroken api checks passed broken first := by
  rw [pointsOf_append, pointsOf_singleton] at raised
  exact ⟨among, exists_first_point calm raised⟩

/-- Something is raised up to the check that breaks. -/
theorem due_ne_nil (breaks : machine.FirstBroken api checks passed broken first) :
    machine.due api (pointsOf (passed ++ [broken])) ≠ [] := by
  obtain ⟨early, point, inside, _, raised⟩ := breaks.place
  have least : pointsOf passed ++ (early ++ [point]) <+: pointsOf (passed ++ [broken]) := by
    rw [pointsOf_append, pointsOf_singleton]
    exact (List.prefix_append_right_inj _).mpr inside
  intro quiet
  have nothing := due_prefix least machine api
  rw [quiet, List.prefix_nil] at nothing
  rw [nothing] at raised
  cases raised

/-- Checks that found nothing before leave it at that. -/
theorem after (used : Used api (pointsOf done) before middle)
    (calm : before.due api (pointsOf done) = [])
    (breaks : middle.FirstBroken api checks passed broken first) :
    before.FirstBroken api (done ++ checks) (done ++ passed) broken first := by
  obtain ⟨early, point, inside, quiet, raised⟩ := breaks.place
  refine ⟨?_, early, point, inside, ?_, ?_⟩
  · rw [List.append_assoc]
    exact (List.prefix_append_right_inj done).mpr breaks.among
  · rw [pointsOf_append, List.append_assoc, used.due_append, calm, quiet, List.append_nil]
  · rw [pointsOf_append, List.append_assoc, used.due_append, calm]
    exact raised

/-- More checks after those that were to be made make no difference. -/
theorem before_more (breaks : machine.FirstBroken api checks passed broken first) (more : List Check) :
    machine.FirstBroken api (checks ++ more) passed broken first :=
  ⟨breaks.among.trans (List.prefix_append _ _), breaks.place⟩

end FirstBroken
end Machine
end FrameViewer.Gpu
