import FrameViewer.Proofs.RecordedRuns
import FrameViewer.Proofs.SoundedCues
import FrameViewer.Proofs.WaveSamples

/-! The sound over any calls of those who hold it. A beep puts its blocks at the end of the queue as
far as there is room and loses the rest; the graph takes them from its head, one a step. So what was
heard and what still waits is what was queued, in that order. -/

namespace FrameViewer

def Event.sound? : Event → Option Audio.Block
  | soundPlayed block => some block
  | _ => none

/-- What there is to see of the sound: the device that could be opened, the time and the stream. -/
structure Audio.Moment where
  device : Option Nat
  clock : Nat
  stream : Option Stream

def Platform.moment (platform : Platform) : Audio.Moment where
  device :=
    match platform.cue with
    | .bell => none
    | .speaker output => output.device
  clock := platform.clock
  stream := platform.stream?

namespace Audio
open Act

namespace Stream

def stepped (stream : Stream) (steps : Nat) : Stream :=
  { stream with queue := stream.queue.drop steps, processed := stream.processed + steps }

/-- What these steps let hear: each one the block at the head of the queue, which it takes, or
silence once the queue is empty. -/
def outputs (stream : Stream) (steps : Nat) : List Block :=
  (List.range steps).map fun step => (stream.queue.drop step).headD silence

end Stream

inductive Call where
  | start
  | beep
  | process
  | wait (micros : Nat)
  /-- That device can be opened from now on, if there is one. -/
  | plug (device : Option Nat)

def Call.action : Call → Act Unit Unit
  | start => Audio.start
  | beep => Audio.beep
  | process => Audio.process
  | wait micros => Act.updatePlatform fun p => { p with clock := p.clock + micros }
  | plug device => do
    match (← Act.platform).cue with
    | .bell => pure ()
    | .speaker output => setOutput { output with device }

def Call.rates : Call → List Nat
  | plug device => device.toList
  | _ => []

/-- The device and the stream, as far as there are any, have one of these rates. -/
structure Output.Tuned (rates : List Nat) (output : Output) : Prop where
  device : ∀ rate, output.device = some rate → rate ∈ rates
  stream : ∀ stream, output.stream = some stream → stream.rate ∈ rates

theorem Output.Tuned.play {rates : List Nat} {output : Output} (tuned : output.Tuned rates)
    {later : Stream} (known : later.rate ∈ rates) :
    { output with stream := some later : Output }.Tuned rates where
  device := tuned.device
  stream _ same := Option.some.inj same ▸ known

abbrev Record :=
  CallRecord Call Moment Unit

def attendAll (calls : List Call) : Act Unit (List Record) :=
  calls.mapM (record (·.platform.moment) Call.action)

def waiting (moment : Moment) : List Block :=
  moment.stream.elim [] Stream.queue

def stepsMade (moment : Moment) : Nat :=
  moment.stream.elim 0 Stream.processed

namespace Record

/-- What each call comes to. The output is opened by the first start that finds a device, and a
stream that is open is never replaced. The graph makes the steps that are due by then and were not
made before. -/
inductive Lawful : Record → Prop where
  | missing (clock : Nat) :
      Lawful ⟨.start, ⟨none, clock, none⟩, ⟨none, clock, none⟩, (), [.notice .audioMissing]⟩
  | opened (rate clock : Nat) :
      Lawful ⟨.start, ⟨some rate, clock, none⟩,
        ⟨some rate, clock, some { rate, queue := [], startedAt := millis clock, processed := 0 }⟩, (),
        [.notice (.audioRunning rate)]⟩
  | running (device : Option Nat) (clock : Nat) (stream : Stream) :
      Lawful ⟨.start, ⟨device, clock, some stream⟩, ⟨device, clock, some stream⟩, (), []⟩
  | unheard (device : Option Nat) (clock : Nat) :
      Lawful ⟨.beep, ⟨device, clock, none⟩, ⟨device, clock, none⟩, (), [.cued]⟩
  | queued (device : Option Nat) (clock : Nat) {stream : Stream} {blocks : List Block}
      (wave : squareWave? stream.rate = some blocks) :
      Lawful ⟨.beep, ⟨device, clock, some stream⟩, ⟨device, clock, some (stream.fed blocks)⟩, (),
        .cued :: if stream.room < blocks.length then [.notice .beepCut] else []⟩
  | unopened (device : Option Nat) (clock : Nat) :
      Lawful ⟨.process, ⟨device, clock, none⟩, ⟨device, clock, none⟩, (), []⟩
  | processed (device : Option Nat) {clock due : Nat} {stream : Stream}
      (now : dueBlocks? stream (millis clock) = some due) :
      Lawful ⟨.process, ⟨device, clock, some stream⟩,
        ⟨device, clock, some (stream.stepped (due - stream.processed))⟩, (),
        (stream.outputs (due - stream.processed)).map .soundPlayed⟩
  | waited (micros : Nat) (moment : Moment) :
      Lawful ⟨.wait micros, moment, { moment with clock := moment.clock + micros }, (), []⟩
  | plugged (device : Option Nat) (moment : Moment) :
      Lawful ⟨.plug device, moment, { moment with device }, (), []⟩

def isOpening (record : Record) : Bool :=
  !record.before.stream.isSome && record.after.stream.isSome

def accepted (record : Record) : List Block :=
  match record.call, record.before.stream with
  | .beep, some stream => ((squareWave? stream.rate).getD []).take stream.room
  | _, _ => []

def heard (record : Record) : List Block :=
  record.log.filterMap Event.sound?

/-- What was heard for as long as there were blocks in the queue. -/
def taken (record : Record) : List Block :=
  record.heard.take (waiting record.before).length

end Record

/-- What a row of calls came to, from the first moment to the last, if the devices had these
rates. -/
structure Settles (rates : List Nat) (calls : List Call) (first : Moment) (records : List Record)
    (last : Moment) : Prop extends Recorded Record.Lawful calls first records last where
  tuned : ∀ stream, last.stream = some stream → stream.rate ∈ rates
  opened : records.countP Record.isOpening ≤ 1
  /-- What was taken and what still waits is what was accepted, each block once. -/
  conserved : records.flatMap Record.taken ++ waiting last = records.flatMap Record.accepted
  /-- A step is silent exactly when nothing was left for it in the queue. -/
  silent : ∀ record ∈ records, ∀ step block, record.heard[step]? = some block →
    (block = silence ↔ (waiting record.before).length ≤ step)
  counted : (records.flatMap Record.heard).length = stepsMade last
  rising : ∀ record ∈ records, stepsMade record.before ≤ stepsMade record.after

section Wave

/-- Every block of a beep begins before the beep ends, so it is not silent. -/
private theorem beepBlock_ne_silence (half : Binary) {total start : Nat} (early : start < total) :
    beepBlock half total start ≠ silence := by
  intro same
  have first := congrArg (·[0]?) same
  simp [beepBlock, silence, early, blockLength, waveAt_ne_silent] at first

private theorem silence_not_mem_wave {rate : Nat} {blocks : List Block}
    (wave : squareWave? rate = some blocks) : silence ∉ blocks := by
  obtain ⟨total, _, rfl⟩ := Option.map_eq_some_iff.mp wave
  intro member
  obtain ⟨i, inside, same⟩ := List.mem_map.mp member
  refine beepBlock_ne_silence _ ?_ same
  have below := List.mem_range.mp inside
  rw [show blockLength = 64 from rfl] at below ⊢
  omega

end Wave

/-- Why a call on an open stream cannot be answered: a beep at that rate, or the blocks that are due
by then, leave their words. -/
def Stream.Overflows (stream : Stream) (clock : Nat) : Prop :=
  UInt32.size ≤ stream.rate * beepMs ∨ dueBlocks? stream (millis clock) = none

/-- A call breaks down only where its numbers leave their words, on a stream of one of these rates. -/
def Overflowed (rates : List Nat) (failure : Failure) (after : Scene Unit) : Prop :=
  failure = .crashed ∧ ∃ stream, after.platform.stream? = some stream ∧ stream.rate ∈ rates ∧
    stream.Overflows after.platform.clock

def Speaks (rates : List Nat) (platform : Platform) : Prop :=
  ∃ output, platform.cue = .speaker output ∧ output.Tuned rates

def Fits (rates : List Nat) (rest : List Call) (scene : Scene Unit) : Prop :=
  Speaks rates scene.platform ∧ rest.flatMap Call.rates ⊆ rates

/-- The call came to what the law says, and the output is still there for the next one. -/
structure Attended (rates : List Nat) (call : Call) (before after : Platform) : Prop where
  speaks : Speaks rates after
  lawful : ∃ log, after.events.toList = before.events.toList ++ log ∧
    Record.Lawful ⟨call, before.moment, after.moment, (), log⟩

section Calls

variable {scene : Scene Unit}

private theorem outputs_succ (stream : Stream) (steps : Nat) :
    stream.outputs (steps + 1) =
      stream.queue.headD silence :: { stream with queue := stream.queue.tail }.outputs steps := by
  simp only [Stream.outputs, List.range_succ_eq_map, List.map_cons, List.map_map, List.drop_zero]
  congr 2
  funext step
  simp [Function.comp, List.drop_tail]

private theorem play_eq (stream : Stream) (steps : Nat) (scene : Scene Unit) :
    play steps stream.queue scene = .ok (stream.queue.drop steps)
      ⟨scene.own, { scene.platform with
        events := scene.platform.events ++ ((stream.outputs steps).map Event.soundPlayed).toArray }⟩ := by
  induction steps generalizing stream scene with
  | zero => simp [play, Stream.outputs, pure, EStateM.pure]
  | succ steps ih =>
    have first : play (steps + 1) stream.queue scene = play steps stream.queue.tail
        ⟨scene.own, scene.platform.record (.soundPlayed (stream.queue.headD silence))⟩ := rfl
    rw [first, ih { stream with queue := stream.queue.tail }, outputs_succ]
    simp [Platform.record]

variable {rates : List Nat} {output : Output} (cue : scene.platform.cue = .speaker output)
include cue

private theorem moment_eq :
    scene.platform.moment = ⟨output.device, scene.platform.clock, output.stream⟩ := by
  rw [Platform.moment, Platform.stream?, cue]

variable (tuned : output.Tuned rates)
include tuned

private theorem start_attended :
    start.Leads scene (fun _ after => Attended rates .start scene.platform after.platform)
      (Overflowed rates) := by
  have seen := moment_eq cue
  rw [start, leads_bind, leads_platform, cue]
  obtain ⟨device, _ | stream⟩ := output
  · cases device with
    | none =>
      refine ⟨⟨_, cue, tuned⟩, [.notice .audioMissing], by simp [Platform.record], ?_⟩
      rw [show (scene.platform.record (.notice .audioMissing)).moment = _ from seen, seen]
      exact .missing _
    | some rate =>
      refine ⟨⟨_, rfl, tuned.play (tuned.device rate rfl)⟩, [.notice (.audioRunning rate)],
        by simp [Platform.record], ?_⟩
      rw [seen]
      exact .opened rate scene.platform.clock
  · refine ⟨⟨_, cue, tuned⟩, [], by simp, ?_⟩
    rw [seen]
    exact .running device _ stream

private theorem beep_attended :
    beep.Leads scene (fun _ after => Attended rates .beep scene.platform after.platform)
      (Overflowed rates) := by
  have seen := moment_eq cue
  refine (beep_sounds scene).mono (fun _ after sounded => ?_) fun failure after failed => ?_
  · obtain ⟨_, beeped⟩ := sounded
    generalize after.platform = last at beeped
    cases beeped with
    | rung bell => exact nomatch cue.symm.trans bell
    | unheard speaker closed =>
      cases cue.symm.trans speaker
      rw [closed] at seen
      refine ⟨⟨_, cue, tuned⟩, [.cued], by simp [Platform.record], ?_⟩
      rw [show (scene.platform.record .cued).moment = _ from seen, seen]
      exact .unheard _ _
    | queued speaker opened wave fits =>
      cases cue.symm.trans speaker
      have known := tuned.stream _ opened
      have law := Record.Lawful.queued output.device scene.platform.clock wave
      rw [if_neg (Nat.not_lt.mpr fits)] at law
      refine ⟨⟨_, rfl, tuned.play known⟩, [.cued], by simp [Platform.record], ?_⟩
      rw [seen, opened]
      exact law
    | cut speaker opened wave full =>
      cases cue.symm.trans speaker
      have known := tuned.stream _ opened
      have law := Record.Lawful.queued output.device scene.platform.clock wave
      rw [if_pos full] at law
      refine ⟨⟨_, rfl, tuned.play known⟩, [.cued, .notice .beepCut],
        by simp [Platform.record], ?_⟩
      rw [seen, opened]
      exact law
  · obtain ⟨rfl, rfl, stream, opened, wave⟩ := failed
    have same : output.stream = some stream := by
      rw [← opened]
      exact (congrArg Moment.stream seen).symm
    exact ⟨rfl, stream, opened, tuned.stream stream same, .inl (squareWave?_eq_none.mp wave)⟩

private theorem process_attended :
    process.Leads scene (fun _ after => Attended rates .process scene.platform after.platform)
      (Overflowed rates) := by
  have seen := moment_eq cue
  rw [process, leads_bind, leads_platform, cue]
  obtain ⟨device, _ | stream⟩ := output
  · refine ⟨⟨_, cue, tuned⟩, [], by simp, ?_⟩
    rw [seen]
    exact .unopened device _
  · have known := tuned.stream stream rfl
    simp only [leads_bind, leads_checked]
    cases now : dueBlocks? stream (millis scene.platform.clock) with
    | none => exact ⟨rfl, stream, congrArg Moment.stream seen, known, .inr now⟩
    | some due =>
      simp only [leads_of_ok (play_eq stream _ scene), setOutput, leads_updatePlatform]
      refine ⟨⟨_, rfl, tuned.play known⟩, (stream.outputs (due - stream.processed)).map .soundPlayed,
        by simp, ?_⟩
      have count : stream.processed + (due - stream.processed) = max stream.processed due := by omega
      have law := Record.Lawful.processed device now
      rw [Stream.stepped, count] at law
      rw [seen]
      exact law

private theorem Call.action_attended (call : Call) (brought : call.rates ⊆ rates) :
    call.action.Leads scene (fun _ after => Attended rates call scene.platform after.platform)
      (Overflowed rates) := by
  cases call with
  | start => exact start_attended cue tuned
  | beep => exact beep_attended cue tuned
  | process => exact process_attended cue tuned
  | wait micros => exact ⟨⟨_, cue, tuned⟩, [], by simp, .waited micros scene.platform.moment⟩
  | plug device =>
    have seen := moment_eq cue
    rw [Call.action, leads_bind, leads_platform, cue]
    have fresh (rate : Nat) (given : device = some rate) : rate ∈ rates :=
      brought (Option.mem_toList.mpr given)
    refine ⟨⟨_, rfl, fresh, tuned.stream⟩, [], by simp, ?_⟩
    rw [seen]
    exact .plugged device ⟨output.device, scene.platform.clock, output.stream⟩

end Calls

theorem attendAll_leads {rates : List Nat} (calls : List Call)
    (brought : calls.flatMap Call.rates ⊆ rates) {scene : Scene Unit}
    (speaks : Speaks rates scene.platform) :
    (attendAll calls).Leads scene
      (fun records after => Speaks rates after.platform ∧
        Recorded Record.Lawful calls scene.platform.moment records after.platform.moment)
      (Overflowed rates) := by
  have start : Fits rates calls scene := ⟨speaks, brought⟩
  refine (leads_recordAll Record.Lawful ?_ calls start).mono ?_ fun _ _ overflowed => overflowed
  · intro call rest scene fits
    obtain ⟨⟨output, cue, tuned⟩, brought⟩ := fits
    rw [List.flatMap_cons, List.append_subset] at brought
    refine (call.action_attended cue tuned brought.1).mono ?_ fun _ _ overflowed => overflowed
    exact fun _ after attended => ⟨⟨attended.speaks, brought.2⟩, attended.lawful⟩
  · exact fun records after both => ⟨both.1.1, both.2⟩

section Records

private theorem outputs_eq (stream : Stream) (steps : Nat) :
    stream.outputs steps =
      stream.queue.take steps ++ List.replicate (steps - stream.queue.length) silence := by
  induction steps generalizing stream with
  | zero => simp [Stream.outputs]
  | succ steps ih =>
    rw [outputs_succ, ih]
    cases stream.queue <;> simp [List.replicate_succ]

private theorem sound?_outputs (blocks : List Block) :
    (blocks.map Event.soundPlayed).filterMap Event.sound? = blocks := by
  simp [List.filterMap_map, Function.comp_def, Event.sound?]

namespace Record.Lawful

variable {record : Record}

/-- Only the graph is heard. -/
theorem heard_eq_nil (law : record.Lawful) (other : record.call ≠ .process) : record.heard = [] := by
  cases law with
  | queued => simp only [heard]; split <;> rfl
  | processed => exact absurd rfl other
  | _ => rfl

/-- What was in the queue and what was put in is what was taken and what is left. -/
theorem conserves (law : record.Lawful) :
    record.taken ++ waiting record.after = waiting record.before ++ record.accepted := by
  rcases Classical.em (record.call = .process) with graph | other
  · cases law with
    | unopened => rfl
    | @processed device clock due stream now =>
      simp only [taken, heard, sound?_outputs, outputs_eq, waiting, Option.elim_some, accepted,
        Stream.stepped, List.append_nil]
      rcases Nat.le_total (due - stream.processed) stream.queue.length with within | beyond
      · rw [Nat.sub_eq_zero_of_le within, List.replicate_zero, List.append_nil, List.take_take,
          Nat.min_eq_right within, List.take_append_drop]
      · simp [List.take_of_length_le beyond, List.drop_of_length_le beyond]
    | _ => nomatch graph
  · rw [taken, law.heard_eq_nil other, List.take_nil, List.nil_append]
    cases law with
    | queued _ _ wave => simp [accepted, waiting, wave, Stream.fed]
    | processed => exact absurd rfl other
    | _ => simp [accepted, waiting]

theorem counts (law : record.Lawful) :
    stepsMade record.after = stepsMade record.before + record.heard.length := by
  cases law with
  | processed =>
    simp only [stepsMade, heard, sound?_outputs, Stream.stepped]
    simp [Stream.outputs]
  | queued device clock wave =>
    rw [heard_eq_nil (.queued device clock wave) nofun]
    rfl
  | _ => rfl

private theorem silence_iff (law : record.Lawful) (audible : silence ∉ waiting record.before) {step : Nat}
    {block : Block} (heard : record.heard[step]? = some block) :
    block = silence ↔ (waiting record.before).length ≤ step := by
  have graph : record.call = .process := by
    apply Classical.byContradiction
    intro other
    simp [law.heard_eq_nil other] at heard
  cases law with
  | unopened => nomatch heard
  | @processed device clock due stream now =>
    simp only [Record.heard, sound?_outputs, Stream.outputs, List.getElem?_map,
      Option.map_eq_some_iff, List.headD_eq_head?_getD, List.head?_drop] at heard
    obtain ⟨_, made, rfl⟩ := heard
    obtain ⟨_, rfl⟩ := List.getElem?_eq_some_iff.mp made
    simp only [List.getElem_range, waiting, Option.elim_some] at audible ⊢
    rcases Nat.lt_or_ge step stream.queue.length with inside | empty
    · have sounding : stream.queue[step] ≠ silence := fun same =>
        audible (same ▸ List.getElem_mem inside)
      simp [inside, sounding]
    · simp [empty]
  | _ => nomatch graph

private theorem silence_not_mem_accepted (law : record.Lawful) : silence ∉ record.accepted := by
  cases law with
  | queued _ _ wave =>
    simp only [accepted, wave, Option.getD_some]
    exact fun member => silence_not_mem_wave wave (List.mem_of_mem_take member)
  | _ => exact List.not_mem_nil

/-- Once there is a stream there always is one. -/
private theorem isSome_after (law : record.Lawful) (opened : record.before.stream.isSome = true) :
    record.after.stream.isSome = true := by
  cases law <;> simp_all

end Record.Lawful

private theorem silence_not_mem_waiting {records : List Record} {first last : Moment}
    (laws : ∀ record ∈ records, record.Lawful) (linked : Linked first records last)
    (audible : silence ∉ waiting first) :
    ∀ record ∈ records, silence ∉ waiting record.before := by
  refine (linked.lasting (silence ∉ waiting ·) (fun record among quiet member => ?_) audible).1
  have law := laws record among
  have whole := law.conserves ▸ List.mem_append_right (Record.taken record) member
  exact (List.mem_append.mp whole).elim quiet law.silence_not_mem_accepted

end Records

/-- What was heard and what still waits is what was accepted, whoever asks and in whatever order. -/
theorem heard_in_order_accepted (device : Option Nat) (platform : Platform) (calls : List Call) :
    (attendAll calls).Leads ⟨(), { platform with cue := .speaker { device } }⟩
      (fun records after => Settles (device.toList ++ calls.flatMap Call.rates) calls
        ⟨device, platform.clock, none⟩ records after.platform.moment)
      (Overflowed (device.toList ++ calls.flatMap Call.rates)) := by
  have speaks : Speaks (device.toList ++ calls.flatMap Call.rates)
      { platform with cue := .speaker { device } } :=
    ⟨_, rfl, fun _ given => List.mem_append_left _ (Option.mem_toList.mpr given), nofun⟩
  refine Leads.mono (attendAll_leads calls (List.subset_append_right _ _) speaks) ?_
    fun _ _ overflowed => overflowed
  intro records after both
  obtain ⟨⟨output, cue, tuned⟩, recorded⟩ := both
  have laws := recorded.lawful
  have linked := recorded.linked
  have audible := silence_not_mem_waiting laws linked List.not_mem_nil
  have opened := linked.countP_begins (fun moment => moment.stream.isSome)
    fun record among => (laws record among).isSome_after
  have made := linked.counts stepsMade fun record among => (laws record among).counts
  refine ⟨recorded, ?_, opened, ?_, ?_, ?_, ?_⟩
  · rw [moment_eq cue]
    exact tuned.stream
  · exact linked.conserves fun record among => (laws record among).conserves
  · exact fun record member step block => (laws record member).silence_iff (audible record member)
  · rw [made]
    exact (Nat.zero_add _).symm
  · intro record member
    rw [(laws record member).counts]
    exact Nat.le_add_right _ _

end Audio
end FrameViewer
