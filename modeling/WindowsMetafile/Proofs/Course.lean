import WindowsMetafile.Proofs.Operation

/-!
# The course of a replay

Which records are replayed, in which contexts, and how the replay ends depends on the records and on
the context that it starts in. The canvas has no part in it: it only takes up the draw calls, each
under the transform and the clip that its record asks for. So a law of replays can be shown of their
courses, where there is no canvas.

## Main definitions

* `Player.course` — the outcome, the last context, and the replayed records with their contexts
* `Player.made` — the draw calls of a course, each with its record

## Main results

* `Player.playOn_eq_course` — a replay runs its course and adds the calls made in it to the canvas
* `Player.of_mem_made` — a draw call is made in the context that the replay of the records before
  its record ends with
-/

namespace WindowsMetafile

/-- A record that was replayed. -/
structure Replayed where
  /-- The number of records before it. -/
  index : Nat
  record : Record
  /-- The context just before it. -/
  before : Context

/-- A draw call, with the record that made it. -/
structure MadeCall extends Replayed where
  call : DrawCall

/-- What happens in a replay, its draw calls aside. -/
structure Course where
  /-- The report, or the fault that has ended the replay. -/
  outcome : Except Fault Report
  /-- The context at the end. -/
  last : Context
  /-- The records that did not fail. -/
  trace : List Replayed

/-- A course with one more record in front. -/
def Course.preceded (course : Course) (replayed : Replayed) : Course :=
  { course with trace := replayed :: course.trace }

namespace Player

/-- The course that a replay takes through some records, after those that a report tells about. -/
def course (player : Player) : List Record → Report → Context → Course
  | [], report, context => ⟨.ok report, context, []⟩
  | record :: records, report, context =>
    if player.allows report.records then
      if record.endsStream then
        ⟨.ok { report with records := report.records + 1 }, context, []⟩
      else
        match player.next record context with
        | .ok context' =>
          (player.course records (report.afterReplay record.isUnknown) context').preceded
            ⟨report.records, record, context⟩
        | .error fault =>
          match player.policy with
          | .stop => ⟨.error fault, context, []⟩
          | .proceed => player.course records (report.afterFailure record fault) context
    else ⟨.ok report, context, []⟩

/-- The draw calls that some replayed records make. -/
def callsOf (player : Player) (trace : List Replayed) : List MadeCall :=
  trace.flatMap fun replayed => (player.calls replayed.record replayed.before).map (.mk replayed)

/-- The draw calls that are made when records are replayed in a context. -/
def made (player : Player) (context : Context) (records : List Record) : List MadeCall :=
  player.callsOf (player.course records .empty context).trace

variable {player : Player} {record : Record} {records : List Record} {report : Report}
variable {context context' : Context} {fault : Fault}

/-! ### Single steps -/

@[simp] theorem outcome_preceded (course : Course) (replayed : Replayed) :
    (course.preceded replayed).outcome = course.outcome := rfl

@[simp] theorem last_preceded (course : Course) (replayed : Replayed) :
    (course.preceded replayed).last = course.last := rfl

@[simp] theorem trace_preceded (course : Course) (replayed : Replayed) :
    (course.preceded replayed).trace = replayed :: course.trace := rfl

section Steps

variable (hallows : player.allows report.records = true)

include hallows

theorem course_of_ends (hends : record.endsStream = true) :
    player.course (record :: records) report context =
      ⟨.ok { report with records := report.records + 1 }, context, []⟩ := by
  rw [course, if_pos hallows, if_pos hends]

variable (hends : ¬ record.endsStream = true)

include hends

theorem course_of_ok (hnext : player.next record context = .ok context') :
    player.course (record :: records) report context =
      (player.course records (report.afterReplay record.isUnknown) context').preceded
        ⟨report.records, record, context⟩ := by
  rw [course, if_pos hallows, if_neg hends, hnext]

theorem course_of_stop (hnext : player.next record context = .error fault)
    (hpolicy : player.policy = .stop) :
    player.course (record :: records) report context = ⟨.error fault, context, []⟩ := by
  rw [course, if_pos hallows, if_neg hends, hnext]
  simp only [hpolicy]

theorem course_of_proceed (hnext : player.next record context = .error fault)
    (hpolicy : player.policy = .proceed) :
    player.course (record :: records) report context =
      player.course records (report.afterFailure record fault) context := by
  rw [course, if_pos hallows, if_neg hends, hnext]
  simp only [hpolicy]

/-- A record that fails ends the replay, or is noted, as the policy says. -/
theorem step_of_next_error (hnext : player.next record context = .error fault) (canvas : Canvas) :
    player.step record report ⟨context, canvas⟩ =
      match player.policy with
      | .stop => .inl (.error fault, ⟨context, canvas⟩)
      | .proceed => .inr (report.afterFailure record fault, ⟨context, canvas⟩) := by
  have hrun := playRecord_of_error hnext canvas
  cases hpolicy : player.policy with
  | stop =>
    rw [step, if_pos hallows, if_neg hends, hrun]
    simp only [hpolicy]
  | proceed =>
    rw [step, if_pos hallows, if_neg hends, hrun]
    simp only [hpolicy]

end Steps

theorem course_of_full (hfull : ¬ player.allows report.records = true) :
    player.course (record :: records) report context = ⟨.ok report, context, []⟩ := by
  rw [course, if_neg hfull]

theorem step_of_full (hfull : ¬ player.allows report.records = true) (session : Session) :
    player.step record report session = .inl (.ok report, session) := by
  rw [step, if_neg hfull]

/-! ### Replays -/

theorem callsOf_cons (player : Player) (replayed : Replayed) (trace : List Replayed) :
    player.callsOf (replayed :: trace) =
      (player.calls replayed.record replayed.before).map (.mk replayed) ++ player.callsOf trace :=
  List.flatMap_cons

theorem callsOf_singleton (player : Player) (replayed : Replayed) :
    player.callsOf [replayed] =
      (player.calls replayed.record replayed.before).map (.mk replayed) :=
  List.flatMap_singleton ..

theorem callsOf_append (player : Player) (trace later : List Replayed) :
    player.callsOf (trace ++ later) = player.callsOf trace ++ player.callsOf later :=
  List.flatMap_append

/-- A replay runs its course, whatever the canvas is like, and adds the calls made in it. -/
theorem playOn_eq_course (player : Player) (records : List Record) (report : Report)
    (context : Context) (canvas : Canvas) :
    ∃ canvas', player.playOn records report ⟨context, canvas⟩ =
        ((player.course records report context).outcome,
          ⟨(player.course records report context).last, canvas'⟩) ∧
      canvas'.calls.toList = canvas.calls.toList ++
        (player.callsOf (player.course records report context).trace).map MadeCall.call := by
  fun_induction player.course records report context generalizing canvas with
  -- No records are left.
  | case1 report context => exact ⟨canvas, rfl, (List.append_nil _).symm⟩
  -- The record ends the metafile.
  | case2 record records report context hallows hends =>
    exact ⟨canvas, playOn_of_inl (step_of_ends hallows hends), (List.append_nil _).symm⟩
  -- The record is replayed: its own calls come before those of the records after it.
  | case3 record records report context hallows hends context' hnext ih =>
    obtain ⟨canvas₁, hrun, hcalls⟩ := playRecord_of_ok hnext canvas
    obtain ⟨canvas', hplay, hlater⟩ := ih canvas₁
    have hstep := step_of_ok hallows (Bool.eq_false_iff.mpr hends) hrun
    refine ⟨canvas', (playOn_of_inr hstep).trans hplay, ?_⟩
    have hown : (player.calls record context).map
        (MadeCall.call ∘ .mk ⟨report.records, record, context⟩) = player.calls record context :=
      List.map_id _
    rw [hlater, hcalls, trace_preceded, callsOf_cons, List.map_append, List.map_map, hown,
      List.append_assoc]
  -- The record fails, and the policy is to stop.
  | case4 record records report context hallows hends fault hnext hpolicy =>
    have hstep := step_of_next_error hallows hends hnext canvas
    simp only [hpolicy] at hstep
    exact ⟨canvas, playOn_of_inl hstep, (List.append_nil _).symm⟩
  -- The record fails and is passed over.
  | case5 record records report context hallows hends fault hnext hpolicy ih =>
    have hstep := step_of_next_error hallows hends hnext canvas
    simp only [hpolicy] at hstep
    obtain ⟨canvas', hplay, hlater⟩ := ih canvas
    exact ⟨canvas', (playOn_of_inr hstep).trans hplay, hlater⟩
  -- The limit is reached.
  | case6 record records report context hfull =>
    exact ⟨canvas, playOn_of_inl (step_of_full hfull _), (List.append_nil _).symm⟩

/-- A replay in a session runs its course and adds the calls made in it. -/
theorem play_eq_course (player : Player) (records : List Record) (context : Context)
    (canvas : Canvas) :
    let course := player.course records .empty context
    ∃ canvas', player.play records ⟨context, canvas⟩ = (course.outcome, ⟨course.last, canvas'⟩) ∧
      canvas'.calls.toList =
        canvas.calls.toList ++ (player.made context records).map MadeCall.call :=
  -- The sync at the beginning changes the transform and the clip of the canvas, not its calls.
  player.playOn_eq_course records .empty context (Session.mk context canvas).sync.canvas

/-- On a fresh canvas, the calls of a replay are those made in its course. -/
theorem playIn_eq_course (player : Player) (records : List Record) (context : Context) :
    let course := player.course records .empty context
    ∃ canvas, player.playIn context records = (course.outcome, ⟨course.last, canvas⟩) ∧
      canvas.calls.toList = (player.made context records).map MadeCall.call :=
  player.play_eq_course records context .fresh

theorem calls_play (player : Player) (records : List Record) (context : Context)
    (canvas : Canvas) :
    (player.play records ⟨context, canvas⟩).2.canvas.calls.toList =
      canvas.calls.toList ++ (player.made context records).map MadeCall.call := by
  obtain ⟨canvas', hplay, hcalls⟩ := player.play_eq_course records context canvas
  rw [hplay, hcalls]

theorem calls_playIn (player : Player) (records : List Record) (context : Context) :
    (player.playIn context records).2.canvas.calls.toList =
      (player.made context records).map MadeCall.call :=
  player.calls_play records context .fresh

theorem finish_eq_last (player : Player) (context : Context) (records : List Record) :
    player.finish context records = (player.course records .empty context).last := by
  obtain ⟨canvas, hplay, -⟩ := player.playIn_eq_course records context
  rw [finish, hplay]

/-! ### Replayed records -/

/-- A replayed record is the one at its place, and its context is the last one of the course through
the records before that place. -/
theorem of_mem_trace {replayed : Replayed}
    (h : replayed ∈ (player.course records report context).trace) :
    ∃ place, replayed.index = report.records + place ∧ records[place]? = some replayed.record ∧
      (player.course (records.take place) report context).last = replayed.before := by
  fun_induction player.course records report context with
  | case3 record records report context hallows hends context' hnext ih =>
    rcases List.mem_cons.mp h with rfl | h
    · exact ⟨0, rfl, rfl, rfl⟩
    · obtain ⟨place, hindex, hrecord, hlast⟩ := ih h
      refine ⟨place + 1, ?_, hrecord, ?_⟩
      · rw [hindex, Report.afterReplay, Nat.add_assoc, Nat.add_comm 1]
      · rw [List.take_succ_cons, course_of_ok hallows hends hnext, last_preceded, hlast]
  | case5 record records report context hallows hends fault hnext hpolicy ih =>
    obtain ⟨place, hindex, hrecord, hlast⟩ := ih h
    refine ⟨place + 1, ?_, hrecord, ?_⟩
    · rw [hindex, Report.afterFailure, Nat.add_assoc, Nat.add_comm 1]
    · rw [List.take_succ_cons, course_of_proceed hallows hends hnext hpolicy, hlast]
  -- Where a course ends, its trace is empty.
  | case1 | case2 | case4 | case6 => cases h

/-- No replayed record has a place before those of its course. -/
theorem filter_trace_eq_nil :
    (player.course records report context).trace.filter (·.index < report.records) = [] := by
  refine List.filter_eq_nil_iff.mpr fun replayed hreplayed => ?_
  obtain ⟨place, hindex, -, -⟩ := of_mem_trace hreplayed
  rw [decide_eq_true_eq, hindex]
  exact Nat.not_lt.mpr (Nat.le_add_right _ _)

/-- The course through the first records replays those of them that the whole course replays. -/
theorem trace_take (player : Player) (records : List Record) (report : Report) (context : Context)
    (place : Nat) :
    (player.course (records.take place) report context).trace =
      (player.course records report context).trace.filter
        (·.index < report.records + place) := by
  -- One record fewer is left for the course behind the first record, which starts one place later.
  have hshift (count place : Nat) : count + (place + 1) = count + 1 + place := by
    rw [Nat.add_assoc, Nat.add_comm 1]
  induction records generalizing report context place with
  | nil =>
    rw [List.take_nil]
    rfl
  | cons record records ih =>
    cases place with
    | zero => exact filter_trace_eq_nil.symm
    | succ place =>
      rw [List.take_succ_cons, hshift]
      by_cases hallows : player.allows report.records = true
      · by_cases hends : record.endsStream = true
        · rw [course_of_ends hallows hends, course_of_ends hallows hends]
          rfl
        · cases hnext : player.next record context with
          | ok context' =>
            rw [course_of_ok hallows hends hnext, course_of_ok hallows hends hnext, trace_preceded,
              trace_preceded, ih, List.filter_cons_of_pos (by simp; omega)]
            rfl
          | error fault =>
            cases hpolicy : player.policy with
            | stop =>
              rw [course_of_stop hallows hends hnext hpolicy,
                course_of_stop hallows hends hnext hpolicy]
              rfl
            | proceed =>
              rw [course_of_proceed hallows hends hnext hpolicy,
                course_of_proceed hallows hends hnext hpolicy, ih]
              rfl
      · rw [course_of_full hallows, course_of_full hallows]
        rfl

theorem callsOf_filter (player : Player) (trace : List Replayed) (place : Nat) :
    player.callsOf (trace.filter (·.index < place)) =
      (player.callsOf trace).filter (·.index < place) := by
  induction trace with
  | nil => rfl
  | cons replayed trace ih =>
    rw [callsOf_cons, List.filter_append, List.filter_map, ← ih]
    by_cases hbefore : replayed.index < place
    · rw [List.filter_cons_of_pos (by simpa using hbefore), callsOf_cons]
      simp [Function.comp_def, hbefore]
    · rw [List.filter_cons_of_neg (by simpa using hbefore)]
      simp [Function.comp_def, hbefore]

/-- The calls made in the replay of the first records are those of them that are made in the replay
of all. -/
theorem made_take (player : Player) (context : Context) (records : List Record) (place : Nat) :
    player.made context (records.take place) =
      (player.made context records).filter (·.index < place) := by
  have hstart : Report.empty.records + place = place := Nat.zero_add place
  rw [made, made, trace_take, hstart, callsOf_filter]

theorem mem_callsOf {trace : List Replayed} {made : MadeCall} :
    made ∈ player.callsOf trace ↔
      made.toReplayed ∈ trace ∧ made.call ∈ player.calls made.record made.before := by
  unfold callsOf
  rw [List.mem_flatMap]
  constructor
  · rintro ⟨replayed, hreplayed, hcall⟩
    obtain ⟨call, hmade, rfl⟩ := List.mem_map.mp hcall
    exact ⟨hreplayed, hmade⟩
  · rintro ⟨hreplayed, hcall⟩
    exact ⟨_, hreplayed, List.mem_map_of_mem hcall⟩

/-- A draw call is made by the record at its place, in the context that the replay of the records
before that place ends with. -/
theorem of_mem_made {made : MadeCall} (h : made ∈ player.made context records) :
    records[made.index]? = some made.record ∧
      player.finish context (records.take made.index) = made.before ∧
      made.call ∈ player.calls made.record made.before := by
  obtain ⟨hreplayed, hcall⟩ := mem_callsOf.mp h
  obtain ⟨place, hindex, hrecord, hlast⟩ := of_mem_trace hreplayed
  obtain rfl : made.index = place := hindex.trans (Nat.zero_add place)
  exact ⟨hrecord, (player.finish_eq_last context _).trans hlast, hcall⟩

end Player

end WindowsMetafile
