import WindowsMetafile.Proofs.Course

/-!
# Replays in batches

A list of records can be replayed in batches, each on a canvas of its own, when the next batch goes
on in the context that the last one has ended with. The calls follow each other, and the reports add
up; the failures of a later batch are further on by the number of records before it. The records of
an earlier batch must not end the metafile, since they would end the replay of the whole list.

## Main definitions

* `Report.plus` — two reports as one

## Main results

* `Player.course_append` — a course through two lists is a course through the first and, in the
  context it ends with, through the second
* `Player.course_plus` — what a course tells is added to what was told before it
* `Player.playIn_append` — a replay of two lists is a replay of the first and then of the second
-/

namespace WindowsMetafile

namespace Report

/-- The report of two replays, the second of records that follow those of the first. -/
def plus (report later : Report) : Report where
  records := report.records + later.records
  replayed := report.replayed + later.replayed
  unknown := report.unknown + later.unknown
  failures := report.failures ++
    later.failures.map fun failure => { failure with index := report.records + failure.index }

variable (report later : Report)

@[simp] theorem plus_empty : report.plus .empty = report := by
  simp [plus, empty]

theorem plus_afterReplay (unknown : Bool) :
    (report.plus later).afterReplay unknown = report.plus (later.afterReplay unknown) := by
  simp only [plus, afterReplay, Nat.add_assoc]

theorem plus_afterFailure (record : Record) (fault : Fault) :
    (report.plus later).afterFailure record fault =
      report.plus (later.afterFailure record fault) := by
  simp only [plus, afterFailure, Nat.add_assoc, Array.map_push, Array.append_push]

end Report

/-- The same record behind some more records. -/
def Replayed.behind (count : Nat) (replayed : Replayed) : Replayed :=
  { replayed with index := count + replayed.index }

namespace Player

variable {player : Player} {records : List Record} {report : Report} {context : Context}

theorem calls_behind (player : Player) (trace : List Replayed) (count : Nat) :
    (player.callsOf (trace.map (.behind count))).map MadeCall.call =
      (player.callsOf trace).map MadeCall.call := by
  simp only [callsOf, List.flatMap_map, List.map_flatMap, List.map_map]
  rfl

theorem exists_outcome_eq_ok (hpolicy : player.policy = .proceed) (records : List Record)
    (report : Report) (context : Context) :
    ∃ report', (player.course records report context).outcome = .ok report' := by
  fun_induction player.course records report context with
  | case3 record records report context hallows hends context' hnext ih => exact ih
  | case4 record records report context hallows hends fault hnext hstop =>
    rw [hpolicy] at hstop
    cases hstop
  | case5 record records report context hallows hends fault hnext hproceed ih => exact ih
  | case1 | case2 | case6 => exact ⟨_, rfl⟩

section Unlimited

variable (hallows : ∀ count, player.allows count = true)

include hallows

/-- Without a limit, what is told before a course is not looked at: the rest is added to it. -/
theorem course_plus (records : List Record) (report later : Report) (context : Context) :
    player.course records (report.plus later) context =
      { outcome := (player.course records later context).outcome.map report.plus
        last := (player.course records later context).last
        trace := (player.course records later context).trace.map (.behind report.records) } := by
  fun_induction player.course records later context with
  | case1 later context => rfl
  | case2 record records later context _ hends =>
    rw [course_of_ends (hallows _) hends]
    rfl
  | case3 record records later context _ hends context' hnext ih =>
    rw [course_of_ok (hallows _) hends hnext, Report.plus_afterReplay, ih]
    rfl
  | case4 record records later context _ hends fault hnext hpolicy =>
    rw [course_of_stop (hallows _) hends hnext hpolicy]
    rfl
  | case5 record records later context _ hends fault hnext hpolicy ih =>
    rw [course_of_proceed (hallows _) hends hnext hpolicy, Report.plus_afterFailure, ih]
  | case6 record records later context hfull => exact absurd (hallows _) hfull

/-- Where no record ends it, a course goes through all of its records, and then through those that
follow. -/
theorem course_append (hpolicy : player.policy = .proceed)
    (hends : ∀ record ∈ records, record.endsStream = false) (more : List Record) (report : Report)
    (context : Context) :
    ∃ report', (player.course records report context).outcome = .ok report' ∧
      report'.records = report.records + records.length ∧
      player.course (records ++ more) report context =
        { player.course more report' (player.course records report context).last with
          trace := (player.course records report context).trace ++
            (player.course more report' (player.course records report context).last).trace } := by
  induction records generalizing report context with
  | nil => exact ⟨report, rfl, rfl, rfl⟩
  | cons record records ih =>
    obtain ⟨hrecord, hrecords⟩ := List.forall_mem_cons.mp hends
    have hgoes : ¬ record.endsStream = true := Bool.eq_false_iff.mp hrecord
    have hlength (count : Nat) :
        count + 1 + records.length = count + (record :: records).length := by
      rw [List.length_cons, Nat.add_assoc, Nat.add_comm 1]
    cases hnext : player.next record context with
    | ok context' =>
      obtain ⟨report', houtcome, hcount, happend⟩ :=
        ih hrecords (report.afterReplay record.isUnknown) context'
      refine ⟨report', ?_, hcount.trans (hlength _), ?_⟩
      · rw [course_of_ok (hallows _) hgoes hnext, outcome_preceded, houtcome]
      · rw [List.cons_append, course_of_ok (hallows _) hgoes hnext, happend,
          course_of_ok (hallows _) hgoes hnext]
        rfl
    | error fault =>
      obtain ⟨report', houtcome, hcount, happend⟩ :=
        ih hrecords (report.afterFailure record fault) context
      refine ⟨report', ?_, hcount.trans (hlength _), ?_⟩
      · rw [course_of_proceed (hallows _) hgoes hnext hpolicy, houtcome]
      · rw [List.cons_append, course_of_proceed (hallows _) hgoes hnext hpolicy, happend,
          course_of_proceed (hallows _) hgoes hnext hpolicy]

/-- The calls of a second batch are those that it makes in the context that the first one ends
with. -/
theorem made_append (hpolicy : player.policy = .proceed)
    (hends : ∀ record ∈ records, record.endsStream = false) (more : List Record)
    (context : Context) :
    (player.made context (records ++ more)).map MadeCall.call =
      (player.made context records).map MadeCall.call ++
        (player.made (player.finish context records) more).map MadeCall.call := by
  obtain ⟨first, -, -, happend⟩ := course_append hallows hpolicy hends more .empty context
  have hshift := course_plus hallows more first .empty (player.course records .empty context).last
  rw [Report.plus_empty] at hshift
  rw [made, happend, hshift, callsOf_append, List.map_append, calls_behind, ← finish_eq_last]
  rfl

end Unlimited

/-- Records can be replayed in two batches, each on a fresh canvas, when none of the first batch
ends the metafile: the last context is the same, the calls of the second batch follow those of the
first, and the report is the sum of both. The failures of the second batch are further on by the
length of the first. -/
theorem playIn_append (scale : Scale) (decoder : BitmapDecoder) (context : Context)
    (records more : List Record) (hends : ∀ record ∈ records, record.endsStream = false) :
    let player : Player := ⟨.proceed, none, scale, decoder⟩
    ∃ first second whole middle last canvas,
      player.playIn context records = (.ok first, middle) ∧
      player.playIn middle.context more = (.ok second, last) ∧
      player.playIn context (records ++ more) = (.ok whole, ⟨last.context, canvas⟩) ∧
      canvas.calls.toList = middle.canvas.calls.toList ++ last.canvas.calls.toList ∧
      whole.records = first.records + second.records ∧
      whole.replayed = first.replayed + second.replayed ∧
      whole.unknown = first.unknown + second.unknown ∧
      whole.failures.toList = first.failures.toList ++
        second.failures.toList.map fun failure =>
          { failure with index := records.length + failure.index } := by
  intro player
  have hallows : ∀ count, player.allows count = true := fun _ => rfl
  have hpolicy : player.policy = .proceed := rfl
  obtain ⟨first, hfirst, hcount, happend⟩ :=
    course_append hallows hpolicy hends more .empty context
  obtain ⟨canvas₁, hplay₁, hcalls₁⟩ := player.playIn_eq_course records context
  obtain ⟨canvas₂, hplay₂, hcalls₂⟩ :=
    player.playIn_eq_course more (player.course records .empty context).last
  obtain ⟨canvas, hplay, hcalls⟩ := player.playIn_eq_course (records ++ more) context
  obtain ⟨second, hsecond⟩ :=
    exists_outcome_eq_ok hpolicy more .empty (player.course records .empty context).last
  -- The second part of the long course starts with the report of the first batch.
  have hshift := course_plus hallows more first .empty (player.course records .empty context).last
  rw [Report.plus_empty, hsecond] at hshift
  rw [hfirst] at hplay₁
  rw [hsecond] at hplay₂
  rw [happend, hshift] at hplay
  refine ⟨first, second, first.plus second, _, _, canvas, hplay₁, hplay₂, hplay, ?_, rfl, rfl, rfl,
    ?_⟩
  · rw [hcalls, hcalls₁, hcalls₂, made_append hallows hpolicy hends, finish_eq_last]
  · have hlength : first.records = records.length := hcount.trans (Nat.zero_add _)
    simp only [Report.plus, Array.toList_append, Array.toList_map, hlength]

/-- Each of two batches has a RestoreDC without a saved state. The second one is the first record of
its batch, and the second record of the whole. -/
theorem playIn_append_two_faults :
    let player : Player := ⟨.proceed, none, .identity, fun _ => .ok ⟨0, 0, []⟩⟩
    let records : List Record := [⟨0x0127, [5]⟩]
    let more : List Record := [⟨0x0127, [7]⟩, ⟨0x0000, []⟩]
    (∀ record ∈ records, record.endsStream = false) ∧
      ∃ whole last, player.playIn .fresh (records ++ more) = (.ok whole, last) ∧
        whole.failures.toList =
          [⟨0, 0x0127, .missingState 5 0⟩, ⟨1, 0x0127, .missingState 7 0⟩] := by
  intro player records more
  have hends : ∀ record ∈ records, record.endsStream = false := by decide
  refine ⟨hends, ?_⟩
  obtain ⟨first, second, whole, middle, last, canvas, hfirst, hsecond, hwhole, -, -, -, -,
    hfailures⟩ := playIn_append .identity (fun _ => .ok ⟨0, 0, []⟩) .fresh records more hends
  refine ⟨whole, _, hwhole, ?_⟩
  have hmiddle : middle.context = .fresh := (congrArg (·.2.context) hfirst).symm
  rw [hmiddle] at hsecond
  have hone : first = ⟨1, 0, 0, #[⟨0, 0x0127, .missingState 5 0⟩]⟩ :=
    Except.ok.inj (congrArg Prod.fst hfirst).symm
  have htwo : second = ⟨2, 0, 0, #[⟨0, 0x0127, .missingState 7 0⟩]⟩ :=
    Except.ok.inj (congrArg Prod.fst hsecond).symm
  rw [hfailures, hone, htwo]
  rfl

end Player

end WindowsMetafile
