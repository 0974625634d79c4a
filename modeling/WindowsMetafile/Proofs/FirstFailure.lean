import WindowsMetafile.Proofs.Course

/-!
# Replays that stop at a failure

The policy makes no difference to a record that does not fail. So a replay that stops at failures
and one that passes over them go together up to the first failure. The record that fails leaves no
trace, so the replay that stops has done just what the other one does with the records before it.

## Main definitions

* `Player.under` — the same replay under another policy
* `Player.GoesTogether` — how a replay ends under the two policies

## Main results

* `Player.step_cases` — a record does the same under both policies, or it fails
* `Player.goesTogether` — the two replays go together up to the first failure
* `Player.play_stop` — a replay that stops is one that passes over failures, cut before the first
  record that fails
-/

namespace WindowsMetafile

namespace Player

variable {player : Player} {record : Record} {records : List Record} {report : Report}
variable {session : Session}

/-- The same replay under another policy. -/
def under (player : Player) (policy : FaultPolicy) : Player :=
  { player with policy }

/-- A record does the same under every policy, unless it fails: then the replay that stops ends as
it is, and the one that passes over failures goes on with one failure more. -/
theorem step_cases (player : Player) (record : Record) (report : Report) (session : Session) :
    (∃ result : Report, result.failures = report.failures ∧
      ∀ policy, (player.under policy).step record report session = .inl (.ok result, session)) ∨
    (∃ unknown session', ∀ policy, (player.under policy).step record report session =
      .inr (report.afterReplay unknown, session')) ∨
    (∃ fault, (player.under .stop).step record report session = .inl (.error fault, session) ∧
      (player.under .proceed).step record report session =
        .inr (report.afterFailure record fault, session)) := by
  by_cases hlimit : player.allows report.records = true
  · have hallows (policy : FaultPolicy) : (player.under policy).allows report.records = true :=
      hlimit
    by_cases hends : record.endsStream = true
    · exact .inl ⟨{ report with records := report.records + 1 }, rfl, fun policy =>
        step_of_ends (hallows policy) hends⟩
    · cases hnext : player.next record session.context with
      | ok context' =>
        obtain ⟨canvas', hrun, -⟩ := playRecord_of_ok hnext session.canvas
        exact .inr (.inl ⟨record.isUnknown, ⟨context', canvas'⟩, fun policy =>
          step_of_ok (hallows policy) (Bool.eq_false_iff.mpr hends) hrun⟩)
      | error fault =>
        have hstep (policy : FaultPolicy) :=
          step_of_next_error (hallows policy) hends hnext session.canvas
        exact .inr (.inr ⟨fault, hstep .stop, hstep .proceed⟩)
  · have hfull (policy : FaultPolicy) : ¬ (player.under policy).allows report.records = true :=
      hlimit
    exact .inl ⟨report, rfl, fun policy => step_of_full (hfull policy) session⟩

/-- How a replay ends under the two policies. -/
inductive GoesTogether (player : Player) (records : List Record) (report : Report)
    (session : Session) : Prop
  /-- Without a failure, both replays tell the same and end in the same session. -/
  | clean (report' : Report) (last : Session) (clean : report'.failures = report.failures)
      (plays : ∀ policy, (player.under policy).playOn records report session = (.ok report', last))
  /-- The replay that stops does what the other one does with the records before the first failure,
  and ends with the fault of that one. -/
  | cut (place : Nat) (failure : RecordFailure) (later : List RecordFailure)
      (report' before : Report) (last middle : Session)
      (index : failure.index = report.records + place)
      (proceeds : (player.under .proceed).playOn records report session = (.ok report', last))
      (failures : report'.failures.toList = report.failures.toList ++ failure :: later)
      (front : (player.under .proceed).playOn (records.take place) report session =
        (.ok before, middle))
      (clean : before.failures = report.failures)
      (stops : (player.under .stop).playOn records report session = (.error failure.fault, middle))

namespace GoesTogether

/-- A replay that passes over failures ends with those that it began with, and more. -/
theorem proceeds (h : player.GoesTogether records report session) :
    ∃ report' last later,
      (player.under .proceed).playOn records report session = (.ok report', last) ∧
      report'.failures.toList = report.failures.toList ++ later := by
  cases h with
  | clean report' last hclean hplays =>
    exact ⟨report', last, [], hplays .proceed, by rw [hclean, List.append_nil]⟩
  | cut place failure later report' before last middle hindex hproceeds hfailures hfront hclean
      hstops =>
    exact ⟨report', last, failure :: later, hproceeds, hfailures⟩

/-- A record that does not fail goes in front. -/
theorem replayed {unknown : Bool} {session' : Session}
    (hstep : ∀ policy, (player.under policy).step record report session =
      .inr (report.afterReplay unknown, session'))
    (h : player.GoesTogether records (report.afterReplay unknown) session') :
    player.GoesTogether (record :: records) report session := by
  cases h with
  | clean report' last hclean hplays =>
    exact .clean report' last hclean fun policy =>
      (playOn_of_inr (hstep policy)).trans (hplays policy)
  | cut place failure later report' before last middle hindex hproceeds hfailures hfront hclean
      hstops =>
    have hplace : failure.index = report.records + (place + 1) := by
      rw [hindex, Report.afterReplay, Nat.add_assoc, Nat.add_comm 1]
    exact .cut (place + 1) failure later report' before last middle hplace
      ((playOn_of_inr (hstep .proceed)).trans hproceeds) hfailures
      ((playOn_of_inr (hstep .proceed)).trans hfront) hclean
      ((playOn_of_inr (hstep .stop)).trans hstops)

/-- A record that fails is the first one to do so, and no record stands before it. -/
theorem failed {fault : Fault}
    (hstops : (player.under .stop).step record report session = .inl (.error fault, session))
    (hproceeds : (player.under .proceed).step record report session =
      .inr (report.afterFailure record fault, session))
    (h : player.GoesTogether records (report.afterFailure record fault) session) :
    player.GoesTogether (record :: records) report session := by
  obtain ⟨report', last, later, hplay, hfailures⟩ := h.proceeds
  have hfirst : report'.failures.toList =
      report.failures.toList ++ ⟨report.records, record.opcode, fault⟩ :: later := by
    rw [hfailures]
    simp [Report.afterFailure]
  exact .cut 0 _ later report' report last session rfl ((playOn_of_inr hproceeds).trans hplay)
    hfirst rfl rfl (playOn_of_inl hstops)

end GoesTogether

/-- The two replays go together up to the first failure. -/
theorem goesTogether (player : Player) (records : List Record) (report : Report)
    (session : Session) : player.GoesTogether records report session := by
  induction records generalizing report session with
  | nil => exact .clean report session rfl fun _ => rfl
  | cons record records ih =>
    rcases player.step_cases record report session with
      ⟨result, hresult, hstep⟩ | ⟨unknown, session', hstep⟩ | ⟨fault, hstops, hproceeds⟩
    · exact .clean result session hresult fun policy => playOn_of_inl (hstep policy)
    · exact .replayed hstep (ih _ _)
    · exact .failed hstops hproceeds (ih _ _)

/-- A replay that stops at failures is one that passes over them, cut before the first record that
fails. Where no record fails, both tell the same and end in the same session. Otherwise the replay
that stops gives the fault of the first failure, and ends in the session of a replay that passes
over failures and has only the records before that one, none of which fails. -/
theorem play_stop (limit : Option Nat) (scale : Scale) (decoder : BitmapDecoder)
    (records : List Record) (session : Session) :
    let player (policy : FaultPolicy) : Player := ⟨policy, limit, scale, decoder⟩
    ∃ report last, (player .proceed).play records session = (.ok report, last) ∧
      (report.failures = #[] → (player .stop).play records session = (.ok report, last)) ∧
      ∀ failure, report.failures[0]? = some failure →
        ∃ before middle,
          (player .proceed).play (records.take failure.index) session = (.ok before, middle) ∧
          before.failures = #[] ∧
          (player .stop).play records session = (.error failure.fault, middle) := by
  intro player
  cases (player .proceed).goesTogether records .empty session.sync with
  | clean report last hclean hplays =>
    refine ⟨report, last, hplays .proceed, fun _ => hplays .stop, fun failure hfailure => ?_⟩
    rw [hclean] at hfailure
    cases hfailure
  | cut place first later report before last middle hindex hproceeds hfailures hfront hclean
      hstops =>
    rw [Report.empty, List.nil_append] at hfailures
    refine ⟨report, last, hproceeds, fun hempty => ?_, fun failure hfailure => ?_⟩
    · rw [hempty] at hfailures
      cases hfailures
    · rw [← Array.getElem?_toList, hfailures] at hfailure
      cases hfailure
      obtain rfl : first.index = place := hindex.trans (Nat.zero_add place)
      exact ⟨before, middle, hfront, hclean, hstops⟩

end Player

end WindowsMetafile
