import WindowsMetafile.Playback.Player
import WindowsMetafile.Proofs.Effect
import WindowsMetafile.Proofs.Reencoding

/-!
# Runs of records

A record does to a session what the action in it does. A record that fails, when it is read or when
it is replayed, leaves the session as it was, and so does a record with a function code without
meaning. A replay can do without these records.

## Main definitions

* `Player.next`, `Player.calls` — the context after a record, and the draw calls that it makes
* `Player.step` — what one record does to a replay
* `Report.kept` — the records that neither failed nor were unknown
* `Player.PlaysKept` — a replay can do without the other records

## Main results

* `Player.playRecord_of_ok`, `Player.playRecord_of_error` — what a record does
* `Player.play_kept` — a replay without failed and unknown records ends in the same session
-/

namespace WindowsMetafile

namespace Player

variable {player : Player} {record : Record} {records : List Record} {session : Session}
variable {context context' : Context} {fault : Fault}

/-! ### Single records -/

/-- The context after a record, or why there is none. -/
def next (player : Player) (record : Record) (context : Context) : Except Fault Context := do
  let command ← record.decode
  command.action.next player.decoder player.scale context

/-- The draw calls that a record makes. -/
def calls (player : Player) (record : Record) (context : Context) : List DrawCall :=
  match record.decode with
  | .ok command => command.action.calls player.decoder player.scale context
  | .error _ => []

/-- A record that does not fail leads to its next context, and makes its calls on the way. -/
theorem playRecord_of_ok (h : player.next record context = .ok context') (canvas : Canvas) :
    ∃ canvas', (player.playRecord record).run.run ⟨context, canvas⟩ =
        (.ok record.isUnknown, ⟨context', canvas'⟩) ∧
      canvas'.calls.toList = canvas.calls.toList ++ player.calls record context := by
  unfold next at h
  unfold playRecord calls
  cases hdecode : record.decode with
  | error fault =>
    rw [hdecode] at h
    cases h
  | ok command =>
    rw [hdecode] at h
    obtain ⟨canvas', hrun, hcalls⟩ := Replay.perform_of_ok h canvas
    refine ⟨canvas', ?_, hcalls⟩
    rw [Replay.run_lift_ok_bind, Command.replay_setScale, ← Record.isUnknown_of_decode hdecode]
    exact Replay.run_bind_of_ok hrun

/-- A record that fails leaves the session as it was. -/
theorem playRecord_of_error (h : player.next record context = .error fault) (canvas : Canvas) :
    (player.playRecord record).run.run ⟨context, canvas⟩ = (.error fault, ⟨context, canvas⟩) := by
  unfold next at h
  unfold playRecord
  cases hdecode : record.decode with
  | error fault =>
    rw [hdecode] at h
    cases h
    rfl
  | ok command =>
    rw [hdecode] at h
    rw [Replay.run_lift_ok_bind, Command.replay_setScale]
    exact Replay.run_bind_of_error (Replay.perform_of_error h canvas)

/-- A record that fails leaves the session as it was. -/
theorem eq_of_playRecord_error {last : Session}
    (h : (player.playRecord record).run.run session = (.error fault, last)) : last = session := by
  cases hnext : player.next record session.context with
  | error fault' =>
    rw [playRecord_of_error hnext session.canvas] at h
    exact (congrArg Prod.snd h).symm
  | ok context' =>
    obtain ⟨canvas', hrun, -⟩ := playRecord_of_ok hnext session.canvas
    rw [hrun] at h
    cases congrArg Prod.fst h

/-- A record with a function code without meaning leaves the session as it was. -/
theorem playRecord_of_unknown (h : record.isUnknown = true) :
    (player.playRecord record).run.run session = (.ok true, session) := by
  unfold playRecord
  rw [Record.decode_of_unknown (Option.isNone_iff_eq_none.mp h)]
  rfl

theorem unknown_of_playRecord {unknown : Bool} {last : Session}
    (h : (player.playRecord record).run.run session = (.ok unknown, last)) :
    unknown = record.isUnknown := by
  cases hnext : player.next record session.context with
  | error fault =>
    rw [playRecord_of_error hnext session.canvas] at h
    cases congrArg Prod.fst h
  | ok context' =>
    obtain ⟨canvas', hrun, -⟩ := playRecord_of_ok hnext session.canvas
    rw [hrun] at h
    exact (Except.ok.inj (congrArg Prod.fst h)).symm

end Player

/-! ### One record after the other -/

namespace Report

/-- The report about one more record, which was replayed. -/
def afterReplay (report : Report) (unknown : Bool) : Report :=
  { report with
    records := report.records + 1
    replayed := report.replayed + 1
    unknown := report.unknown + if unknown then 1 else 0 }

/-- The report about one more record, which failed. -/
def afterFailure (report : Report) (record : Record) (fault : Fault) : Report :=
  { report with
    records := report.records + 1
    failures := report.failures.push ⟨report.records, record.opcode, fault⟩ }

end Report

namespace Player

variable {player : Player} {record : Record} {records : List Record} {report : Report}
variable {session session' : Session} {unknown : Bool} {fault : Fault}

/-- What one record does to a replay: either the replay ends, or it goes on with a further
report. -/
def step (player : Player) (record : Record) (report : Report) (session : Session) :
    (Except Fault Report × Session) ⊕ (Report × Session) :=
  if player.allows report.records then
    if record.endsStream then .inl (.ok { report with records := report.records + 1 }, session)
    else
      match (player.playRecord record).run.run session with
      | (.ok unknown, session) => .inr (report.afterReplay unknown, session)
      | (.error fault, session) =>
        match player.policy with
        | .stop => .inl (.error fault, session)
        | .proceed => .inr (report.afterFailure record fault, session)
  else .inl (.ok report, session)

theorem playOn_cons (player : Player) (record : Record) (records : List Record) (report : Report)
    (session : Session) :
    player.playOn (record :: records) report session =
      match player.step record report session with
      | .inl result => result
      | .inr (report, session) => player.playOn records report session := by
  rw [playOn, step]
  split
  · split
    · rfl
    · dsimp only
      rcases (player.playRecord record).run.run session with ⟨fault | unknown, session'⟩
      · cases player.policy <;> rfl
      · rfl
  · rfl

theorem playOn_of_inl {result : Except Fault Report × Session}
    (h : player.step record report session = .inl result) :
    player.playOn (record :: records) report session = result := by
  rw [playOn_cons, h]

theorem playOn_of_inr {report' : Report}
    (h : player.step record report session = .inr (report', session')) :
    player.playOn (record :: records) report session = player.playOn records report' session' := by
  rw [playOn_cons, h]

theorem step_of_ends (hallows : player.allows report.records = true)
    (hends : record.endsStream = true) :
    player.step record report session =
      .inl (.ok { report with records := report.records + 1 }, session) := by
  rw [step, if_pos hallows, if_pos hends]

theorem step_of_ok (hallows : player.allows report.records = true)
    (hends : record.endsStream = false)
    (h : (player.playRecord record).run.run session = (.ok unknown, session')) :
    player.step record report session = .inr (report.afterReplay unknown, session') := by
  rw [step, if_pos hallows, hends, h]
  rfl

theorem step_of_error (hallows : player.allows report.records = true)
    (hends : record.endsStream = false) (hpolicy : player.policy = .proceed)
    (h : (player.playRecord record).run.run session = (.error fault, session')) :
    player.step record report session = .inr (report.afterFailure record fault, session') := by
  rw [step, if_pos hallows, hends, h, hpolicy]
  rfl

end Player

/-! ### Runs without the records that do nothing -/

/-- The records that have a function code with a meaning and are not listed as failed, when the
first one has a certain index. -/
def keptFrom (failures : List RecordFailure) (first : Nat) (records : List Record) : List Record :=
  ((records.zipIdx first).filter fun p =>
    !p.1.isUnknown && failures.all fun failure => failure.index != p.2).map Prod.fst

theorem keptFrom_cons (failures : List RecordFailure) (first : Nat) (record : Record)
    (records : List Record) :
    keptFrom failures first (record :: records) =
      if !record.isUnknown && failures.all fun failure => failure.index != first then
        record :: keptFrom failures (first + 1) records
      else keptFrom failures (first + 1) records := by
  rw [keptFrom, List.zipIdx_cons, List.filter_cons]
  split <;> rfl

/-- Failures before the first record do not matter. -/
theorem keptFrom_of_lt {failure : RecordFailure} {first : Nat} (h : failure.index < first)
    (failures : List RecordFailure) (records : List Record) :
    keptFrom (failure :: failures) first records = keptFrom failures first records := by
  unfold keptFrom
  congr 1
  refine List.filter_congr fun p hp => ?_
  have hindex : failure.index ≠ p.2 := by
    have := List.le_snd_of_mem_zipIdx hp
    omega
  rw [List.all_cons, bne_iff_ne.mpr hindex, Bool.true_and]

/-- The records of a replay that neither failed nor had a function code without meaning. -/
def Report.kept (report : Report) (records : List Record) : List Record :=
  keptFrom report.failures.toList 0 records

namespace Player

/-- A replay that has begun can do without the records that fail or are unknown. The failures to
come are at the places of the records to come, and the other replay has a report of its own. -/
def PlaysKept (player : Player) (records : List Record) (report : Report) (session : Session) :
    Prop :=
  ∃ report' last failures, player.playOn records report session = (.ok report', last) ∧
    report'.failures.toList = report.failures.toList ++ failures ∧
    (∀ failure ∈ failures, report.records ≤ failure.index) ∧
    ∀ start, ∃ finish,
      player.playOn (keptFrom failures report.records records) start session =
        (.ok finish, last) ∧
      finish.failures = start.failures ∧
      finish.replayed + (report'.unknown + report.replayed) =
        start.replayed + (report'.replayed + report.unknown)

section Kept

variable {player : Player} {record : Record} {records : List Record} {report : Report}
variable {session session' : Session} {fault : Fault}
variable (hallows : ∀ count, player.allows count = true)

include hallows

/-- A record that ends the stream has a meaning, so it is kept and ends the other replay too. -/
theorem playsKept_of_ends (hends : record.endsStream = true) :
    player.PlaysKept (record :: records) report session := by
  have hknown : record.isUnknown = false := by
    rw [Record.isUnknown, beq_iff_eq.mp hends]
    rfl
  refine ⟨_, session, [], playOn_of_inl (step_of_ends (hallows _) hends),
    (List.append_nil _).symm, List.forall_mem_nil _, fun start => ?_⟩
  rw [keptFrom_cons, hknown]
  exact ⟨_, playOn_of_inl (step_of_ends (hallows _) hends), rfl, by simp; omega⟩

/-- A record that fails is left out of the other replay, and has changed nothing in this one. -/
theorem playsKept_of_error (hpolicy : player.policy = .proceed)
    (hends : record.endsStream = false)
    (hrun : (player.playRecord record).run.run session = (.error fault, session))
    (h : player.PlaysKept records (report.afterFailure record fault) session) :
    player.PlaysKept (record :: records) report session := by
  obtain ⟨report', last, failures, hplay, hfailures, hlater, hkept⟩ := h
  refine ⟨report', last, ⟨report.records, record.opcode, fault⟩ :: failures,
    (playOn_of_inr (step_of_error (hallows _) hends hpolicy hrun)).trans hplay, ?_, ?_,
    fun start => ?_⟩
  · rw [hfailures]
    simp [Report.afterFailure]
  · intro failure hfailure
    rcases List.mem_cons.mp hfailure with rfl | hfailure
    · exact Nat.le_refl _
    · exact Nat.le_of_succ_le (hlater failure hfailure)
  · obtain ⟨finish, hfinish, hsame, hcount⟩ := hkept start
    refine ⟨finish, ?_, hsame, hcount⟩
    rw [keptFrom_cons, if_neg (by simp), keptFrom_of_lt (Nat.lt_succ_self _)]
    exact hfinish

/-- An unknown record is left out as well. It counts as replayed in this replay only. -/
theorem playsKept_of_unknown (hends : record.endsStream = false)
    (hunknown : record.isUnknown = true)
    (h : player.PlaysKept records (report.afterReplay true) session) :
    player.PlaysKept (record :: records) report session := by
  obtain ⟨report', last, failures, hplay, hfailures, hlater, hkept⟩ := h
  have hrun : (player.playRecord record).run.run session = (.ok true, session) :=
    playRecord_of_unknown hunknown
  refine ⟨report', last, failures,
    (playOn_of_inr (step_of_ok (hallows _) hends hrun)).trans hplay, hfailures,
    fun failure hfailure => Nat.le_of_succ_le (hlater failure hfailure), fun start => ?_⟩
  obtain ⟨finish, hfinish, hsame, hcount⟩ := hkept start
  refine ⟨finish, ?_, hsame, ?_⟩
  · rw [keptFrom_cons, if_neg (by simp [hunknown])]
    exact hfinish
  · simp only [Report.afterReplay, if_true] at hcount
    omega

/-- A record that has a meaning and does not fail is kept, and does the same in both replays. -/
theorem playsKept_of_known (hends : record.endsStream = false)
    (hknown : record.isUnknown = false)
    (hrun : (player.playRecord record).run.run session = (.ok false, session'))
    (h : player.PlaysKept records (report.afterReplay false) session') :
    player.PlaysKept (record :: records) report session := by
  obtain ⟨report', last, failures, hplay, hfailures, hlater, hkept⟩ := h
  refine ⟨report', last, failures,
    (playOn_of_inr (step_of_ok (hallows _) hends hrun)).trans hplay, hfailures,
    fun failure hfailure => Nat.le_of_succ_le (hlater failure hfailure), fun start => ?_⟩
  obtain ⟨finish, hfinish, hsame, hcount⟩ := hkept (start.afterReplay false)
  have hstays : (failures.all fun failure => failure.index != report.records) = true := by
    refine List.all_eq_true.mpr fun failure hfailure => bne_iff_ne.mpr ?_
    exact Nat.ne_of_gt (hlater failure hfailure)
  refine ⟨finish, ?_, hsame, ?_⟩
  · rw [keptFrom_cons, if_pos (by simp [hknown, hstays])]
    exact (playOn_of_inr (step_of_ok (hallows _) hends hrun)).trans hfinish
  · simp only [Report.afterReplay, Bool.false_eq_true, if_false] at hcount
    omega

/-- Every replay that passes over failures can do without the failed and unknown records. -/
theorem playsKept (hpolicy : player.policy = .proceed) (records : List Record) (report : Report)
    (session : Session) : player.PlaysKept records report session := by
  induction records generalizing report session with
  | nil =>
    exact ⟨report, session, [], rfl, (List.append_nil _).symm, List.forall_mem_nil _,
      fun start => ⟨start, rfl, rfl, by omega⟩⟩
  | cons record records ih =>
    by_cases hends : record.endsStream = true
    · exact playsKept_of_ends hallows hends
    · rw [Bool.not_eq_true] at hends
      rcases hrun : (player.playRecord record).run.run session with ⟨fault | unknown, session'⟩
      · obtain rfl := eq_of_playRecord_error hrun
        exact playsKept_of_error hallows hpolicy hends hrun (ih _ _)
      · cases hunknown : record.isUnknown with
        | true => exact playsKept_of_unknown hallows hends hunknown (ih _ _)
        | false =>
          rw [unknown_of_playRecord hrun, hunknown] at hrun
          exact playsKept_of_known hallows hends hunknown hrun (ih _ _)

end Kept

/-- Under the policy that passes over failures, a record that fails leaves the session as it was,
draw calls and context alike. So a replay without the failed and the unknown records ends in the
same session, without failures, and replays as many records as had a meaning before. -/
theorem play_kept (scale : Scale) (decoder : BitmapDecoder) (records : List Record)
    (session : Session) :
    let player : Player := ⟨.proceed, none, scale, decoder⟩
    (∀ record session fault last,
      (player.playRecord record).run.run session = (.error fault, last) → last = session) ∧
    ∃ report last, player.play records session = (.ok report, last) ∧
      ∃ report', player.play (report.kept records) session = (.ok report', last) ∧
        report'.failures = #[] ∧ report'.replayed + report.unknown = report.replayed := by
  intro player
  refine ⟨fun record session fault last => eq_of_playRecord_error, ?_⟩
  have hplays : player.PlaysKept records .empty session.sync :=
    playsKept (fun _ => rfl) rfl records .empty session.sync
  obtain ⟨report, last, failures, hplay, hfailures, -, hkept⟩ := hplays
  obtain ⟨report', hplay', hclean, hcount⟩ := hkept .empty
  refine ⟨report, last, hplay, report', ?_, hclean, ?_⟩
  · have hsame : report.failures.toList = failures := hfailures
    rw [Report.kept, hsame]
    exact hplay'
  · simpa [Report.empty] using hcount

end Player

end WindowsMetafile
