import Mathlib.Data.List.Forall2
import WindowsMetafile.Playback.Recording
import WindowsMetafile.Proofs.Run
import WindowsMetafile.Proofs.Stream

/-!
# The picture of a metafile that was written again

When a metafile is written again from its commands, its records change: unused words are cleared,
texts are cut, and a closing record is added if there is none. None of it shows in a replay. Each
record that is read back leads to the same context, and its draw calls are recorded the same way; so
two replays stay alike from record to record.

## Main definitions

* `Action.reread` — what an action is after it was written and read again
* `Record.ReplaysLike` — two records cannot be told apart in a replay
* `Session.Alike` — two sessions show the same

## Main results

* `Record.replaysLike_of_encode` — the record of a command replays like the one it was read from
* `Player.playOn_alike` — replays of such records end alike
* `Player.playOn_closeStream` — a closing record is counted, and does nothing else
* `Metafile.playIn_of_writeCommands` — a metafile that was written again shows the same
-/

namespace WindowsMetafile

/-! ### Actions that are read again -/

namespace Action

variable {decoder : BitmapDecoder} {scale : Scale} {context : Context} {action : Action}

/-- What an action is after it was written and read again: a text has lost the advances behind its
last character. -/
def reread : Action → Action
  | .extendedText content => .extendedText content.trimmed
  | action => action

theorem reread_of_type? {type : RecordType} (h : action.type? = some type)
    (hext : type ≠ .extTextOut) : action.reread = action := by
  cases action with
  | extendedText content =>
    cases h
    exact absurd rfl hext
  | _ => rfl

theorem next_reread (action : Action) :
    action.reread.next decoder scale context = action.next decoder scale context := by
  cases action <;> rfl

/-- Advances are not recorded. -/
theorem recorded_calls_reread (action : Action) :
    (action.reread.calls decoder scale context).map DrawCall.recorded =
      (action.calls decoder scale context).map DrawCall.recorded := by
  cases action with
  | extendedText content =>
    simp only [reread, calls, ExtendedText.calls, List.map_append, List.map_map]
    congr 1
    unfold ExtendedText.characters ExtendedText.trimmed
    by_cases htext : content.text = ""
    · rw [if_pos htext, if_pos htext]
      rfl
    · rw [if_neg htext, if_neg htext]
      rfl
  | _ => rfl

end Action

open Reader in
/-- What could be written is read again, up to advances without a character. -/
theorem RecordType.run_of_encode {type : RecordType} {record again : Record} {action : Action}
    (hread : type.reader.run record = .ok action) (hencode : action.encode = .ok again) :
    again.opcode = type.opcode ∧ type.reader.run again = .ok action.reread := by
  by_cases hext : type = .extTextOut
  · subst hext
    obtain ⟨content, mid, hcontent, rfl⟩ := of_run_bind_pure hread
    obtain ⟨htext, hadvances, fields, hfields⟩ :=
      fields_of_extendedText hcontent RecordType.extTextOut.opcode
    obtain ⟨last, hagain⟩ :=
      extendedText_written htext hadvances hfields RecordType.extTextOut.opcode
    change (content.fields RecordType.extTextOut.opcode).map _ = _ at hencode
    rw [hfields] at hencode
    cases hencode
    refine ⟨rfl, run_eq_ok.mpr ⟨last, ?_⟩⟩
    exact bind_of_ok hagain
  -- Every other action is read again as it was, since what holds a bitmap cannot be written.
  · have hreencodes := RecordType.reencodes hext
    by_cases hholds : type.holdsBitmap record.params.length
    · rw [hreencodes.refused hread hholds] at hencode
      cases hencode
    · obtain ⟨again', hencode', hopcode, hagain, -⟩ := hreencodes.written hread hholds
      obtain rfl := Except.ok.inj (hencode'.symm.trans hencode)
      rw [Action.reread_of_type? (hreencodes.type? hread) hext]
      exact ⟨hopcode, hagain⟩

/-! ### Records that replay alike -/

/-- A successful traversal relates each element to its result. -/
theorem forall₂_of_mapM {α β ε : Type} {f : α → Except ε β} {xs : List α} {ys : List β}
    (h : xs.mapM f = .ok ys) : List.Forall₂ (fun x y => f x = .ok y) xs ys := by
  induction xs generalizing ys with
  | nil =>
    cases h
    exact .nil
  | cons x xs ih =>
    rw [List.mapM_cons] at h
    cases hx : f x with
    | error fault =>
      rw [hx] at h
      cases h
    | ok y =>
      cases hxs : xs.mapM f with
      | error fault =>
        rw [hx, hxs] at h
        cases h
      | ok ys =>
        rw [hx, hxs] at h
        cases h
        exact .cons hx (ih hxs)

namespace Record

variable {record again : Record} {command : Command}

/-- A command that could be written is read again, up to advances without a character. -/
theorem decode_of_encode (h : record.decode = .ok command) (hencode : command.encode = .ok again) :
    again.opcode = record.opcode ∧ again.decode = .ok (.ofAction command.action.reread) := by
  cases htype : RecordType.ofOpcode? record.opcode with
  | none =>
    -- The command is unknown, and has no written form.
    rw [decode_of_unknown htype] at h
    cases h
    cases hencode
  | some type =>
    obtain ⟨action, hread, rfl⟩ := (decode_eq_ok htype).mp h
    have hopcode := RecordType.ofOpcode?_eq_some_iff.mp htype
    obtain ⟨hagain, hread'⟩ := RecordType.run_of_encode hread hencode
    have htype' : RecordType.ofOpcode? again.opcode = some type := by
      rw [hagain, RecordType.ofOpcode?_opcode]
    exact ⟨hagain.trans hopcode, (decode_eq_ok htype').mpr ⟨_, hread', rfl⟩⟩

/-- A record that cannot be told from another one in a replay. -/
structure ReplaysLike (record again : Record) : Prop where
  opcode : again.opcode = record.opcode
  next (player : Player) (context : Context) :
    player.next again context = player.next record context
  calls (player : Player) (context : Context) :
    (player.calls again context).map DrawCall.recorded =
      (player.calls record context).map DrawCall.recorded

theorem ReplaysLike.endsStream (h : record.ReplaysLike again) :
    again.endsStream = record.endsStream := by
  rw [Record.endsStream, Record.endsStream, h.opcode]

theorem ReplaysLike.isUnknown (h : record.ReplaysLike again) :
    again.isUnknown = record.isUnknown := by
  rw [Record.isUnknown, Record.isUnknown, h.opcode]

/-- The record of a command replays like the one that the command was read from. -/
theorem replaysLike_of_encode (h : record.decode = .ok command)
    (hencode : command.encode = .ok again) : record.ReplaysLike again := by
  obtain ⟨hopcode, hagain⟩ := decode_of_encode h hencode
  refine ⟨hopcode, fun player context => ?_, fun player context => ?_⟩
  · unfold Player.next
    rw [h, hagain]
    exact Action.next_reread command.action
  · unfold Player.calls
    rw [h, hagain]
    exact Action.recorded_calls_reread command.action

/-- The records of commands replay like those that the commands were read from. -/
theorem forall₂_replaysLike {records copies : List Record} {commands : List Command}
    (h : records.mapM decode = .ok commands) (hencode : commands.mapM Command.encode = .ok copies) :
    List.Forall₂ ReplaysLike records copies := by
  have hcommands := forall₂_of_mapM h
  have hcopies := forall₂_of_mapM hencode
  clear h hencode
  induction hcommands generalizing copies with
  | nil =>
    cases hcopies
    exact .nil
  | cons hcommand _ ih =>
    cases hcopies with
    | cons hagain hcopies => exact .cons (replaysLike_of_encode hcommand hagain) (ih hcopies)

end Record

/-! ### Replays that stay alike -/

/-- A session that shows the same as another one: its context is equal, and its draw calls are
recorded the same way. -/
structure Session.Alike (session other : Session) : Prop where
  context : other.context = session.context
  recording : other.canvas.recording = session.canvas.recording

namespace Player

variable {player : Player} {record again : Record} {records copies : List Record}
variable {report : Report} {session other : Session}

/-- Records that cannot be told apart keep sessions alike. -/
theorem playRecord_alike (player : Player) (h : record.ReplaysLike again)
    (hsession : session.Alike other) :
    ((player.playRecord again).run.run other).1 = ((player.playRecord record).run.run session).1 ∧
      ((player.playRecord record).run.run session).2.Alike
        ((player.playRecord again).run.run other).2 := by
  have hnext' : player.next again other.context = player.next record session.context := by
    rw [h.next, hsession.context]
  cases hnext : player.next record session.context with
  | error fault =>
    rw [hnext] at hnext'
    rw [playRecord_of_error hnext session.canvas, playRecord_of_error hnext' other.canvas]
    exact ⟨rfl, hsession⟩
  | ok context =>
    rw [hnext] at hnext'
    obtain ⟨canvas, hrun, hcalls⟩ := playRecord_of_ok hnext session.canvas
    obtain ⟨canvas', hrun', hcalls'⟩ := playRecord_of_ok hnext' other.canvas
    rw [hrun, hrun', h.isUnknown]
    -- Both runs add their calls to a recording of their own, and the calls are recorded alike.
    refine ⟨rfl, rfl, ?_⟩
    have hrecording := hsession.recording
    unfold Canvas.recording at hrecording ⊢
    rw [hcalls, hcalls', List.map_append, List.map_append, hrecording, h.calls, hsession.context]

/-- Records that cannot be told apart do the same to replays that are alike. -/
theorem step_alike (player : Player) (h : record.ReplaysLike again) (hsession : session.Alike other)
    (report : Report) :
    (∃ outcome last last', player.step record report session = .inl (outcome, last) ∧
        player.step again report other = .inl (outcome, last') ∧ last.Alike last') ∨
      ∃ report' next next', player.step record report session = .inr (report', next) ∧
        player.step again report other = .inr (report', next') ∧ next.Alike next' := by
  have hplay := playRecord_alike player h hsession
  unfold step
  rw [h.endsStream]
  by_cases hallows : player.allows report.records = true
  · rw [if_pos hallows, if_pos hallows]
    by_cases hends : record.endsStream = true
    · rw [if_pos hends, if_pos hends]
      exact .inl ⟨_, _, _, rfl, rfl, hsession⟩
    · rw [if_neg hends, if_neg hends]
      -- Outcome and session of either run are all that the next step depends on.
      generalize (player.playRecord record).run.run session = result at hplay
      generalize (player.playRecord again).run.run other = result' at hplay
      obtain ⟨outcome, next⟩ := result
      obtain ⟨outcome', next'⟩ := result'
      obtain ⟨rfl, hnext⟩ : outcome' = outcome ∧ next.Alike next' := hplay
      cases outcome' with
      | ok unknown => exact .inr ⟨_, _, _, rfl, rfl, hnext⟩
      | error fault =>
        cases player.policy with
        | stop => exact .inl ⟨_, _, _, rfl, rfl, hnext⟩
        | proceed =>
          refine .inr ⟨_, _, _, rfl, ?_, hnext⟩
          dsimp only
          rw [Report.afterFailure, Report.afterFailure, h.opcode]
  · rw [if_neg hallows, if_neg hallows]
    exact .inl ⟨_, _, _, rfl, rfl, hsession⟩

/-- Replays of records that cannot be told apart end alike. -/
theorem playOn_alike (player : Player) (h : List.Forall₂ Record.ReplaysLike records copies)
    (hsession : session.Alike other) (report : Report) :
    (player.playOn copies report other).1 = (player.playOn records report session).1 ∧
      (player.playOn records report session).2.Alike (player.playOn copies report other).2 := by
  induction h generalizing session other report with
  | nil => exact ⟨rfl, hsession⟩
  | cons hrecord _ ih =>
    rcases step_alike player hrecord hsession report with
      ⟨outcome, last, last', hstep, hstep', hlast⟩ | ⟨report', next, next', hstep, hstep', hnext⟩
    · rw [playOn_of_inl hstep, playOn_of_inl hstep']
      exact ⟨rfl, hlast⟩
    · rw [playOn_of_inr hstep, playOn_of_inr hstep']
      exact ih hnext report'

/-! ### The closing record -/

theorem ends_of_step {result : Except Fault Report × Session}
    (h : player.step record report session = .inl result) :
    result = (.ok report, session) ∧ player.allows report.records = false ∨
      record.endsStream = true ∨ ∃ fault last, result = (.error fault, last) := by
  unfold step at h
  split at h
  · split at h
    · rename_i hends
      exact .inr (.inl hends)
    · split at h
      · cases h
      · split at h
        · cases h
          exact .inr (.inr ⟨_, _, rfl⟩)
        · cases h
  · rename_i hallows
    cases h
    exact .inl ⟨rfl, by simpa using hallows⟩

theorem endsStream_of_step {report' : Report}
    (h : player.step record report session = .inr (report', other)) :
    record.endsStream = false := by
  unfold step at h
  split at h
  · split at h
    · cases h
    · rename_i hends
      simpa using hends
  · cases h

/-- Records behind one that ends the metafile are not looked at. -/
theorem playOn_throughEnd (records : List Record) (report : Report) (session : Session) :
    player.playOn (throughEnd records) report session = player.playOn records report session := by
  induction records generalizing report session with
  | nil => rfl
  | cons record records ih =>
    rw [throughEnd]
    rcases hstep : player.step record report session with result | ⟨report', session'⟩
    · rw [playOn_of_inl hstep, playOn_of_inl hstep]
    · rw [playOn_of_inr hstep, playOn_of_inr hstep, if_neg (by simp [endsStream_of_step hstep]),
        ih]

/-- The report of a replay whose records were closed: the closing record counts, unless they were
closed before or the limit is reached. -/
def countClosing (player : Player) (records : List Record) (report : Report) : Report :=
  if records.any Record.endsStream || !player.allows report.records then report
  else { report with records := report.records + 1 }

theorem countClosing_of_any (h : records.any Record.endsStream = true) :
    player.countClosing records = id := by
  funext report
  rw [countClosing, h]
  rfl

theorem countClosing_cons (h : record.endsStream = false) :
    player.countClosing (record :: records) = player.countClosing records := by
  funext report
  rw [countClosing, List.any_cons, h, Bool.false_or]
  rfl

theorem playOn_append {closing : Record} (hclosing : closing.endsStream = true)
    (records : List Record) (report : Report) (session : Session) :
    let result := player.playOn records report session
    player.playOn (records ++ [closing]) report session =
      (result.1.map (player.countClosing records), result.2) := by
  intro result
  induction records generalizing report session with
  | nil =>
    by_cases hallows : player.allows report.records = true
    · rw [List.nil_append, playOn_of_inl (step_of_ends hallows hclosing)]
      simp [result, playOn, countClosing, hallows, Except.map]
    · rw [List.nil_append, playOn, if_neg hallows]
      simp [result, playOn, countClosing, hallows, Except.map]
  | cons record records ih =>
    rw [List.cons_append]
    rcases hstep : player.step record report session with last | ⟨report', session'⟩
    · simp only [result, playOn_of_inl hstep]
      rcases ends_of_step hstep with ⟨rfl, hallows⟩ | hends | ⟨fault, last', rfl⟩
      · simp [countClosing, hallows, Except.map]
      -- Where a record ends the metafile, a closing record behind it is out of reach.
      · rw [countClosing_of_any (by simp [hends])]
        rcases last with ⟨fault | report', last⟩ <;> rfl
      · rfl
    · simp only [result, playOn_of_inr hstep]
      rw [ih, countClosing_cons (endsStream_of_step hstep)]

/-- A record that closes a metafile is counted, and does nothing else. -/
theorem playOn_closeStream (records : List Record) (report : Report) (session : Session) :
    let result := player.playOn records report session
    player.playOn (closeStream records) report session =
      (result.1.map (player.countClosing records), result.2) := by
  intro result
  unfold closeStream
  split
  · rename_i last hlast
    split
    · rename_i hends
      have hany : records.any Record.endsStream = true :=
        List.any_eq_true.mpr ⟨last, List.mem_of_getLast? hlast, hends⟩
      rw [countClosing_of_any hany]
      rcases hresult : result with ⟨fault | report', session'⟩ <;> exact hresult
    · exact playOn_append rfl records report session
  · rename_i hnone
    rw [List.getLast?_eq_none_iff] at hnone
    subst hnone
    exact playOn_append rfl [] report session

theorem countClosing_of_replaysLike (h : List.Forall₂ Record.ReplaysLike records copies) :
    player.countClosing copies = player.countClosing records := by
  have hany : copies.any Record.endsStream = records.any Record.endsStream := by
    induction h with
    | nil => rfl
    | cons hrecord _ ih => rw [List.any_cons, List.any_cons, hrecord.endsStream, ih]
  funext report
  rw [countClosing, countClosing, hany]

end Player

namespace Metafile

/-- A metafile that was written again from its commands can be read, and shows the same in every
replay: the outcome, the failures and the numbers of replayed and unknown records are the same, the
draw calls are recorded the same way, and the last context is the same. Only the record that closes
the metafile may be looked at in addition. -/
theorem playIn_of_writeCommands {metafile : Metafile} {commands : List Command} {bytes : Bytes}
    (hdecode : metafile.records.mapM Record.decode = .ok commands)
    (hwrite : writeCommands metafile.placeable commands = .ok bytes) :
    ∃ copy, ofBytes bytes = .ok copy ∧ ∀ player : Player,
      let before := player.playIn .fresh metafile.records
      let after := player.playIn .fresh copy.records
      after.1 = before.1.map (player.countClosing metafile.records) ∧
        after.2.context = before.2.context ∧
        after.2.canvas.recording = before.2.canvas.recording := by
  unfold writeCommands at hwrite
  cases hencode : commands.mapM Command.encode with
  | error fault =>
    rw [hencode] at hwrite
    cases hwrite
  | ok copies =>
    rw [hencode] at hwrite
    change write metafile.placeable copies = _ at hwrite
    have hfits : fileSize (closeStream copies) < 4294967296 := by
      by_contra hlong
      cases (if_pos (Nat.not_lt.mp hlong)).symm.trans hwrite
    obtain ⟨bytes', hwrite', -, hread⟩ := ofBytes_of_fits metafile.placeable hfits
    obtain rfl := Except.ok.inj (hwrite'.symm.trans hwrite)
    -- The copy has the written records, closed, up to the first one that ends the metafile.
    have hcopies := Record.forall₂_replaysLike hdecode hencode
    refine ⟨_, hread, fun player => ?_⟩
    have hstart : (Session.mk .fresh .fresh).sync.Alike (Session.mk .fresh .fresh).sync :=
      ⟨rfl, rfl⟩
    obtain ⟨houtcome, hlast⟩ := Player.playOn_alike player hcopies hstart .empty
    simp only [Player.playIn, Player.play]
    rw [Player.playOn_throughEnd, Player.playOn_closeStream, houtcome,
      Player.countClosing_of_replaysLike hcopies]
    exact ⟨rfl, hlast.context, hlast.recording⟩

/-- A transfer with a set unused word is written without it, and a closing record follows it. -/
theorem playIn_of_writeCommands_bare_blit :
    let record : Record := ⟨0x0940, [0x0020, 0x00CC, 1, 2, 7, 30, 40, 5, 6]⟩
    let command := Command.ofAction (.dibBitBlit 0x00CC0020 ⟨2, 1⟩ ⟨6, 5, 40, 30⟩ none)
    let metafile : Metafile := ⟨none, .ofRecords [record], [record]⟩
    metafile.records.mapM Record.decode = .ok [command] ∧
      ∃ bytes, writeCommands metafile.placeable [command] = .ok bytes ∧
        ∃ copy, ofBytes bytes = .ok copy ∧ ∀ player : Player,
          let before := player.playIn .fresh metafile.records
          let after := player.playIn .fresh copy.records
          after.1 = before.1.map (player.countClosing metafile.records) ∧
            after.2.context = before.2.context ∧
            after.2.canvas.recording = before.2.canvas.recording := by
  intro record command metafile
  have hdecode : metafile.records.mapM Record.decode = .ok [command] := rfl
  obtain ⟨bytes, hwrite⟩ : ∃ bytes, writeCommands metafile.placeable [command] = .ok bytes :=
    ⟨_, rfl⟩
  exact ⟨hdecode, bytes, hwrite, playIn_of_writeCommands hdecode hwrite⟩

end Metafile

end WindowsMetafile
