import WindowsMetafile.Proofs.Course
import WindowsMetafile.Proofs.Picture

/-!
# What a replay looks at, and what its report counts

A replay looks at the records up to the first one that ends the metafile, and at no more of them
than its limit allows. It does what a replay of just these records does. Its report accounts for
each of them: one that ends the metafile is only counted, and any other one is either replayed or
listed as a failure with its place. Records with a function code without meaning are replayed, and
counted.

## Main definitions

* `Player.looked` — the number of records that a replay looks at
* `Report.Accounts` — what is told about some records is added to what was told before

## Main results

* `Player.playOn_take` — a limit cuts the records
* `Player.accounts_course` — a replay without a limit accounts for the records it looks at
* `Player.play_accounts` — a replay accounts for the records it looks at, and looks at no other
-/

namespace WindowsMetafile

/-! ### Records that are looked at -/

variable {record : Record} {records : List Record}

theorem throughEnd_of_ends (h : record.endsStream = true) (records : List Record) :
    throughEnd (record :: records) = [record] := by
  rw [throughEnd, if_pos h]

theorem throughEnd_of_not_ends (h : ¬ record.endsStream = true) (records : List Record) :
    throughEnd (record :: records) = record :: throughEnd records := by
  rw [throughEnd, if_neg h]

/-- Of the first records, those up to the end are as many as there are of both. -/
theorem throughEnd_take (records : List Record) (count : Nat) :
    throughEnd (records.take count) = records.take (min count (throughEnd records).length) := by
  induction records generalizing count with
  | nil => simp [throughEnd]
  | cons record records ih =>
    cases count with
    | zero => simp [throughEnd]
    | succ count =>
      rw [List.take_succ_cons]
      by_cases hends : record.endsStream = true
      · rw [throughEnd_of_ends hends, throughEnd_of_ends hends]
        simp
      · rw [throughEnd_of_not_ends hends, throughEnd_of_not_ends hends, ih, List.length_cons,
          Nat.succ_min_succ, List.take_succ_cons]

theorem throughEnd_isInitial (records : List Record) : throughEnd records <+: records := by
  induction records with
  | nil => exact List.prefix_rfl
  | cons record records ih =>
    rw [throughEnd, List.prefix_cons_inj]
    split
    · exact List.nil_prefix
    · exact ih

theorem take_length_throughEnd (records : List Record) :
    records.take (throughEnd records).length = throughEnd records :=
  (List.prefix_iff_eq_take.mp (throughEnd_isInitial records)).symm

namespace Player

variable {player : Player} {report : Report} {session : Session}

/-- The number of records that a replay looks at: those up to the first one that ends the metafile,
as far as the limit allows. -/
def looked (player : Player) (records : List Record) : Nat :=
  match player.limit with
  | some limit => min limit (throughEnd records).length
  | none => (throughEnd records).length

theorem looked_le (player : Player) (records : List Record) :
    player.looked records ≤ (throughEnd records).length := by
  unfold looked
  split
  · exact Nat.min_le_right ..
  · exact Nat.le_refl _

/-- The same replay without a limit. -/
def unlimited (player : Player) : Player :=
  { player with limit := none }

/-- Where the limit allows one more record, it makes no difference. -/
theorem step_unlimited (h : player.allows report.records = true) (record : Record)
    (session : Session) :
    player.unlimited.step record report session = player.step record report session := by
  have hunlimited : player.unlimited.allows report.records = true := rfl
  rw [step, step, if_pos h, if_pos hunlimited]
  rfl

/-- A replay that goes on has looked at one more record. -/
theorem records_of_inr {report' : Report} {session' : Session}
    (h : player.step record report session = .inr (report', session')) :
    report'.records = report.records + 1 := by
  unfold step at h
  split at h
  · split at h
    · cases h
    · split at h
      · cases h
        rfl
      · split at h
        · cases h
        · cases h
          rfl
  · cases h

/-- A limit cuts the records: only as many of them are left as it still allows. -/
theorem playOn_take {limit : Nat} (h : player.limit = some limit) (records : List Record)
    (report : Report) (session : Session) :
    player.playOn records report session =
      player.unlimited.playOn (records.take (limit - report.records)) report session := by
  -- The report is general, since its count tells how much of the limit is left.
  induction records generalizing report session with
  | nil => rw [List.take_nil]; rfl
  | cons record records ih =>
    by_cases hallows : report.records < limit
    · have hallowed : player.allows report.records = true := by simpa [allows, h] using hallows
      have hstep := step_unlimited hallowed record session
      obtain ⟨left, hleft⟩ : ∃ left, limit - report.records = left + 1 :=
        ⟨limit - report.records - 1, by omega⟩
      rw [hleft, List.take_succ_cons, playOn_cons, playOn_cons, hstep]
      rcases hresult : player.step record report session with result | ⟨report', session'⟩
      · rfl
      · have hrecords := records_of_inr hresult
        have hrest : left = limit - report'.records := by omega
        dsimp only
        rw [hrest, ih]
    · have hfull : ¬ player.allows report.records = true := by simpa [allows, h] using hallows
      rw [Nat.sub_eq_zero_of_le (Nat.not_lt.mp hallows), List.take_zero,
        playOn_of_inl (step_of_full hfull session)]
      rfl

/-- A replay does what a replay without a limit does with the records that it looks at. -/
theorem play_eq_play_take (player : Player) (records : List Record) (session : Session) :
    player.play records session =
      player.unlimited.play (records.take (player.looked records)) session := by
  unfold play looked
  cases hlimit : player.limit with
  | none =>
    have hsame : player.unlimited = player := by
      rw [unlimited, ← hlimit]
    rw [hsame, take_length_throughEnd, playOn_throughEnd]
  | some limit =>
    dsimp only
    rw [playOn_take hlimit, ← throughEnd_take, playOn_throughEnd]
    rfl

end Player

/-! ### Reports -/

namespace Report

variable {before after : Report} {looked : List Record}

/-- One report tells about some records more than another one does. Each of them was replayed or has
failed, but for one that ends the metafile, which comes last. -/
structure Accounts (before after : Report) (looked : List Record) : Prop where
  records : after.records = before.records + looked.length
  total : after.replayed + after.failures.size +
      (if looked.getLast?.any Record.endsStream then 1 else 0) =
    before.replayed + before.failures.size + looked.length
  unknown : after.unknown = before.unknown + looked.countP Record.isUnknown
  /-- Failures have the places of their records, in their order. -/
  failures : ∃ later, after.failures.toList = before.failures.toList ++ later ∧
    later.Pairwise (·.index < ·.index) ∧
    ∀ failure ∈ later, ∃ place record, failure.index = before.records + place ∧
      looked[place]? = some record ∧ failure.opcode = record.opcode ∧ record.isUnknown = false

theorem Accounts.refl (report : Report) : report.Accounts report [] :=
  ⟨rfl, rfl, rfl, [], (List.append_nil _).symm, .nil, List.forall_mem_nil _⟩

/-- A record that ends the metafile is only counted. It has a meaning. -/
theorem Accounts.ends (hends : record.endsStream = true) (report : Report) :
    report.Accounts { report with records := report.records + 1 } [record] := by
  have hknown : record.isUnknown = false := by
    rw [Record.isUnknown, beq_iff_eq.mp hends]
    rfl
  refine ⟨rfl, ?_, ?_, [], (List.append_nil _).symm, .nil, List.forall_mem_nil _⟩
  · simp [hends]
  · simp [hknown]

theorem any_getLast?_cons (hends : ¬ record.endsStream = true) (looked : List Record) :
    (record :: looked).getLast?.any Record.endsStream = looked.getLast?.any Record.endsStream := by
  cases looked with
  | nil => simpa using hends
  | cons next looked => rw [List.getLast?_cons_cons]

/-- A failure at the place of a later record is at the next place of one record more. -/
theorem exists_place_cons {failure : RecordFailure} {first : Nat} (record : Record)
    (h : ∃ place found, failure.index = first + 1 + place ∧ looked[place]? = some found ∧
      failure.opcode = found.opcode ∧ found.isUnknown = false) :
    ∃ place found, failure.index = first + place ∧ (record :: looked)[place]? = some found ∧
      failure.opcode = found.opcode ∧ found.isUnknown = false := by
  obtain ⟨place, found, hindex, hfound, hknown⟩ := h
  exact ⟨place + 1, found, by omega, hfound, hknown⟩

theorem Accounts.replayed (hends : ¬ record.endsStream = true)
    (h : (before.afterReplay record.isUnknown).Accounts after looked) :
    before.Accounts after (record :: looked) := by
  obtain ⟨hrecords, htotal, hunknown, later, hlater, hsorted, hplaces⟩ := h
  refine ⟨?_, ?_, ?_, later, hlater, hsorted, fun failure hfailure =>
    exists_place_cons record (hplaces failure hfailure)⟩
  · rw [hrecords, List.length_cons]
    simp only [afterReplay]
    omega
  · rw [any_getLast?_cons hends, htotal, List.length_cons]
    simp only [afterReplay]
    omega
  · rw [hunknown, List.countP_cons]
    simp only [afterReplay]
    omega

theorem Accounts.failed {fault : Fault} (hends : ¬ record.endsStream = true)
    (hknown : record.isUnknown = false)
    (h : (before.afterFailure record fault).Accounts after looked) :
    before.Accounts after (record :: looked) := by
  obtain ⟨hrecords, htotal, hunknown, later, hlater, hsorted, hplaces⟩ := h
  refine ⟨?_, ?_, ?_, ⟨before.records, record.opcode, fault⟩ :: later, ?_, ?_, ?_⟩
  · rw [hrecords, List.length_cons]
    simp only [afterFailure]
    omega
  · rw [any_getLast?_cons hends, htotal, List.length_cons]
    simp only [afterFailure, Array.size_push]
    omega
  · rw [hunknown, List.countP_cons_of_neg (by simp [hknown])]
    rfl
  · rw [hlater]
    simp [afterFailure]
  · refine List.pairwise_cons.mpr ⟨fun failure hfailure => ?_, hsorted⟩
    obtain ⟨place, found, hindex, -⟩ := hplaces failure hfailure
    change failure.index = before.records + 1 + place at hindex
    change before.records < failure.index
    omega
  · refine List.forall_mem_cons.mpr ⟨⟨0, record, rfl, rfl, rfl, hknown⟩, fun failure hfailure => ?_⟩
    exact exists_place_cons record (hplaces failure hfailure)

end Report

namespace Player

variable {player : Player} {context : Context} {fault : Fault}

/-- A record that fails has a function code with a meaning. -/
theorem isUnknown_of_next_error (h : player.next record context = .error fault) :
    record.isUnknown = false := by
  by_contra hunknown
  rw [Bool.not_eq_false, Record.isUnknown, Option.isNone_iff_eq_none] at hunknown
  rw [next, Record.decode_of_unknown hunknown] at h
  cases h

/-- A replay without a limit accounts for the records it looks at. -/
theorem accounts_course (hallows : ∀ count, player.allows count = true)
    (hpolicy : player.policy = .proceed) (records : List Record) (report : Report)
    (context : Context) :
    ∃ report', (player.course records report context).outcome = .ok report' ∧
      report.Accounts report' (throughEnd records) := by
  -- The first record adds its share in front of what the course of the others accounts for.
  fun_induction player.course records report context with
  | case1 report context => exact ⟨report, rfl, .refl report⟩
  | case2 record records report context _ hends =>
    rw [throughEnd_of_ends hends]
    exact ⟨_, rfl, .ends hends report⟩
  | case3 record records report context _ hends context' hnext ih =>
    obtain ⟨report', houtcome, haccounts⟩ := ih
    rw [throughEnd_of_not_ends hends]
    exact ⟨report', houtcome, .replayed hends haccounts⟩
  -- Neither the policy nor a limit ends this course.
  | case4 record records report context _ hends fault hnext hstop =>
    rw [hpolicy] at hstop
    cases hstop
  | case5 record records report context _ hends fault hnext _ ih =>
    obtain ⟨report', houtcome, haccounts⟩ := ih
    rw [throughEnd_of_not_ends hends]
    exact ⟨report', houtcome, .failed hends (isUnknown_of_next_error hnext) haccounts⟩
  | case6 record records report context hfull => exact absurd (hallows _) hfull

/-- Under the policy that passes over failures, a replay does what a replay without a limit does
with the records up to the first one that ends the metafile, as far as the limit allows. Its report
accounts for all of them, and for no other. -/
theorem play_accounts (limit : Option Nat) (scale : Scale) (decoder : BitmapDecoder)
    (records : List Record) (session : Session) :
    let player : Player := ⟨.proceed, limit, scale, decoder⟩
    let count := player.looked records
    player.play records session =
      (Player.mk .proceed none scale decoder).play (records.take count) session ∧
    ∃ report, (player.play records session).1 = .ok report ∧
      report.records = count ∧
      report.replayed + report.failures.size +
        (if (records.take count).getLast?.any Record.endsStream then 1 else 0) = count ∧
      report.failures.toList.Pairwise (·.index < ·.index) ∧
      (∀ failure ∈ report.failures.toList, failure.index < count ∧
        ∃ record, records[failure.index]? = some record ∧ failure.opcode = record.opcode ∧
          record.isUnknown = false) ∧
      report.unknown = (records.take count).countP Record.isUnknown := by
  intro player count
  have hplay : player.play records session = player.unlimited.play (records.take count) session :=
    player.play_eq_play_take records session
  have hthrough : throughEnd (records.take count) = records.take count := by
    rw [throughEnd_take, Nat.min_eq_left (player.looked_le records)]
  have hlength : (records.take count).length = count :=
    List.length_take_of_le
      ((player.looked_le records).trans (throughEnd_isInitial records).length_le)
  have hallows (count : Nat) : player.unlimited.allows count = true := rfl
  obtain ⟨report, houtcome, haccounts⟩ :=
    accounts_course hallows rfl (records.take count) .empty session.context
  obtain ⟨canvas, hcourse, -⟩ :=
    player.unlimited.play_eq_course (records.take count) session.context session.canvas
  obtain ⟨hrecords, htotal, hunknown, failures, hfailures, hsorted, hplaces⟩ := hthrough ▸ haccounts
  -- Nothing was told before.
  rw [Report.empty, List.nil_append] at hfailures
  refine ⟨hplay, report, ?_, ?_, ?_, hfailures ▸ hsorted, fun failure hfailure => ?_, ?_⟩
  · rw [hplay, hcourse, houtcome]
  · rw [hrecords, hlength]
    exact Nat.zero_add count
  · rw [htotal, hlength]
    exact Nat.zero_add count
  · obtain ⟨place, record, hindex, hrecord, hopcode, hknown⟩ :=
      hplaces failure (hfailures ▸ hfailure)
    obtain rfl : failure.index = place := hindex.trans (Nat.zero_add place)
    have hbefore := (List.getElem?_eq_some_iff.mp hrecord).1
    rw [hlength] at hbefore
    rw [List.getElem?_take_of_lt hbefore] at hrecord
    exact ⟨hbefore, record, hrecord, hopcode, hknown⟩
  · rw [hunknown]
    exact Nat.zero_add _

end Player

end WindowsMetafile
