import WindowsMetafile.Proofs.Course

/-!
# Replays that reach every record

A replay whose limit is high enough reaches every record, as long as none of them ends the metafile
and no failure stops it. The actions in the records that can be read then follow each other, and
each acts on the context that the one before it has left; a record that cannot be read has no part
in it.

## Main definitions

* `Record.action?` — the action in a record, if it can be read
* `Record.HasType` — a record has one of some types
* `Action.after` — the context after an action
* `Player.ReachesAll` — a replay reaches every record

## Main results

* `Player.finish_eq_foldl` — such a replay ends in the context after all of the actions
* `Player.ReachesAll.of_infallible` — actions that cannot fail do not stop a replay
-/

namespace WindowsMetafile

/-- The action in a record, if it can be read. -/
def Record.action? (record : Record) : Option Action :=
  record.decode.toOption.map Command.action

/-- A record has one of some types. -/
def Record.HasType (types : List RecordType) (record : Record) : Prop :=
  ∃ type ∈ types, RecordType.ofOpcode? record.opcode = some type

/-- The context after an action; one that fails leaves it as it was. -/
def Action.after (decoder : BitmapDecoder) (scale : Scale) (context : Context) (action : Action) :
    Context :=
  match action.next decoder scale context with
  | .ok context' => context'
  | .error _ => context

namespace Record

variable {record : Record} {types : List RecordType} {action : Action}

theorem action?_eq_some_iff :
    record.action? = some action ↔ ∃ command, record.decode = .ok command ∧
      command.action = action := by
  unfold action?
  cases record.decode <;> simp [Except.toOption]

/-- What a record of one of some types asks for is of one of these types. -/
theorem HasType.type?_of_action? (h : record.HasType types) (haction : record.action? = some action) :
    ∃ type ∈ types, action.type? = some type := by
  obtain ⟨type, hmem, htype⟩ := h
  obtain ⟨command, hdecode, rfl⟩ := action?_eq_some_iff.mp haction
  exact ⟨type, hmem, (type?_of_decode hdecode).trans htype⟩

/-- The actions in records of some types are of these types. -/
theorem type?_of_mem_actions {records : List Record}
    (htypes : ∀ record ∈ records, record.HasType types)
    (h : action ∈ records.filterMap Record.action?) : ∃ type ∈ types, action.type? = some type := by
  obtain ⟨record, hrecord, hread⟩ := List.mem_filterMap.mp h
  exact (htypes record hrecord).type?_of_action? hread

/-- Only a record of the last type ends a metafile. -/
theorem HasType.endsStream_eq_false (h : record.HasType types) (heof : .eof ∉ types) :
    record.endsStream = false := by
  obtain ⟨type, hmem, htype⟩ := h
  rw [endsStream, ← RecordType.ofOpcode?_eq_some_iff.mp htype]
  cases type with
  | eof => exact absurd hmem heof
  | _ => rfl

end Record

namespace Player

variable {player : Player} {record : Record} {records : List Record} {context : Context}

/-- A record does what the action in it does, if it can be read. -/
theorem after_eq (player : Player) (context : Context) (record : Record) :
    player.after context record =
      match record.action? with
      | some action => action.after player.decoder player.scale context
      | none => context := by
  unfold after next Record.action?
  cases record.decode <;> rfl

/-- No record is out of the reach of a replay: the limit is high enough, no record ends the
metafile, and failures are passed over unless there are none. -/
structure ReachesAll (player : Player) (records : List Record) : Prop where
  within : ∀ limit ∈ player.limit, records.length ≤ limit
  goesOn : ∀ record ∈ records, record.endsStream = false
  passes : player.policy = .proceed ∨
    ∀ record ∈ records, ∀ context, ∃ context', player.next record context = .ok context'

theorem ReachesAll.tail (h : player.ReachesAll (record :: records)) :
    player.ReachesAll records where
  within limit hlimit := Nat.le_of_succ_le (h.within limit hlimit)
  goesOn later hlater := h.goesOn later (List.mem_cons_of_mem _ hlater)
  passes := h.passes.imp_right fun hnext later hlater => hnext later (List.mem_cons_of_mem _ hlater)

theorem ReachesAll.of_prefix {done : List Record} (h : player.ReachesAll records)
    (hdone : done <+: records) : player.ReachesAll done where
  within limit hlimit := Nat.le_trans hdone.length_le (h.within limit hlimit)
  goesOn record hrecord := h.goesOn record (hdone.subset hrecord)
  passes := h.passes.imp_right fun hnext record hrecord => hnext record (hdone.subset hrecord)

/-- A course that reaches every record leads to the context after all of them. -/
theorem ReachesAll.last_course (h : player.ReachesAll records) {report : Report}
    (hwithin : ∀ limit ∈ player.limit, report.records + records.length ≤ limit)
    (context : Context) :
    (player.course records report context).last = records.foldl player.after context := by
  induction records generalizing report context with
  | nil => rfl
  | cons record records ih =>
    have hallows : player.allows report.records = true := by
      rw [allows]
      cases hlimit : player.limit with
      | none => rfl
      | some limit =>
        have := hwithin limit hlimit
        rw [List.length_cons] at this
        exact decide_eq_true (by omega)
    have hlater : ∀ limit ∈ player.limit, report.records + 1 + records.length ≤ limit := by
      intro limit hlimit
      have := hwithin limit hlimit
      rw [List.length_cons] at this
      omega
    have hends : ¬ record.endsStream = true := by
      rw [h.goesOn record List.mem_cons_self]
      exact Bool.false_ne_true
    rw [List.foldl_cons]
    cases hnext : player.next record context with
    | ok context' =>
      rw [course_of_ok hallows hends hnext, last_preceded, ih h.tail hlater, after, hnext]
    | error fault =>
      -- A record can only fail where failures are passed over.
      have hpolicy : player.policy = .proceed := by
        refine h.passes.resolve_right fun hall => ?_
        obtain ⟨context', hok⟩ := hall record List.mem_cons_self context
        cases hnext.symm.trans hok
      rw [course_of_proceed hallows hends hnext hpolicy, ih h.tail hlater, after, hnext]

/-- A replay that reaches every record ends in the context after all actions that can be read. -/
theorem finish_eq_foldl (h : player.ReachesAll records) (context : Context) :
    player.finish context records =
      (records.filterMap Record.action?).foldl (Action.after player.decoder player.scale)
        context := by
  have hwithin : ∀ limit ∈ player.limit, Report.empty.records + records.length ≤ limit := by
    intro limit hlimit
    rw [Report.empty, Nat.zero_add]
    exact h.within limit hlimit
  rw [finish_eq_last, h.last_course hwithin, List.foldl_filterMap]
  congr 1
  funext context record
  rw [after_eq]
  cases record.action? <;> rfl

/-- Where the records have types whose actions cannot fail, only a record that cannot be read could
stop a replay. -/
theorem ReachesAll.of_infallible {types : List RecordType}
    (hlimit : ∀ limit ∈ player.limit, records.length ≤ limit)
    (htypes : ∀ record ∈ records, record.HasType types)
    (hfaults : player.policy = .proceed ∨ ∀ record ∈ records, record.action?.isSome)
    (heof : .eof ∉ types)
    (hnext : ∀ (action : Action) context, (∃ type ∈ types, action.type? = some type) →
      ∃ context', action.next player.decoder player.scale context = .ok context') :
    player.ReachesAll records where
  within := hlimit
  goesOn record hrecord := (htypes record hrecord).endsStream_eq_false heof
  passes := by
    refine hfaults.imp_right fun hreadable record hrecord context => ?_
    obtain ⟨action, haction⟩ := Option.isSome_iff_exists.mp (hreadable record hrecord)
    obtain ⟨command, hdecode, rfl⟩ := Record.action?_eq_some_iff.mp haction
    rw [next, hdecode]
    exact hnext command.action context ((htypes record hrecord).type?_of_action? haction)

end Player

end WindowsMetafile
