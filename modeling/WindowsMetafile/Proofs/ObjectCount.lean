import WindowsMetafile.Metafile.Basic
import WindowsMetafile.Proofs.ObjectTable
import WindowsMetafile.Proofs.Picture

/-!
# The declared number of objects

A metafile declares how many objects it holds at one time. The number is found from function codes
alone: every record that creates an object counts one up, and every record that deletes one counts
one down, whether there is an object at its handle or not. A replay exceeds the declared number by
at most the number of deletions that find nothing.

## Main definitions

* `Player.idleDeletes` — the number of deletions that find nothing

## Main results

* `Player.live_after_le` — a record creates at most one object, if it is of a type that creates one
* `Player.length_objects_finish_le` — a replay has room for the declared number and the idle
  deletions
* `Player.length_objects_finish_gt` — after an idle deletion, a replay holds more than is declared
-/

namespace WindowsMetafile

namespace Context

variable {context : Context}

theorem live_delete_le (context : Context) (handle : UInt16) :
    (context.delete handle).2.live ≤ context.live := by
  unfold live
  rw [objects_delete]
  by_cases hwithin : handle.toNat < context.objects.length
  · rw [List.countP_set hwithin]
    simp
  · rw [List.set_eq_of_length_le (Nat.not_lt.mp hwithin)]

/-- An edited palette replaces a palette, so the number of objects stays the same. -/
theorem live_editPalette (context : Context) (edit : Palette → Palette) :
    (context.editPalette edit).2.live = context.live := by
  unfold live
  rcases context.objects_editPalette_cases edit with hsame | ⟨handle, old, _, -, hold, -, hedited⟩
  · rw [hsame]
  · obtain ⟨hwithin, hslot⟩ := List.getElem?_eq_some_iff.mp hold
    have hpos : 0 < context.objects.countP Option.isSome :=
      List.countP_pos_iff.mpr ⟨_, List.mem_of_getElem? hold, rfl⟩
    rw [hedited, List.countP_set hwithin, hslot]
    simp only [Option.isSome_some, if_true]
    omega

/-- Only a creation adds an object, and it adds one. -/
theorem live_after_cases (context : Context) (operation : Operation) :
    (context.after operation).live ≤ context.live ∨
      (context.after operation).live = context.live + 1 ∧ ∃ object, operation = .create object := by
  cases operation with
  | create object =>
    rcases context.after_create_cases object with ⟨handle, hcreated⟩ | ⟨-, hsame⟩
    · exact .inr ⟨hcreated.live_eq, object, rfl⟩
    · exact .inl (by rw [hsame])
  | restore id => exact .inl (by rw [live, objects_after_restore]; exact Nat.le_refl _)
  | delete handle => exact .inl (context.live_delete_le handle)
  | editPalette edit => exact .inl (context.live_editPalette edit).le
  | save | select | change => exact .inl (by simp [live])

end Context

/-- Only records of a type that creates objects have actions that create one. -/
theorem Action.createsObject_of_object? {decoder : BitmapDecoder} {action : Action}
    {object : GraphicsObject} (h : action.object? decoder = some object) :
    ∃ type, action.type? = some type ∧ type.createsObject = true := by
  cases action <;> first | exact ⟨_, rfl, rfl⟩ | cases h

namespace Player

variable {player : Player} {record : Record} {context : Context}

/-- The number of records, up to the one that ends the metafile, that are to delete an object and
leave as many objects as there were. -/
def idleDeletes (player : Player) : List Record → Context → Nat
  | [], _ => 0
  | record :: records, context =>
    if record.endsStream then 0
    else
      let context' := player.after context record
      (if record.opcode = RecordType.deleteObject.opcode ∧ context'.live = context.live then 1
        else 0) + player.idleDeletes records context'

/-- A record creates at most one object, and only if its type is one that creates objects. -/
theorem live_after_le (player : Player) (record : Record) (context : Context) :
    (player.after context record).live ≤ context.live +
      if (RecordType.ofOpcode? record.opcode).any RecordType.createsObject then 1 else 0 := by
  rcases player.after_cases record context with hsame | ⟨command, operation, hdecode, hacts, hafter⟩
  · rw [hsame]
    exact Nat.le_add_right _ _
  · rw [hafter]
    rcases context.live_after_cases operation with hle | ⟨hmore, object, rfl⟩
    · exact Nat.le_trans hle (Nat.le_add_right _ _)
    · obtain ⟨type, htype, hcreates⟩ := Action.createsObject_of_object? hacts.object?_eq
      rw [← Record.type?_of_decode hdecode, htype, hmore]
      simp [hcreates]

theorem length_objects_after (player : Player) (record : Record) (context : Context) :
    (player.after context record).objects.length =
      max context.objects.length (player.after context record).live := by
  obtain ⟨operation, hafter⟩ := player.exists_after_eq record context
  rw [hafter]
  exact context.length_objects_after operation

/-- One more record counts for at least as much as it adds, up to an idle deletion. -/
theorem length_objects_after_le_count (player : Player) (record : Record) {counts : Nat × Nat}
    {idle : Nat} (hlive : context.live ≤ counts.1 + idle)
    (hlength : context.objects.length ≤ counts.2 + idle) :
    let context' := player.after context record
    let idle' := idle + if record.opcode = RecordType.deleteObject.opcode ∧
      context'.live = context.live then 1 else 0
    context'.live ≤ (countObjects counts record).1 + idle' ∧
      context'.objects.length ≤ (countObjects counts record).2 + idle' := by
  intro context' idle'
  have hcount : context'.live ≤ _ := player.live_after_le record context
  have hgrows : context'.objects.length = max context.objects.length context'.live :=
    player.length_objects_after record context
  have hwithin := context.live_le_length
  have hidle : idle ≤ idle' := Nat.le_add_right _ _
  have hdeletes : record.opcode = RecordType.deleteObject.opcode → context'.live = context.live →
      idle' = idle + 1 := fun hopcode hsame => congrArg (idle + ·) (if_pos ⟨hopcode, hsame⟩)
  -- How the record was replayed does not matter from here on: these facts are all it takes.
  clear_value idle' context'
  unfold countObjects
  cases htype : RecordType.ofOpcode? record.opcode with
  | none =>
    simp only [htype, Option.any_none, Bool.false_eq_true, if_false] at hcount ⊢
    omega
  | some type =>
    by_cases hcreates : type.createsObject = true
    · simp only [htype, Option.any_some, hcreates, if_true] at hcount ⊢
      omega
    · simp only [htype, Option.any_some, hcreates, Bool.false_eq_true, if_false] at hcount ⊢
      by_cases hdelete : type = .deleteObject
      · have hopcode : record.opcode = RecordType.deleteObject.opcode :=
          (RecordType.ofOpcode?_eq_some_iff.mp (hdelete ▸ htype)).symm
        simp only [hdelete, if_true]
        -- A deletion that finds an object takes one off both numbers; any other one is idle.
        by_cases hsame : context'.live = context.live
        · have hone := hdeletes hopcode hsame
          omega
        · omega
      · simp only [hdelete, if_false]
        omega

theorem le_foldl_countObjects (records : List Record) (counts : Nat × Nat) :
    counts.2 ≤ (records.foldl countObjects counts).2 := by
  induction records generalizing counts with
  | nil => exact Nat.le_refl _
  | cons record records ih =>
    refine Nat.le_trans ?_ (ih _)
    unfold countObjects
    split
    · split
      · exact Nat.le_max_left _ _
      · split <;> exact Nat.le_refl _
    · exact Nat.le_refl _

/-- A replay that goes on has room for the objects counted so far and those still to come. -/
theorem length_objects_playOn_le (player : Player) (records : List Record) (report : Report)
    (session : Session) (counts : Nat × Nat) (idle : Nat)
    (hlive : session.context.live ≤ counts.1 + idle)
    (hlength : session.context.objects.length ≤ counts.2 + idle) :
    (player.playOn records report session).2.context.objects.length ≤
      (records.foldl countObjects counts).2 +
        (idle + player.idleDeletes records session.context) := by
  -- The counts and the idle deletions are those of the records already replayed. Where the replay
  -- ends early, the records out of reach only raise the declared number.
  induction records generalizing report session counts idle with
  | nil => exact hlength
  | cons record records ih =>
    rcases hstep : player.step record report session with result | ⟨report', session'⟩
    · rw [playOn_of_inl hstep, context_of_inl hstep]
      have hpeak := le_foldl_countObjects (record :: records) counts
      omega
    · rw [playOn_of_inr hstep]
      obtain ⟨hlive', hlength'⟩ :=
        player.length_objects_after_le_count record hlive hlength
      rw [← context_of_inr hstep] at hlive' hlength'
      refine Nat.le_trans (ih report' session' _ _ hlive' hlength') (Nat.le_of_eq ?_)
      rw [List.foldl_cons, idleDeletes, endsStream_of_step hstep, ← context_of_inr hstep]
      simp only [Bool.false_eq_true, if_false]
      omega

/-- The table at the end of a replay has at least the places it had before. -/
theorem length_objects_finish_mono {done records : List Record} (context : Context)
    (h : done <+: records) :
    (player.finish context done).objects.length ≤
      (player.finish context records).objects.length := by
  obtain ⟨rest, rfl⟩ := h
  induction rest using List.reverseRecOn with
  | nil => rw [List.append_nil]
  | append_singleton rest record ih =>
    rw [← List.append_assoc]
    refine Nat.le_trans ih ?_
    rcases player.finish_concat context (done ++ rest) record with hsame | hafter
    · rw [hsame]
    · rw [hafter, length_objects_after]
      exact Nat.le_max_left _ _

theorem toNat_peakObjectCount {records : List Record} (h : peakObjectCount records < 65535) :
    (peakObjectCount records).toNat = (records.foldl countObjects (0, 0)).2 := by
  have hcut : min (records.foldl countObjects (0, 0)).2 65535 < 2 ^ 16 := by omega
  have hword : (peakObjectCount records).toNat = _ := UInt16.toNat_ofNat_of_lt' hcut
  have hsmall : (peakObjectCount records).toNat < 65535 := UInt16.lt_iff_toNat_lt.mp h
  omega

/-- A replay ends with a table of no more places than the declared number and the deletions that
found nothing, and it never holds more objects than that. -/
theorem length_objects_finish_le (player : Player) (records : List Record)
    (hpeak : peakObjectCount records < 65535) :
    let bound := (peakObjectCount records).toNat + player.idleDeletes records .fresh
    (player.finish .fresh records).objects.length ≤ bound ∧
      ∀ done, done <+: records → (player.finish .fresh done).live ≤ bound := by
  intro bound
  have hlength : (player.finish .fresh records).objects.length ≤ bound := by
    have hreplay := player.length_objects_playOn_le records .empty ⟨.fresh, .fresh⟩ (0, 0) 0
      (Nat.le_refl _) (Nat.le_refl _)
    simp only [bound, toNat_peakObjectCount hpeak]
    rwa [Nat.zero_add] at hreplay
  refine ⟨hlength, fun done hdone => ?_⟩
  calc (player.finish .fresh done).live
      ≤ (player.finish .fresh done).objects.length := Context.live_le_length _
    _ ≤ (player.finish .fresh records).objects.length := length_objects_finish_mono _ hdone
    _ ≤ bound := hlength

/-- Two pens with a deletion at an empty handle between them fill the table to the bound: one object
is declared, and one deletion is idle. -/
theorem length_objects_finish_le_idle :
    let player : Player := ⟨.proceed, none, .identity, fun _ => .ok ⟨0, 0, []⟩⟩
    let records : List Record :=
      [⟨0x02FA, [0, 1, 0, 0, 0]⟩, ⟨0x01F0, [7]⟩, ⟨0x02FA, [0, 1, 0, 0, 0]⟩]
    peakObjectCount records < 65535 ∧
      (player.finish .fresh records).objects.length ≤
        (peakObjectCount records).toNat + player.idleDeletes records .fresh := by
  intro player records
  have hpeak : peakObjectCount records < 65535 := by decide
  exact ⟨hpeak, (player.length_objects_finish_le records hpeak).1⟩

/-- Two pens with a deletion at an empty handle between them: one object is declared, and both pens
are in the table at the end. -/
theorem length_objects_finish_gt :
    let player : Player := ⟨.proceed, none, .identity, fun _ => .ok ⟨0, 0, []⟩⟩
    let records : List Record :=
      [⟨0x02FA, [0, 1, 0, 0, 0]⟩, ⟨0x01F0, [7]⟩, ⟨0x02FA, [0, 1, 0, 0, 0]⟩]
    peakObjectCount records = 1 ∧
      (player.finish .fresh records).objects.length = 2 ∧ (player.finish .fresh records).live = 2 :=
  ⟨rfl, rfl, rfl⟩

end Player

end WindowsMetafile
