import WindowsMetafile.Proofs.WrittenText

/-!
# Records written back

A command that was read from a record can be written again unless the record holds a bitmap. The new
record is read as the same command. Its parameters are the first ones of the old record, except
where a text or a run of bytes is padded anew, and where a transfer of pixels has a word without a
use.

## Main definitions

* `RecordType.holdsBitmap` — whether a record of some length holds a bitmap
* `RecordType.Rewritten` — what becomes of the parameters of a record

## Main results

* `RecordType.stable_reader` — most readers are stable
* `RecordType.reencodes` — every reader but one gives actions that are written and read again
* `Record.encode_of_decode` — the same for the command in a record
-/

namespace WindowsMetafile

namespace RecordType

/-- The types of which some or all records hold a bitmap. -/
def mayHoldBitmap : RecordType → Bool
  | .createPatternBrush | .dibCreatePatternBrush | .setDibToDev | .stretchDib => true
  | .bitBlt | .dibBitBlt | .stretchBlt | .dibStretchBlt => true
  | _ => false

/-- Whether a record with a number of parameter words holds a bitmap. -/
def holdsBitmap (type : RecordType) (words : Nat) : Bool :=
  match type with
  | .createPatternBrush | .dibCreatePatternBrush | .setDibToDev | .stretchDib => true
  | .bitBlt | .dibBitBlt => words ≠ bareBlitWords
  | .stretchBlt | .dibStretchBlt => words ≠ bareStretchWords
  | _ => false

/-- The place of the word without a use in a transfer without a bitmap. -/
def reservedWord? : RecordType → Option Nat
  | .bitBlt | .dibBitBlt => some 4
  | .stretchBlt | .dibStretchBlt => some 6
  | _ => none

/-- Whether the words that were read are written as they were. -/
def keepsWords : RecordType → Bool
  | .textOut | .extTextOut | .escape | .createFontIndirect => false
  | _ => true

/-- What becomes of the parameters of a record that is written back. -/
def Rewritten (type : RecordType) (params again : List UInt16) : Prop :=
  match type.reservedWord? with
  | some place => again = params.set place 0
  | none => type.keepsWords → again <+: params

open Reader in
/-- The actions of a type without bitmaps are read again from their own fields. -/
theorem stable_reader {type : RecordType} (hext : type ≠ .extTextOut)
    (hbitmap : type.mayHoldBitmap = false) :
    Stable type type.keepsWords [] 0 type.reader := by
  cases type with
  | eof | saveDc | realizePalette => exact .pure rfl rfl (Nat.le_refl _)
  | restoreDc | setTextCharExtra => exact stable_int16 (fun _ => rfl) fun _ => rfl
  | setBkColor | setTextColor => exact stable_color (fun _ => rfl) fun _ => rfl
  | setBkMode | setMapMode | setRop2 | setRelAbs | setPolyFillMode | setStretchBltMode
  | setTextAlign | selectObject | deleteObject | selectPalette | resizePalette | paintRegion
  | invertRegion | selectClipRegion => exact stable_word (fun _ => rfl) fun _ => rfl
  | setLayout | setMapperFlags => exact stable_long (fun _ => rfl) fun _ => rfl
  | setWindowOrg | setWindowExt | offsetWindowOrg | setViewportOrg | setViewportExt
  | offsetViewportOrg | moveTo | lineTo | offsetClipRgn =>
    exact stable_pointYX (fun _ => rfl) fun _ => rfl
  | rectangle | ellipse | excludeClipRect | intersectClipRect =>
    exact stable_boundsUpward (fun _ => rfl) fun _ => rfl
  | scaleWindowExt | scaleViewportExt => exact stable_factors (fun _ => rfl) fun _ => rfl
  | arc | chord | pie => exact stable_sector fun _ _ _ => rfl
  | polygon | polyline => exact stable_pointFigure fun _ => rfl
  | createPalette | setPalEntries | animatePalette =>
    exact stable_entries (fun _ _ => rfl) fun _ _ => rfl
  | polyPolygon => exact stable_polygons
  | createBrushIndirect => exact stable_brush
  | createRegion => exact stable_region
  | textOut => exact stable_plainText nofun
  | escape => exact stable_escape nofun
  | createFontIndirect => exact stable_font nofun
  | setTextJustification =>
    exact .require <| .read exact_word fun _ _ => .read exact_int16 fun _ _ =>
      .pure rfl rfl (Nat.le_refl _)
  | roundRect =>
    exact .require <| .read exact_int16 fun _ _ => .read exact_int16 fun _ _ =>
      .read exact_boundsUpward fun _ _ => .pure rfl rfl (Nat.le_refl _)
  | setPixel | floodFill =>
    exact .require <| .read exact_color fun _ _ => .read exact_pointYX fun _ _ =>
      .pure rfl rfl (Nat.le_refl _)
  | extFloodFill =>
    exact .require <| .read exact_word fun _ _ => .read exact_color fun _ _ =>
      .read exact_pointYX fun _ _ => .pure rfl rfl (Nat.le_refl _)
  | patBlt =>
    exact .require <| .read exact_long fun _ _ => .read exact_area fun _ _ =>
      .pure rfl rfl (Nat.le_refl _)
  | createPenIndirect =>
    exact .require <| .read exact_word fun _ _ => .read exact_int16 fun _ _ =>
      .read exact_int16 fun _ _ => .read exact_color fun _ _ => .pure rfl rfl (Nat.le_refl _)
  | fillRegion =>
    exact .require <| .read exact_word fun _ _ => .read exact_word fun _ _ =>
      .pure rfl rfl (Nat.le_refl _)
  | frameRegion =>
    exact .require <| .read exact_word fun _ _ => .read exact_word fun _ _ =>
      .read exact_int16 fun _ _ => .read exact_int16 fun _ _ => .pure rfl rfl (Nat.le_refl _)
  | extTextOut => exact absurd rfl hext
  | createPatternBrush | dibCreatePatternBrush | setDibToDev | stretchDib | bitBlt | dibBitBlt
  | stretchBlt | dibStretchBlt => cases hbitmap

end RecordType

/-! ### Transfers of pixels -/

namespace Reader

variable {σ β : Type} {needed bare : Nat} {source : Reader σ} {bitmap : Reader β}
variable {written : σ → List Field} {cursor last : Cursor}

/-- A transfer holds a bitmap unless it has one certain length. -/
theorem transfer_eq_ok {p : UInt32 × σ × Area × Option β} (hsource : Exact source anyValue written)
    (h : transfer needed bare source bitmap cursor = .ok (p, last)) :
    cursor.count ≠ bare ∧ p.2.2.2.isSome ∨
      cursor.count = bare ∧ p.2.2.2 = none ∧ ∃ reserved,
        cursor.rest = writtenWords (.long p.1 :: written p.2.1) ++
          (reserved :: writtenWords p.2.2.1.fields) ++ last.rest := by
  obtain ⟨_, _, hrequire, h⟩ := bind_eq_ok.mp h
  obtain ⟨-, rfl⟩ := require_eq_ok.mp hrequire
  obtain ⟨words, _, hwords, h⟩ := bind_eq_ok.mp h
  cases hwords
  obtain ⟨operation, mid₁, hoperation, h⟩ := bind_eq_ok.mp h
  obtain ⟨origin, mid₂, horigin, h⟩ := bind_eq_ok.mp h
  obtain ⟨-, hrest₁, -⟩ := exact_long.sound hoperation
  obtain ⟨-, hrest₂, -⟩ := hsource.sound horigin
  -- The number of words decides whether a word is passed over or a bitmap follows.
  split at h
  · rename_i hbare
    obtain ⟨_, mid₃, hskip, h⟩ := bind_eq_ok.mp h
    obtain ⟨target, mid₄, htarget, h⟩ := bind_eq_ok.mp h
    obtain ⟨rfl, rfl⟩ := pure_eq_ok.mp h
    obtain ⟨-, hrest₄, -⟩ := exact_area.sound htarget
    obtain ⟨reserved, hrest₃⟩ : ∃ reserved, mid₂.rest = reserved :: mid₃.rest := by
      unfold skip at hskip
      split at hskip
      · cases hskip
      · rename_i hleft
        cases hskip
        cases hrest : mid₂.rest with
        | nil => exact absurd (by simp [Cursor.remaining, hrest]) hleft
        | cons reserved rest => exact ⟨reserved, rfl⟩
    refine .inr ⟨hbare, rfl, reserved, ?_⟩
    simp [hrest₁, hrest₂, hrest₃, hrest₄]
  · rename_i hbare
    obtain ⟨target, mid₃, -, h⟩ := bind_eq_ok.mp h
    obtain ⟨image, mid₄, -, h⟩ := bind_eq_ok.mp h
    obtain ⟨rfl, -⟩ := pure_eq_ok.mp h
    exact .inl ⟨hbare, rfl⟩

/-- A record of that length is filled by the fields of the transfer and one word without a use. -/
theorem params_of_transfer {record : Record} {operation : UInt32} {origin : σ} {target : Area}
    {image : Option β} (hsource : Exact source anyValue written)
    (hwords : ∀ origin, (writtenWords (written origin)).length + 7 = bare)
    (h : transfer needed bare source bitmap record.cursor =
      .ok ((operation, origin, target, image), last))
    (hbare : record.params.length = bare) :
    image = none ∧ ∃ reserved,
      record.params = writtenWords (.long operation :: written origin) ++
        reserved :: writtenWords target.fields := by
  rcases transfer_eq_ok hsource h with ⟨hnot, -⟩ | ⟨-, himage, reserved, hrest⟩
  · exact absurd hbare hnot
  -- The fields and the unused word are as many words as the record has.
  · have hnothing : last.rest = [] := by
      have htotal : record.params.length = _ := congrArg List.length hrest
      have horigin := hwords origin
      have htarget : (writtenWords target.fields).length = 4 := rfl
      simp only [writtenWords_cons, Field.words, List.length_append, List.length_cons,
        List.length_nil] at htotal
      exact List.eq_nil_of_length_eq_zero (by omega)
    rw [hnothing, List.append_nil] at hrest
    exact ⟨himage, reserved, hrest⟩

/-- A transfer without a bitmap is read back, whatever its unused word is. -/
theorem transfer_written (hsource : Exact source anyValue written) (hneeded : needed ≤ bare)
    (operation : UInt32) (origin : σ) (target : Area) (reserved opcode : UInt16) :
    transfer needed bare source bitmap
        ⟨opcode, bare, writtenWords (.long operation :: written origin) ++
          (reserved :: writtenWords target.fields)⟩ =
      .ok ((operation, origin, target, none), ⟨opcode, bare, []⟩) := by
  have htarget := exact_area.complete_all (a := target) opcode bare trivial
  unfold transfer
  rw [bind_of_ok (require_of_le hneeded), bind_of_ok (count_eq ..), writtenWords_cons,
    List.append_assoc]
  simp only [Field.words, List.cons_append, List.nil_append]
  rw [bind_of_ok (long_cons ..), bind_of_ok (hsource.complete opcode bare _ trivial),
    if_pos trivial, bind_of_ok (skip_one_cons ..), bind_of_ok htarget]
  rfl

end Reader

/-! ### The parameters of every record -/

namespace Action

variable {action : Action} {type : RecordType}

theorem opcode_of_type? (h : action.type? = some type) : action.opcode = type.opcode := by
  unfold opcode
  split
  · cases h
  · rw [h]
    rfl

theorem unsupported_of_type? (h : action.type? = some type) :
    action.unsupported = .unsupportedEncoding type.opcode type.name := by
  rw [unsupported, opcode_of_type? h, name, h]

end Action

namespace RecordType

/-- Every action that is read from a record of the type is written and read again, unless the record
holds a bitmap. -/
structure Reencodes (type : RecordType) : Prop where
  type? : ∀ {record action}, type.reader.run record = .ok action → action.type? = some type
  refused : ∀ {record action}, type.reader.run record = .ok action →
    type.holdsBitmap record.params.length → action.encode = .error action.unsupported
  written : ∀ {record action}, type.reader.run record = .ok action →
    ¬ type.holdsBitmap record.params.length → ∃ again, action.encode = .ok again ∧
      again.opcode = type.opcode ∧ type.reader.run again = .ok action ∧
        type.Rewritten record.params again.params

variable {type : RecordType}

theorem Reencodes.of_stable (h : Reader.Stable type type.keepsWords [] 0 type.reader)
    (hbitmap : ∀ words, type.holdsBitmap words = false) (hreserved : type.reservedWord? = none) :
    type.Reencodes where
  type? hread := (h.reread hread).1
  refused {record _} _ hholds := by simp [hbitmap record.params.length] at hholds
  written hread _ := by
    obtain ⟨htype, again, hencode, hopcode, hagain, hprefix⟩ := h.reread hread
    refine ⟨again, hencode, hopcode.trans (Action.opcode_of_type? htype), hagain, ?_⟩
    rwa [Rewritten, hreserved]

/-- Of some types, all actions hold a bitmap. -/
theorem Reencodes.of_bitmap (hholds : ∀ words, type.holdsBitmap words = true)
    (h : type.reader.Yields fun action =>
      action.type? = some type ∧ action.fields = .error action.unsupported) :
    type.Reencodes where
  type? hread := by
    obtain ⟨last, hok⟩ := Reader.run_eq_ok.mp hread
    exact (h _ _ _ hok).1
  refused hread _ := by
    obtain ⟨last, hok⟩ := Reader.run_eq_ok.mp hread
    rw [Action.encode, (h _ _ _ hok).2]
    rfl
  written {record _} _ hnot := absurd (hholds record.params.length) hnot

open Reader in
theorem Reencodes.of_transfer {σ β : Type} {needed bare place : Nat} {source : Reader σ}
    {bitmap : Reader β} {written : σ → List Field}
    {make : UInt32 → σ → Area → Option β → Action}
    (hreader : type.reader = (transfer needed bare source bitmap >>= fun p =>
      pure (make p.1 p.2.1 p.2.2.1 p.2.2.2)))
    (hsource : Exact source anyValue written) (hneeded : needed ≤ bare)
    (hwords : ∀ origin, (writtenWords (written origin)).length + 7 = bare)
    (hplace : place + 5 = bare) (hreserved : type.reservedWord? = some place)
    (hholds : ∀ words, type.holdsBitmap words = decide (words ≠ bare))
    (htype : ∀ operation origin target image,
      (make operation origin target image).type? = some type)
    (hsome : ∀ operation origin target image, (make operation origin target (some image)).fields =
      .error (make operation origin target (some image)).unsupported)
    (hnone : ∀ operation origin target, (make operation origin target none).fields =
      .ok (.long operation :: written origin ++ .word 0 :: target.fields)) :
    type.Reencodes where
  type? hread := by
    rw [hreader] at hread
    obtain ⟨p, last, -, rfl⟩ := of_run_bind_pure hread
    exact htype ..
  refused {record action} hread hbitmap := by
    rw [hholds, decide_eq_true_eq] at hbitmap
    rw [hreader] at hread
    obtain ⟨⟨operation, origin, target, image⟩, last, htransfer, rfl⟩ := of_run_bind_pure hread
    rcases transfer_eq_ok hsource htransfer with ⟨-, himage⟩ | ⟨hbare, -⟩
    · obtain ⟨image, rfl⟩ := Option.isSome_iff_exists.mp himage
      rw [Action.encode, hsome]
      rfl
    · exact absurd hbare hbitmap
  written {record action} hread hbitmap := by
    rw [hholds, decide_eq_true_eq, Ne, not_not] at hbitmap
    rw [hreader] at hread
    obtain ⟨⟨operation, origin, target, image⟩, last, htransfer, rfl⟩ := of_run_bind_pure hread
    obtain ⟨rfl, reserved, hparams⟩ := params_of_transfer hsource hwords htransfer hbitmap
    -- The words in front of the unused one; their number is its place.
    generalize hfront : writtenWords (.long operation :: written origin) = front at hparams
    have hlength : front.length = place := by
      rw [hparams] at hbitmap
      have htarget : (writtenWords target.fields).length = 4 := rfl
      simp only [List.length_append, List.length_cons] at hbitmap
      omega
    have hwritten : writtenWords (.long operation :: written origin ++ .word 0 :: target.fields) =
        front ++ 0 :: writtenWords target.fields := by
      rw [writtenWords_append, hfront]
      rfl
    -- The written record is as long as the one before, so it is read without a bitmap too.
    have hcount : (front ++ 0 :: writtenWords target.fields).length = bare := by
      rw [← hbitmap, hparams, List.length_append, List.length_append]
      rfl
    refine ⟨⟨type.opcode, front ++ 0 :: writtenWords target.fields⟩, ?_, rfl, ?_, ?_⟩
    · rw [Action.encode, hnone, Action.opcode_of_type? (htype ..), ← hwritten]
      rfl
    · refine run_eq_ok.mpr ⟨⟨type.opcode, bare, []⟩, ?_⟩
      rw [hreader, Record.cursor, hcount, ← hfront,
        bind_of_ok (transfer_written hsource hneeded operation origin target 0 type.opcode)]
      rfl
    · rw [Rewritten, hreserved, hparams]
      dsimp only
      rw [List.set_append_right _ _ (by omega), hlength, Nat.sub_self, List.set_cons_zero]

open Reader in
/-- Every record but one of text with options is written back as it should be. -/
theorem reencodes (hext : type ≠ .extTextOut) : type.Reencodes := by
  by_cases hbitmap : type.mayHoldBitmap
  · cases type with
    | createPatternBrush =>
      exact .of_bitmap (fun _ => rfl) <| yields_bind fun _ => yields_bind fun _ =>
        yields_bind fun _ => yields_bind fun _ => yields_pure ⟨rfl, rfl⟩
    | dibCreatePatternBrush =>
      exact .of_bitmap (fun _ => rfl) <| yields_bind fun _ => yields_bind fun _ =>
        yields_bind fun _ => yields_bind fun _ => yields_pure ⟨rfl, rfl⟩
    | setDibToDev =>
      exact .of_bitmap (fun _ => rfl) <| yields_bind fun _ => yields_bind fun _ =>
        yields_bind fun _ => yields_bind fun _ => yields_bind fun _ => yields_bind fun _ =>
          yields_bind fun _ => yields_pure ⟨rfl, rfl⟩
    | stretchDib =>
      exact .of_bitmap (fun _ => rfl) <| yields_bind fun _ => yields_bind fun _ =>
        yields_bind fun _ => yields_bind fun _ => yields_bind fun _ => yields_bind fun _ =>
          yields_pure ⟨rfl, rfl⟩
    | bitBlt | dibBitBlt =>
      exact .of_transfer rfl exact_pointYX (by decide) (fun _ => rfl) rfl rfl
        (fun _ => rfl) (fun _ _ _ _ => rfl) (fun _ _ _ _ => rfl) fun _ _ _ => rfl
    | stretchBlt | dibStretchBlt =>
      exact .of_transfer rfl exact_area (by decide) (fun _ => rfl) rfl rfl
        (fun _ => rfl) (fun _ _ _ _ => rfl) (fun _ _ _ _ => rfl) fun _ _ _ => rfl
    | _ => exact absurd hbitmap (by decide)
  · rw [Bool.not_eq_true] at hbitmap
    refine .of_stable (stable_reader hext hbitmap) (fun words => ?_) ?_
    · cases type <;> first | rfl | cases hbitmap
    · cases type <;> first | rfl | cases hbitmap

end RecordType

/-- A record asks for an action of its own type. -/
theorem RecordType.type?_of_run {type : RecordType} {record : Record} {action : Action}
    (h : type.reader.run record = .ok action) : action.type? = some type := by
  by_cases hext : type = .extTextOut
  · subst hext
    obtain ⟨content, last, -, rfl⟩ := Reader.of_run_bind_pure h
    rfl
  · exact (RecordType.reencodes hext).type? h

namespace Record

variable {record : Record} {type : RecordType} {command : Command}

theorem decode_eq_ok (h : RecordType.ofOpcode? record.opcode = some type) :
    record.decode = .ok command ↔
      ∃ action, type.reader.run record = .ok action ∧ command = .ofAction action := by
  rw [decode, decodeAs, actionAs, h]
  dsimp only
  rw [if_pos rfl]
  cases type.reader.run record with
  | error fault => simp [Except.map]
  | ok action => simp [Except.map, eq_comm]

theorem decode_of_unknown (h : RecordType.ofOpcode? record.opcode = none) :
    record.decode = .ok (.ofAction (.unknown record.opcode)) := by
  rw [decode, decodeAs, actionAs, h]
  dsimp only
  rw [if_pos rfl]
  rfl

/-- What the reader of a type returns from some fields is the action in the record with these. -/
theorem decode_compose {action : Action} {fields : List Field}
    (h : ∃ last, type.reader ⟨type.opcode, (writtenWords fields).length, writtenWords fields⟩ =
      .ok (action, last)) :
    (compose type.opcode fields).decode = .ok (.ofAction action) :=
  (decode_eq_ok (RecordType.ofOpcode?_opcode type)).mpr ⟨action, Reader.run_eq_ok.mpr h, rfl⟩

/-- Whether the function code of a record has no meaning. -/
def isUnknown (record : Record) : Bool :=
  (RecordType.ofOpcode? record.opcode).isNone

/-- The command in a record is unknown just when the function code has no meaning. -/
theorem isUnknown_of_decode (h : record.decode = .ok command) :
    command.action.isUnknown = record.isUnknown := by
  cases htype : RecordType.ofOpcode? record.opcode with
  | none =>
    rw [decode_of_unknown htype] at h
    cases h
    rw [isUnknown, htype]
    rfl
  | some type =>
    obtain ⟨action, hread, rfl⟩ := (decode_eq_ok htype).mp h
    have haction := RecordType.type?_of_run hread
    rw [isUnknown, htype, Command.ofAction]
    cases action <;> first | rfl | cases haction

/-- A command that was read from a record, text with options aside, is written back unless the
record holds a bitmap: there is no other fault. What is written is read as the same command. -/
theorem encode_of_decode (htype : RecordType.ofOpcode? record.opcode = some type)
    (hext : type ≠ .extTextOut) (h : record.decode = .ok command) :
    if type.holdsBitmap record.params.length then
      command.encode = .error (.unsupportedEncoding record.opcode type.name)
    else
      ∃ again, command.encode = .ok again ∧ again.opcode = record.opcode ∧
        again.decode = .ok command ∧ type.Rewritten record.params again.params := by
  obtain ⟨action, hread, rfl⟩ := (decode_eq_ok htype).mp h
  have hopcode := RecordType.ofOpcode?_eq_some_iff.mp htype
  have hreencodes := RecordType.reencodes hext
  split
  · rename_i hholds
    have hrefused := hreencodes.refused hread hholds
    rw [Action.unsupported_of_type? (hreencodes.type? hread), hopcode] at hrefused
    exact hrefused
  · rename_i hholds
    obtain ⟨again, hencode, hagain, hread', hparams⟩ := hreencodes.written hread hholds
    have htype' : RecordType.ofOpcode? again.opcode = some type := by
      rw [hagain, RecordType.ofOpcode?_opcode]
    exact ⟨again, hencode, hagain.trans hopcode, (decode_eq_ok htype').mpr ⟨action, hread', rfl⟩,
      hparams⟩

/-- The unused word of a transfer without a bitmap is cleared, and nothing else changes. -/
theorem encode_of_decode_bare_blit :
    let record : Record := ⟨0x0940, [0x0020, 0x00CC, 1, 2, 7, 30, 40, 5, 6]⟩
    let command := Command.ofAction (.dibBitBlit 0x00CC0020 ⟨2, 1⟩ ⟨6, 5, 40, 30⟩ none)
    record.decode = .ok command ∧ ∃ again, command.encode = .ok again ∧
      again.opcode = 0x0940 ∧ again.decode = .ok command ∧
        again.params = [0x0020, 0x00CC, 1, 2, 0, 30, 40, 5, 6] := by
  intro record command
  have hread : record.decode = .ok command := rfl
  have htype : RecordType.ofOpcode? record.opcode = some .dibBitBlt := rfl
  exact ⟨hread, encode_of_decode htype (by decide) hread⟩

end Record

end WindowsMetafile
