import WindowsMetafile.Proofs.Reencoding

/-!
# Commands with lists of any length

Points, colours and bytes are written behind a word that counts them; several polygons have one
count for each, and one for all of them. A command with such lists can be written just when all
counts fit their words. Its record then has no word too many, and is read as the same command: every
list comes back whole and in order. The scan lines of a region are not counted, since they take the
rest of the record.

## Main definitions

* `Action.Counts` — the counts that an action writes, and the number of words in its record
* `Action.ReadsBack` — an action has a written form from which it is read
* `Action.FitsBy` — an action is read back when some counts fit their words, and malformed otherwise

## Main results

* `Reader.pointFigure_written`, `Reader.polygons_written`, `Reader.entries_written`,
  `Reader.escape_written`, `Reader.region_written` — lists are read again
* `Action.Counts.fitsBy` — an action with lists fits by its counts
* `Action.encode_of_counts` — a command with lists is written and read again just when its counts
  fit
-/

namespace WindowsMetafile

/-! ### Counts -/

section Counts

variable {n : Nat} {opcode : UInt16} {defect : Defect}

theorem toNat_ofNat_of_fits (h : n ≤ 65535) : (UInt16.ofNat n).toNat = n :=
  UInt16.toNat_ofNat_of_lt' (Nat.lt_succ_of_le h)

theorem countWord_of_fits (h : n ≤ 65535) :
    countWord n opcode defect = .ok (UInt16.ofNat n) :=
  if_pos (Nat.lt_succ_of_le h)

theorem countWord_of_tooMany (h : 65535 < n) :
    countWord n opcode defect = .error (.malformed opcode defect) :=
  if_neg (Nat.not_lt.mpr h)

theorem mapM_pointCount_of_fits {rings : List (List (Point Int16))}
    (h : ∀ ring ∈ rings, ring.length ≤ 65535) :
    rings.mapM (fun ring => pointCount ring.length opcode) =
      .ok (rings.map fun ring => UInt16.ofNat ring.length) := by
  refine Reader.mapM_pointCount ?_
  rw [List.map_map]
  exact (List.map_congr_left fun ring hring => toNat_ofNat_of_fits (h ring hring)).symm

/-- The counts of rings are refused as soon as one of them is too high. -/
theorem mapM_pointCount_of_tooMany {rings : List (List (Point Int16))}
    (h : ∃ ring ∈ rings, 65535 < ring.length) :
    ∃ defect, rings.mapM (fun ring => pointCount ring.length opcode) =
      .error (.malformed opcode defect) := by
  induction rings with
  | nil =>
    obtain ⟨ring, hring, -⟩ := h
    cases hring
  | cons ring rings ih =>
    rw [List.mapM_cons]
    by_cases hfits : ring.length ≤ 65535
    · -- The ring in front fits, so it is one of the others that does not.
      obtain ⟨other, hother, hmany⟩ := h
      rcases List.mem_cons.mp hother with rfl | hother
      · exact absurd hfits (Nat.not_le.mpr hmany)
      · obtain ⟨defect, hmore⟩ := ih ⟨other, hother, hmany⟩
        rw [pointCount, countWord_of_fits hfits, hmore]
        exact ⟨defect, rfl⟩
    · rw [pointCount, countWord_of_tooMany (Nat.not_le.mp hfits)]
      exact ⟨_, rfl⟩

end Counts

/-! ### Lists that are read again -/

namespace Reader

variable (opcode : UInt16)

theorem pointFigure_written (figure : PointFigure) {points : List (Point Int16)} {words : Nat}
    (hpoints : points.length ≤ 65535) (hwords : 1 + 2 * points.length ≤ words) :
    pointFigure figure ⟨opcode, words,
        UInt16.ofNat points.length :: writtenWords (points.flatMap Point.fieldsXY)⟩ =
      .ok (.pointFigure figure points, ⟨opcode, words, []⟩) := by
  have hone : 1 ≤ words := Nat.le_of_add_right_le hwords
  unfold pointFigure
  rw [bind_of_ok (require_of_le hone), bind_of_ok (word_cons ..), toNat_ofNat_of_fits hpoints,
    bind_of_ok (require_of_le hwords),
    bind_of_ok ((exact_points points.length).complete_all opcode words rfl)]
  rfl

/-- Several polygons are read again: how many there are, how many points each of them has, and the
points of all, from one to the next. -/
theorem polygons_written {rings : List (List (Point Int16))} {words : Nat}
    (hrings : rings.length ≤ 65535) (hring : ∀ ring ∈ rings, ring.length ≤ 65535)
    (hwords : 1 + rings.length + 2 * rings.flatten.length ≤ words) :
    polygons ⟨opcode, words,
        UInt16.ofNat rings.length :: (rings.map (fun ring => UInt16.ofNat ring.length) ++
          writtenWords (rings.flatten.flatMap Point.fieldsXY))⟩ =
      .ok (.polygons rings, ⟨opcode, words, []⟩) := by
  have hfront : 1 + rings.length ≤ words := Nat.le_of_add_right_le hwords
  have hone : 1 ≤ words := Nat.le_of_add_right_le hfront
  have hcounts : (rings.map fun ring => UInt16.ofNat ring.length).map UInt16.toNat =
      rings.map List.length := by
    rw [List.map_map]
    exact List.map_congr_left fun ring hmem => toNat_ofNat_of_fits (hring ring hmem)
  have hread := (exact_words rings.length).complete opcode words
    (writtenWords (rings.flatten.flatMap Point.fieldsXY))
    (List.length_map fun ring => UInt16.ofNat ring.length)
  rw [writtenWords_map_word] at hread
  have htotal : (rings.map List.length).foldr (· + ·) 0 = rings.flatten.length :=
    List.length_flatten.symm
  rw [← htotal] at hwords
  unfold polygons
  rw [bind_of_ok (require_of_le hone), bind_of_ok (word_cons ..), toNat_ofNat_of_fits hrings,
    bind_of_ok (require_of_le hfront), bind_of_ok hread, hcounts,
    bind_of_ok (require_of_le hwords),
    bind_of_ok ((exact_rings (rings.map List.length)).complete_all opcode words rfl)]
  rfl

theorem entries_written (start : UInt16) {colors : List Color} {words : Nat}
    (hcolors : colors.length ≤ 65535) (hwords : 2 + 2 * colors.length ≤ words) :
    entries ⟨opcode, words,
        start :: UInt16.ofNat colors.length :: writtenWords (colors.map Color.field)⟩ =
      .ok ((start, colors), ⟨opcode, words, []⟩) := by
  have htwo : 2 ≤ words := Nat.le_of_add_right_le hwords
  unfold entries
  rw [bind_of_ok (require_of_le htwo), bind_of_ok (word_cons ..), bind_of_ok (word_cons ..),
    toNat_ofNat_of_fits hcolors, bind_of_ok (require_of_le hwords),
    bind_of_ok ((exact_colors colors.length).complete_all opcode words rfl)]
  rfl

theorem escape_written (function : UInt16) {data : Bytes} {words : Nat}
    (hdata : data.length ≤ 65535) (hwords : 2 ≤ words) :
    RecordType.escape.reader ⟨opcode, words,
        function :: UInt16.ofNat data.length :: packWords data⟩ =
      .ok (.escape function data, ⟨opcode, words, []⟩) := by
  have hread := bytes_packWords opcode words data []
  rw [List.append_nil] at hread
  rw [RecordType.reader, bind_of_ok (require_of_le hwords), bind_of_ok (word_cons ..),
    bind_of_ok (word_cons ..), toNat_ofNat_of_fits hdata, bind_of_ok hread]
  rfl

/-- The scan lines of a region are all that is left behind its bounds. -/
theorem region_written (description : RegionDescription) {words : Nat} (hwords : 11 ≤ words) :
    region ⟨opcode, words, writtenWords description.fields⟩ =
      .ok (.createRegion description, ⟨opcode, words, []⟩) := by
  have hbounds := exact_boundsDownward.complete (a := description.bounds) opcode words
    description.scans trivial
  unfold region
  rw [bind_of_ok (require_of_le hwords), RegionDescription.fields, writtenWords_append,
    writtenWords_append, writtenWords_map_word, List.append_assoc]
  simp only [writtenWords_cons, writtenWords_nil, Field.words, List.cons_append, List.nil_append]
  rw [bind_of_ok (int16_cons ..), bind_of_ok (int16_cons ..), bind_of_ok (long_cons ..)]
  iterate 3 rw [bind_of_ok (int16_cons ..)]
  rw [bind_of_ok hbounds]
  rfl

end Reader

/-! ### Actions with lists -/

namespace Action

/-- The counts that an action with lists writes in words, and the number of words in its record. -/
inductive Counts : Action → List Nat → Nat → Prop
  | points (figure : PointFigure) (points : List (Point Int16)) :
      Counts (.pointFigure figure points) [points.length] (1 + 2 * points.length)
  /-- The words of the points are those of all polygons together. -/
  | polygons (rings : List (List (Point Int16))) :
      Counts (.polygons rings) (rings.length :: rings.map List.length)
        (1 + rings.length + 2 * rings.flatten.length)
  | createPalette (version : UInt16) (entries : List Color) :
      Counts (.createPalette version entries) [entries.length] (2 + 2 * entries.length)
  | editPalette (edit : PaletteEdit) (start : UInt16) (entries : List Color) :
      Counts (.editPalette edit start entries) [entries.length] (2 + 2 * entries.length)
  | escape (function : UInt16) (data : Bytes) :
      Counts (.escape function data) [data.length] (2 + (data.length + 1) / 2)
  /-- Scan lines are not counted. -/
  | createRegion (region : RegionDescription) :
      Counts (.createRegion region) [] (11 + region.scans.length)

/-- An action has fields in so many words, from which the reader of its type returns it. -/
structure ReadsBack (action : Action) (type : RecordType) (written : List Field) (words : Nat) :
    Prop where
  type? : action.type? = some type
  fields : action.fields = .ok written
  length : (writtenWords written).length = words
  read : ∃ last, type.reader ⟨type.opcode, words, writtenWords written⟩ = .ok (action, last)

/-- An action is read back when some counts fit their words, and is malformed otherwise. -/
structure FitsBy (action : Action) (counts : List Nat) (words : Nat) : Prop where
  readsBack : (∀ n ∈ counts, n ≤ 65535) → ∃ type written, action.ReadsBack type written words
  malformed : (∃ n ∈ counts, 65535 < n) →
    ∃ defect, action.fields = .error (.malformed action.opcode defect)

/-- An action with a single count. -/
theorem FitsBy.of_single {action : Action} {n words : Nat}
    (readsBack : n ≤ 65535 → ∃ type written, action.ReadsBack type written words)
    (malformed : 65535 < n →
      ∃ defect, action.fields = .error (.malformed action.opcode defect)) :
    action.FitsBy [n] words where
  readsBack hfits := readsBack (hfits n (List.mem_singleton_self n))
  malformed hmany := by
    obtain ⟨count, hcount, hmany⟩ := hmany
    obtain rfl := List.mem_singleton.mp hcount
    exact malformed hmany

open Reader

theorem fitsBy_pointFigure (figure : PointFigure) (points : List (Point Int16)) :
    (pointFigure figure points).FitsBy [points.length] (1 + 2 * points.length) := by
  refine .of_single (fun hfits => ?_) fun hmany => ?_
  · obtain ⟨type, htype, hreader⟩ : ∃ type, (pointFigure figure points).type? = some type ∧
        type.reader = Reader.pointFigure figure := by
      cases figure with
      | polygon => exact ⟨.polygon, rfl, rfl⟩
      | polyline => exact ⟨.polyline, rfl, rfl⟩
    have hfields : (pointFigure figure points).fields =
        .ok (.word (UInt16.ofNat points.length) :: points.flatMap Point.fieldsXY) := by
      rw [Action.fields, pointCount, countWord_of_fits hfits]
      rfl
    have hread := pointFigure_written type.opcode figure hfits (Nat.le_refl _)
    rw [← hreader] at hread
    refine ⟨type, _, htype, hfields, ?_, _, hread⟩
    rw [writtenWords_cons, List.length_append, length_writtenWords_points]
    rfl
  · rw [Action.fields, pointCount, countWord_of_tooMany hmany]
    exact ⟨_, rfl⟩

theorem fitsBy_polygons (rings : List (List (Point Int16))) :
    (polygons rings).FitsBy (rings.length :: rings.map List.length)
      (1 + rings.length + 2 * rings.flatten.length) where
  readsBack hfits := by
    obtain ⟨hrings, hring⟩ := List.forall_mem_cons.mp hfits
    rw [List.forall_mem_map] at hring
    have hcounts : rings.mapM (fun ring => pointCount ring.length (polygons rings).opcode) =
        .ok (rings.map fun ring => UInt16.ofNat ring.length) :=
      mapM_pointCount_of_fits hring
    have hfields : (polygons rings).fields = .ok (.word (UInt16.ofNat rings.length) ::
        (rings.map fun ring => UInt16.ofNat ring.length).map .word ++
          rings.flatten.flatMap Point.fieldsXY) := by
      rw [Action.fields, pointCount, countWord_of_fits hrings, hcounts]
      rfl
    have hread := polygons_written RecordType.polyPolygon.opcode hrings hring (Nat.le_refl _)
    refine ⟨.polyPolygon, _, rfl, hfields, ?_, ?_⟩
    · rw [writtenWords_append, writtenWords_cons, writtenWords_map_word, List.length_append,
        List.length_append, List.length_map, length_writtenWords_points]
      rfl
    · rw [writtenWords_append, writtenWords_cons, writtenWords_map_word]
      exact ⟨_, hread⟩
  malformed hmany := by
    obtain ⟨n, hn, hmany⟩ := hmany
    -- If not the polygons themselves, then the points of one of them are too many.
    by_cases hrings : rings.length ≤ 65535
    · rcases List.mem_cons.mp hn with rfl | hring
      · exact absurd hrings (Nat.not_le.mpr hmany)
      · obtain ⟨ring, hmem, rfl⟩ := List.mem_map.mp hring
        obtain ⟨defect, hcounts⟩ := mapM_pointCount_of_tooMany ⟨ring, hmem, hmany⟩
        rw [Action.fields, pointCount, countWord_of_fits hrings, hcounts]
        exact ⟨defect, rfl⟩
    · rw [Action.fields, pointCount, countWord_of_tooMany (Nat.not_le.mp hrings)]
      exact ⟨_, rfl⟩

/-- An action with the colours of a palette, which its reader makes from them. -/
theorem fitsBy_entries {make : UInt16 → List Color → Action} {type : RecordType} {start : UInt16}
    {colors : List Color} (htype : (make start colors).type? = some type)
    (hfields : (make start colors).fields =
      entryFields start colors (make start colors).opcode)
    (hreader : type.reader = (entries >>= fun p => pure (make p.1 p.2))) :
    (make start colors).FitsBy [colors.length] (2 + 2 * colors.length) := by
  refine .of_single (fun hfits => ?_) fun hmany => ?_
  · have hwritten : (make start colors).fields = .ok (.word start ::
        .word (UInt16.ofNat colors.length) :: colors.map Color.field) := by
      rw [hfields, entryFields, countWord_of_fits hfits]
      rfl
    have hread := entries_written type.opcode start hfits (Nat.le_refl _)
    refine ⟨type, _, htype, hwritten, ?_, ?_⟩
    · rw [writtenWords_cons, writtenWords_cons, List.length_append, List.length_append,
        length_writtenWords_colors, ← Nat.add_assoc]
      rfl
    · rw [hreader]
      exact ⟨_, bind_of_ok hread⟩
  · rw [hfields, entryFields, countWord_of_tooMany hmany]
    exact ⟨_, rfl⟩

theorem fitsBy_escape (function : UInt16) (data : Bytes) :
    (escape function data).FitsBy [data.length] (2 + (data.length + 1) / 2) := by
  refine .of_single (fun hfits => ?_) fun hmany => ?_
  · have hfields : (escape function data).fields =
        .ok [.word function, .word (UInt16.ofNat data.length), .bytes data] := by
      rw [Action.fields, countWord_of_fits hfits]
      rfl
    have hwords : writtenWords [.word function, .word (UInt16.ofNat data.length), .bytes data] =
        function :: UInt16.ofNat data.length :: packWords data := by
      simp [Field.words]
    refine ⟨.escape, _, rfl, hfields, ?_, ?_⟩
    · rw [hwords, List.length_cons, List.length_cons, length_packWords, wordsFor, Nat.add_comm 2]
    · rw [hwords]
      exact ⟨_, escape_written _ function hfits (Nat.le_add_right ..)⟩
  · rw [Action.fields, countWord_of_tooMany hmany]
    exact ⟨_, rfl⟩

theorem fitsBy_createRegion (region : RegionDescription) :
    (createRegion region).FitsBy [] (11 + region.scans.length) where
  readsBack _ := by
    refine ⟨.createRegion, region.fields, rfl, rfl, ?_, _,
      region_written _ region (Nat.le_add_right ..)⟩
    rw [RegionDescription.fields, writtenWords_append, writtenWords_map_word, List.length_append]
    rfl
  malformed hmany := by
    obtain ⟨n, hn, -⟩ := hmany
    cases hn

theorem Counts.fitsBy {action : Action} {counts : List Nat} {words : Nat}
    (h : action.Counts counts words) : action.FitsBy counts words := by
  cases h with
  | points figure points => exact fitsBy_pointFigure figure points
  | polygons rings => exact fitsBy_polygons rings
  | createPalette version entries => exact fitsBy_entries rfl rfl rfl
  | editPalette edit start entries =>
    cases edit with
    | replace => exact fitsBy_entries rfl rfl rfl
    | animate => exact fitsBy_entries rfl rfl rfl
  | escape function data => exact fitsBy_escape function data
  | createRegion region => exact fitsBy_createRegion region

/-- A command with lists is written just when all counts fit their words. The record has no word too
many and is read as the same command, with the same lists. A command with too high a count is
malformed. -/
theorem encode_of_counts {action : Action} {counts : List Nat} {words : Nat}
    (h : action.Counts counts words) :
    ((∀ n ∈ counts, n ≤ 65535) → ∃ record, action.encode = .ok record ∧
      record.opcode = action.opcode ∧ record.params.length = words ∧
      record.decode = .ok (.ofAction action)) ∧
    ((∃ n ∈ counts, 65535 < n) →
      ∃ defect, action.encode = .error (.malformed action.opcode defect)) := by
  obtain ⟨hreads, hmalformed⟩ := h.fitsBy
  refine ⟨fun hfits => ?_, fun hmany => ?_⟩
  · obtain ⟨type, written, htype, hfields, hlength, hread⟩ := hreads hfits
    have hencode : action.encode = .ok (.compose type.opcode written) := by
      rw [encode, hfields, opcode_of_type? htype]
      rfl
    have hdecode := Record.decode_compose (hlength ▸ hread)
    exact ⟨_, hencode, (opcode_of_type? htype).symm, hlength, hdecode⟩
  · obtain ⟨defect, hfields⟩ := hmalformed hmany
    refine ⟨defect, ?_⟩
    rw [encode, hfields]
    rfl

/-- Three polygons, one of them without a point, keep their points apart. -/
theorem encode_of_counts_empty_ring :
    let rings : List (List (Point Int16)) := [[⟨1, 2⟩, ⟨3, 4⟩], [], [⟨5, 6⟩]]
    ∃ record, (polygons rings).encode = .ok record ∧ record.opcode = 0x0538 ∧
      record.params.length = 10 ∧ record.decode = .ok (.ofAction (polygons rings)) :=
  (encode_of_counts (.polygons [[⟨1, 2⟩, ⟨3, 4⟩], [], [⟨5, 6⟩]])).1 (by decide)

end Action

end WindowsMetafile
