import WindowsMetafile.Proofs.Reading

/-!
# Commands written and read again

What a record type's reader returns is written as fields, and most readers return the same action
when they read these fields again. This is shown along the reader: each step that takes words adds
fields to those that the action is going to have, and the end of the reader has to return an action
with just these fields.

## Main definitions

* `Reader.Stable` — the actions of a reader are read again from their own fields

## Main results

* `Reader.Stable.read`, `Reader.Stable.require`, ... — the rules for the steps of a reader
* `Reader.Stable.reread` — a stable reader reads its action again from the record of the action
-/

namespace WindowsMetafile

namespace Reader

variable {α : Type} {type : RecordType} {kept : Prop} {before : List Field} {least : Nat}
variable {reader : Reader α} {next : α → Reader Action} {action : Action}

/-- An action that the reader returns has the fields in `before`, which stand for the words taken
earlier, and then some that the reader returns the same action from. The record of the action has at
least so many words. Where the reader keeps its words, it took the later fields just as they are
written. -/
structure Stable (type : RecordType) (kept : Prop) (before : List Field) (least : Nat)
    (read : Reader Action) : Prop where
  again : ∀ {cursor action last}, read cursor = .ok (action, last) →
    ∃ fields, action.type? = some type ∧ action.fields = .ok (before ++ fields) ∧
      least ≤ (writtenWords (before ++ fields)).length ∧
      (kept → cursor.rest = writtenWords fields ++ last.rest) ∧
      ∀ opcode, ∃ last,
        read ⟨opcode, (writtenWords (before ++ fields)).length, writtenWords fields⟩ =
          .ok (action, last)

/-! ### Rules for single steps -/

theorem Stable.pure (htype : action.type? = some type) (hfields : action.fields = .ok before)
    (hleast : least ≤ (writtenWords before).length) :
    Stable type kept before least (Pure.pure action) := by
  constructor
  intro cursor action' last h
  obtain ⟨rfl, rfl⟩ := pure_eq_ok.mp h
  refine ⟨[], htype, by simpa using hfields, by simpa using hleast, fun _ => rfl, ?_⟩
  exact fun _ => ⟨_, rfl⟩

theorem Stable.refuse {defect : Defect} :
    Stable type kept before least (Reader.refuse defect) := by
  constructor
  intro cursor action last h
  cases h

theorem Stable.require {next : Unit → Reader Action} {needed : Nat} {what : String}
    (h : Stable type kept before (max least needed) (next ())) :
    Stable type kept before least (Reader.require needed what >>= next) := by
  constructor
  intro cursor action last hread
  obtain ⟨_, mid, hrequire, hnext⟩ := bind_eq_ok.mp hread
  obtain ⟨-, rfl⟩ := require_eq_ok.mp hrequire
  obtain ⟨fields, htype, hfields, hleast, hkept, hagain⟩ := h.again hnext
  -- The action itself has as many words as its reader asks for, though the record may be shorter.
  have hneeded := Nat.max_le.mp hleast
  refine ⟨fields, htype, hfields, hneeded.1, hkept, ?_⟩
  intro opcode
  rw [bind_of_ok (require_of_le hneeded.2)]
  exact hagain opcode

/-- A step that takes the written form of its value. -/
theorem Stable.read {valid : α → Prop} {written : α → List Field}
    (hread : Exact reader valid written)
    (h : ∀ a, valid a → Stable type kept (before ++ written a) least (next a)) :
    Stable type kept before least (reader >>= next) := by
  constructor
  intro cursor action last hok
  obtain ⟨a, mid, hfirst, hnext⟩ := bind_eq_ok.mp hok
  obtain ⟨hvalid, htaken, -⟩ := hread.sound hfirst
  obtain ⟨fields, htype, hfields, hleast, hkept, hagain⟩ := (h a hvalid).again hnext
  -- What the step took moves from the fields to come to the fields before.
  simp only [List.append_assoc] at hfields hleast hagain
  refine ⟨written a ++ fields, htype, hfields, hleast, ?_, ?_⟩
  · intro h
    rw [htaken, hkept h, writtenWords_append, List.append_assoc]
  · intro opcode
    rw [writtenWords_append (written a) fields, bind_of_ok (hread.complete opcode _ _ hvalid)]
    exact hagain opcode

/-- A run of bytes is written back with zeros for its padding, so its words are not kept. -/
theorem Stable.bytes {n : Nat} {next : Bytes → Reader Action} (hkept : ¬ kept)
    (h : ∀ data, data.length = n → Stable type kept (before ++ [.bytes data]) least (next data)) :
    Stable type kept before least (Reader.bytes n >>= next) := by
  constructor
  intro cursor action last hok
  obtain ⟨data, mid, hfirst, hnext⟩ := bind_eq_ok.mp hok
  obtain ⟨rfl, -⟩ := eq_of_bytes hfirst
  obtain ⟨fields, htype, hfields, hleast, -, hagain⟩ := (h data rfl).again hnext
  simp only [List.append_assoc, List.singleton_append] at hfields hleast hagain
  refine ⟨.bytes data :: fields, htype, hfields, hleast, hkept.elim, ?_⟩
  intro opcode
  simp only [writtenWords_cons, Field.words]
  rw [bind_of_ok (bytes_packWords opcode _ data _)]
  exact hagain opcode

/-- The last step may take all words that are left. -/
theorem Stable.restWords {make : List UInt16 → Action} (htype : ∀ ws, (make ws).type? = some type)
    (hfields : ∀ ws, (make ws).fields = .ok (before ++ ws.map .word))
    (hleast : least ≤ (writtenWords before).length) :
    Stable type kept before least (Reader.restWords >>= fun ws => Pure.pure (make ws)) := by
  constructor
  intro cursor action last hok
  obtain ⟨ws, mid, hrest, hpure⟩ := bind_eq_ok.mp hok
  obtain ⟨rfl, rfl⟩ := pure_eq_ok.mp hpure
  cases hrest
  refine ⟨cursor.rest.map .word, htype _, hfields _, ?_, by simp, ?_⟩
  · rw [writtenWords_append, List.length_append]
    exact Nat.le_add_right_of_le hleast
  · intro opcode
    rw [writtenWords_map_word]
    exact ⟨_, rfl⟩

/-- A stable reader reads its action again from the record of the action. -/
theorem Stable.reread {read : Reader Action} {record : Record}
    (h : Stable type kept [] 0 read) (hread : read.run record = .ok action) :
    action.type? = some type ∧ ∃ again, action.encode = .ok again ∧
      again.opcode = action.opcode ∧ read.run again = .ok action ∧
        (kept → again.params <+: record.params) := by
  obtain ⟨last, hok⟩ := run_eq_ok.mp hread
  obtain ⟨fields, htype, hfields, -, hkept, hagain⟩ := h.again hok
  simp only [List.nil_append] at hfields hagain
  refine ⟨htype, .compose action.opcode fields, ?_, rfl, ?_, ?_⟩
  · rw [Action.encode, hfields]
    rfl
  · exact run_eq_ok.mpr (hagain action.opcode)
  · intro h
    exact ⟨last.rest, (hkept h).symm⟩

/-! ### Readers of a fixed number of words -/

section Fixed

variable {role : ColorRole} {modeRole : ModeRole} {side : MappingSide} {edit : MappingEdit}
variable {what : String}

theorem stable_int16 {make : Int16 → Action} (htype : ∀ value, (make value).type? = some type)
    (hfields : ∀ value, (make value).fields = .ok [.int16 value]) :
    Stable type kept [] 0 (do Reader.require 1 what; return make (← int16)) :=
  .require <| .read exact_int16 fun value _ => .pure (htype value) (hfields value) (Nat.le_refl _)

theorem stable_word {make : UInt16 → Action} (htype : ∀ value, (make value).type? = some type)
    (hfields : ∀ value, (make value).fields = .ok [.word value]) :
    Stable type kept [] 0 (do Reader.require 1 what; return make (← word)) :=
  .require <| .read exact_word fun value _ => .pure (htype value) (hfields value) (Nat.le_refl _)

theorem stable_long {make : UInt32 → Action} (htype : ∀ value, (make value).type? = some type)
    (hfields : ∀ value, (make value).fields = .ok [.long value]) :
    Stable type kept [] 0 (do Reader.require 2 what; return make (← long)) :=
  .require <| .read exact_long fun value _ => .pure (htype value) (hfields value) (Nat.le_refl _)

theorem stable_color {make : Color → Action} (htype : ∀ c, (make c).type? = some type)
    (hfields : ∀ c, (make c).fields = .ok [c.field]) :
    Stable type kept [] 0 (do Reader.require 2 what; return make (← color)) :=
  .require <| .read exact_color fun c _ => .pure (htype c) (hfields c) (Nat.le_refl _)

theorem stable_pointYX {make : Point Int16 → Action} (htype : ∀ p, (make p).type? = some type)
    (hfields : ∀ p, (make p).fields = .ok p.fieldsYX) :
    Stable type kept [] 0 (do Reader.require 2 what; return make (← pointYX)) :=
  .require <| .read exact_pointYX fun p _ => .pure (htype p) (hfields p) (Nat.le_refl _)

theorem stable_boundsUpward {make : Bounds → Action} (htype : ∀ b, (make b).type? = some type)
    (hfields : ∀ b, (make b).fields = .ok b.fieldsUpward) :
    Stable type kept [] 0 (do Reader.require 4 what; return make (← boundsUpward)) :=
  .require <| .read exact_boundsUpward fun b _ => .pure (htype b) (hfields b) (Nat.le_refl _)

/-- The factors of an extent, which are refused when a denominator is zero. -/
theorem stable_factors {make : ExtentFactors → Action}
    (htype : ∀ factors, (make factors).type? = some type)
    (hfields : ∀ factors, (make factors).fields = .ok factors.fields) :
    Stable type kept [] 0 (do return make (← Reader.factors)) := by
  unfold Reader.factors
  simp only [bind_assoc]
  refine .require <| .read exact_int16 fun yDenominator _ => .read exact_int16 fun yNumerator _ =>
    .read exact_int16 fun xDenominator _ => .read exact_int16 fun xNumerator _ => ?_
  split
  · exact .refuse
  · exact .pure (htype _) (hfields _) (Nat.le_refl _)

theorem stable_sector {closing : ArcClosing}
    (htype : ∀ bounds start finish,
      (Action.sector closing bounds start finish).type? = some type) :
    Stable type kept [] 0 (Reader.sector closing) :=
  .require <| .read exact_pointYX fun _ _ => .read exact_pointYX fun _ _ =>
    .read exact_boundsUpward fun _ _ => .pure (htype _ _ _) rfl (Nat.le_refl _)

theorem stable_brush : Stable .createBrushIndirect kept [] 0 Reader.brush := by
  refine .require <| .read exact_word fun style _ => .read exact_color fun c _ =>
    .read exact_word fun hatch _ => ?_
  split
  · exact .refuse
  · split
    · exact .refuse
    · exact .pure rfl rfl (Nat.le_refl _)
  · exact .pure rfl rfl (Nat.le_refl _)

end Fixed

/-! ### Readers of lists -/

section Lists

variable {opcode : UInt16} {defect : Defect}

theorem countWord_toNat (n : UInt16) : countWord n.toNat opcode defect = .ok n := by
  rw [countWord, if_pos n.toNat_lt, UInt16.ofNat_toNat]

theorem stable_pointFigure {figure : PointFigure}
    (htype : ∀ points, (Action.pointFigure figure points).type? = some type) :
    Stable type kept [] 0 (Reader.pointFigure figure) := by
  refine .require <| .read exact_word fun count _ => .require <|
    .read (exact_points count.toNat) fun points hlength => .pure (htype points) ?_ ?_
  · rw [Action.fields, pointCount, hlength, countWord_toNat]
    rfl
  · simp [Field.words, hlength]
    omega

/-- The counts of rings that were read by their counts. -/
theorem mapM_pointCount {rings : List (List (Point Int16))} {counts : List UInt16}
    (h : rings.map List.length = counts.map UInt16.toNat) :
    rings.mapM (fun ring => pointCount ring.length opcode) = .ok counts := by
  induction rings generalizing counts with
  | nil =>
    obtain rfl := List.map_eq_nil_iff.mp h.symm
    rfl
  | cons ring rings ih =>
    cases counts with
    | nil => cases h
    | cons count counts =>
      obtain ⟨hlength, hrest⟩ := List.cons_eq_cons.mp h
      rw [List.mapM_cons, hlength, pointCount, countWord_toNat, ih hrest]
      rfl

theorem stable_polygons : Stable .polyPolygon kept [] 0 Reader.polygons := by
  -- Three reads in a row: how many rings, how many points in each, and the points themselves.
  refine .require <| .read exact_word fun count _ => .require <|
    .read (exact_words count.toNat) fun counts hcounts => .require <|
      .read (exact_rings _) fun rings hrings => .pure rfl ?_ ?_
  · have hlength : rings.length = count.toNat := by
      rw [← hcounts, ← List.length_map UInt16.toNat, ← hrings, List.length_map]
    rw [Action.fields, mapM_pointCount hrings, pointCount, hlength, countWord_toNat]
    rfl
  · have hpoints : rings.flatten.length = (counts.map UInt16.toNat).foldr (· + ·) 0 := by
      rw [List.length_flatten, hrings]
      rfl
    simp [Field.words, hcounts, hpoints]
    omega

/-- A first word and a list of colours, whatever action is made of them. -/
theorem stable_entries {make : UInt16 → List Color → Action}
    (htype : ∀ start entries, (make start entries).type? = some type)
    (hfields : ∀ start entries, (make start entries).fields =
      entryFields start entries (make start entries).opcode) :
    Stable type kept [] 0 (do let p ← Reader.entries; return make p.1 p.2) := by
  unfold Reader.entries
  simp only [bind_assoc, pure_bind]
  refine .require <| .read exact_word fun start _ => .read exact_word fun count _ => .require <|
    .read (exact_colors count.toNat) fun entries hlength => .pure (htype start entries) ?_ ?_
  · rw [hfields, entryFields, hlength, countWord_toNat]
    rfl
  · simp [Field.words, hlength]
    omega

theorem stable_region : Stable .createRegion kept [] 0 Reader.region := by
  refine .require <| .read exact_int16 fun _ _ => .read exact_int16 fun _ _ =>
    .read exact_long fun _ _ => .read exact_int16 fun _ _ => .read exact_int16 fun _ _ =>
      .read exact_int16 fun _ _ => .read exact_boundsDownward fun _ _ => ?_
  exact .restWords (fun _ => rfl) (fun _ => rfl) (Nat.le_refl _)

theorem stable_escape (hkept : ¬ kept) :
    Stable .escape kept [] 0 RecordType.escape.reader := by
  refine .require <| .read exact_word fun function _ => .read exact_word fun length _ =>
    .bytes hkept fun data hlength => .pure rfl ?_ ?_
  · rw [Action.fields, hlength, countWord_toNat]
    rfl
  · simp [Field.words]

end Lists

end Reader

end WindowsMetafile
