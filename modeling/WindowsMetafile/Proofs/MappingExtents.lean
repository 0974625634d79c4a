import WindowsMetafile.Proofs.FullRun
import WindowsMetafile.Proofs.Reencoding

/-!
# Extents of the mapping

Four types of records act on the extents of the window and of the viewport: each end has one that
sets its extent and one that multiplies it by fractions. An extent is what the last record that has
set it gave, multiplied by all fractions after that one in turn. Each product is exact in 64 bits,
no fraction has a denominator of zero, and what is kept fits into 32 bits.

## Main definitions

* `Device.extent` — the extent of one end of the mapping
* `Action.OnExtent`, `Action.editExtent` — the actions on an extent, and what they make of it
* `Action.factors?` — the fractions that an action multiplies an extent by
* `ScalesSafely` — a multiplication that stays within 64 bits and has a quotient

## Main results

* `Action.foldl_after_of_onExtent` — actions on extents change nothing else
* `Action.foldl_editExtent` — an extent that is not set again is multiplied by each fraction
* `Action.fits_foldl_editExtent` — extents stay within 32 bits
* `Record.decode_of_zeroDenominator` — a fraction with a denominator of zero is refused
* `Player.finish_extents` — the extents after a replay of such records
-/

namespace WindowsMetafile

/-! ### One axis -/

/-- A value can be multiplied by a fraction in 64 bits: the product fits, and so does its quotient,
which there is. -/
structure ScalesSafely (value : Int) (numerator denominator : Int16) : Prop where
  denominator_ne_zero : denominator.toInt ≠ 0
  le_product : -9223372036854775808 ≤ value * numerator.toInt
  product_le : value * numerator.toInt ≤ 9223372036854775807
  le_quotient : -9223372036854775808 ≤ (value * numerator.toInt).tdiv denominator.toInt
  quotient_le : (value * numerator.toInt).tdiv denominator.toInt ≤ 9223372036854775807

/-- Both sides are 32-bit numbers. -/
structure Extent.Fits (extent : Extent) : Prop where
  le_width : -2147483648 ≤ extent.width
  width_le : extent.width ≤ 2147483647
  le_height : -2147483648 ≤ extent.height
  height_le : extent.height ≤ 2147483647

/-- A product of a 32-bit and a 16-bit number is far from the ends of 64 bits. -/
theorem scalesSafely {value : Int} {numerator denominator : Int16} (hlow : -2147483648 ≤ value)
    (hhigh : value ≤ 2147483647) (hdenominator : denominator ≠ 0) :
    ScalesSafely value numerator denominator := by
  have hnumerator : numerator.toInt.natAbs ≤ 32768 := by
    have := numerator.le_toInt
    have := numerator.toInt_lt
    omega
  have hproduct : (value * numerator.toInt).natAbs ≤ 2147483648 * 32768 := by
    rw [Int.natAbs_mul]
    exact Nat.mul_le_mul (by omega) hnumerator
  have hquotient := Int.natAbs_tdiv_le_natAbs (value * numerator.toInt) denominator.toInt
  refine ⟨fun hzero => hdenominator (Int16.toInt_inj.mp hzero), ?_, ?_, ?_, ?_⟩ <;> omega

namespace Extent

theorem fits_ofPoint (point : Point Int16) : (ofPoint point).Fits := by
  have := point.x.le_toInt
  have := point.x.toInt_lt
  have := point.y.le_toInt
  have := point.y.toInt_lt
  refine ⟨?_, ?_, ?_, ?_⟩ <;> simp only [ofPoint] <;> omega

/-- What is kept of a product is cut to 32 bits. -/
theorem fits_scale (extent : Extent) (factors : ExtentFactors) : (extent.scale factors).Fits := by
  refine ⟨?_, ?_, ?_, ?_⟩ <;> simp only [scale, scaleAxis] <;> omega

/-- The two axes are multiplied apart. -/
theorem foldl_scale (factors : List ExtentFactors) (extent : Extent) :
    factors.foldl scale extent =
      ⟨factors.foldl (fun value f => scaleAxis value f.xNumerator f.xDenominator) extent.width,
        factors.foldl (fun value f => scaleAxis value f.yNumerator f.yDenominator)
          extent.height⟩ := by
  induction factors generalizing extent with
  | nil => rfl
  | cons first factors ih =>
    rw [List.foldl_cons, ih]
    rfl

end Extent

/-! ### Actions on extents -/

/-- The opposite end of the mapping. -/
def MappingSide.other : MappingSide → MappingSide
  | .window => .viewport
  | .viewport => .window

/-- The type of the records that multiply the extent of an end. -/
def MappingSide.scaleType : MappingSide → RecordType
  | .window => .scaleWindowExt
  | .viewport => .scaleViewportExt

/-- The types of the records that act on the extent of an end. -/
def MappingSide.extentTypes : MappingSide → List RecordType
  | .window => [.setWindowExt, .scaleWindowExt]
  | .viewport => [.setViewportExt, .scaleViewportExt]

/-- The types of the records that act on extents. -/
def extentTypes : List RecordType :=
  MappingSide.extentTypes .window ++ MappingSide.extentTypes .viewport

/-- The extent of one end of the mapping. -/
def Device.extent (device : Device) : MappingSide → Option Extent
  | .window => device.windowExtent
  | .viewport => device.viewportExtent

/-- A device context with other extents. -/
def Device.withExtents (device : Device) (extents : MappingSide → Option Extent) : Device :=
  { device with windowExtent := extents .window, viewportExtent := extents .viewport }

namespace Action

variable {decoder : BitmapDecoder} {scale : Scale} {context : Context}
variable {action : Action} {actions : List Action} {side : MappingSide}

/-- An action sets or multiplies the extent of one end. -/
inductive OnExtent : MappingSide → Action → Prop
  | set (side : MappingSide) (point : Point Int16) : OnExtent side (.editMapping side .setExtent point)
  | multiply (side : MappingSide) (factors : ExtentFactors) : OnExtent side (.scaleExtent side factors)

/-- The fractions that an action multiplies the extent of an end by. -/
def factors? (side : MappingSide) : Action → Option ExtentFactors
  | .scaleExtent other factors => if other = side then some factors else none
  | _ => none

/-- What an action makes of the extent of an end. -/
def editExtent (side : MappingSide) (extent : Option Extent) : Action → Option Extent
  | .editMapping other .setExtent point => if other = side then some (.ofPoint point) else extent
  | .scaleExtent other factors => if other = side then extent.map (·.scale factors) else extent
  | _ => extent

/-- The records of the types of an end ask for actions on its extent. -/
theorem onExtent_of_type? (h : ∃ type ∈ side.extentTypes, action.type? = some type) :
    action.OnExtent side := by
  obtain ⟨type, hmem, htype⟩ := h
  unfold type? at htype
  cases side
  all_goals
    split at htype
    all_goals first
      | constructor
      | cases htype <;> exact absurd hmem (by decide)

theorem exists_onExtent_of_type? (h : ∃ type ∈ extentTypes, action.type? = some type) :
    ∃ side, action.OnExtent side := by
  obtain ⟨type, hmem, htype⟩ := h
  cases List.mem_append.mp hmem with
  | inl hwindow => exact ⟨.window, onExtent_of_type? ⟨type, hwindow, htype⟩⟩
  | inr hviewport => exact ⟨.viewport, onExtent_of_type? ⟨type, hviewport, htype⟩⟩

/-- An action on an extent changes the extents as it says, nothing else, and cannot fail. -/
theorem OnExtent.next_eq (h : action.OnExtent side) :
    action.next decoder scale context = .ok (context.withDevice fun device =>
      device.withExtents fun side => action.editExtent side (device.extent side)) := by
  cases h <;> cases side <;> rfl

/-- An action on the extent of one end leaves that of the other. -/
theorem OnExtent.editExtent_other (h : action.OnExtent side) (extent : Option Extent) :
    action.editExtent side.other extent = extent := by
  cases h <;> cases side <;> rfl

/-- Actions on extents that follow each other change the extents only, each on its own. -/
theorem foldl_after_of_onExtent (h : ∀ action ∈ actions, ∃ side, action.OnExtent side)
    (context : Context) :
    actions.foldl (Action.after decoder scale) context = context.withDevice fun device =>
      device.withExtents fun side =>
        actions.foldl (fun extent action => action.editExtent side extent)
          (device.extent side) := by
  induction actions generalizing context with
  | nil => rfl
  | cons action actions ih =>
    obtain ⟨side, hside⟩ := h action List.mem_cons_self
    rw [List.foldl_cons, after, hside.next_eq]
    exact ih (fun later hlater => h later (List.mem_cons_of_mem _ hlater)) _

theorem editExtent_of_factors? {factors : ExtentFactors} (h : action.factors? side = some factors)
    (extent : Option Extent) : action.editExtent side extent = extent.map (·.scale factors) := by
  cases action with
  | scaleExtent other given =>
    rw [factors?] at h
    split at h
    · rename_i heq
      cases h
      rw [editExtent, if_pos heq]
    · cases h
  | _ => cases h

/-- An action leaves the extent of an end that it neither sets nor multiplies. -/
theorem editExtent_of_untouched (hfactors : action.factors? side = none)
    (hset : ∀ point, action ≠ .editMapping side .setExtent point) (extent : Option Extent) :
    action.editExtent side extent = extent := by
  cases action with
  | editMapping other edit point =>
    cases edit with
    | setExtent =>
      refine if_neg fun heq => hset point ?_
      rw [heq]
    | _ => rfl
  | scaleExtent other given =>
    rw [factors?] at hfactors
    split at hfactors
    · cases hfactors
    · rename_i hne
      exact if_neg hne
  | _ => rfl

/-- An extent that is not set again is multiplied by each fraction in turn. -/
theorem foldl_editExtent (hset : ∀ point, .editMapping side .setExtent point ∉ actions)
    (extent : Option Extent) :
    actions.foldl (fun extent action => action.editExtent side extent) extent =
      extent.map fun extent => (actions.filterMap (factors? side)).foldl Extent.scale extent := by
  induction actions generalizing extent with
  | nil => cases extent <;> rfl
  | cons action actions ih =>
    have hlater (point : Point Int16) : .editMapping side .setExtent point ∉ actions :=
      fun hmem => hset point (List.mem_cons_of_mem _ hmem)
    rw [List.foldl_cons, ih hlater]
    cases hfactors : action.factors? side with
    | some factors =>
      rw [editExtent_of_factors? hfactors, List.filterMap_cons_some hfactors, Option.map_map]
      rfl
    | none =>
      have hunset (point : Point Int16) : action ≠ .editMapping side .setExtent point :=
        fun heq => hset point (heq ▸ List.mem_cons_self)
      rw [editExtent_of_untouched hfactors hunset, List.filterMap_cons_none hfactors]

/-- Whatever is made of an extent fits into 32 bits if the extent does. -/
theorem fits_editExtent {extent : Option Extent} (h : ∀ e ∈ extent, e.Fits) :
    ∀ e ∈ action.editExtent side extent, e.Fits := by
  unfold editExtent
  split
  · split
    · rintro e ⟨⟩
      exact Extent.fits_ofPoint _
    · exact h
  · split
    · intro e he
      obtain ⟨e, -, rfl⟩ := Option.map_eq_some_iff.mp he
      exact Extent.fits_scale _ _
    · exact h
  · exact h

theorem fits_foldl_editExtent {extent : Option Extent} (h : ∀ e ∈ extent, e.Fits) :
    ∀ e ∈ actions.foldl (fun extent action => action.editExtent side extent) extent, e.Fits :=
  List.foldlRecOn (motive := fun extent => ∀ e ∈ extent, Extent.Fits e) actions _ h
    fun _ hfits _ _ => fits_editExtent hfits

end Action

/-! ### Records with factors -/

/-- Factors that are read have denominators other than zero, and stand in the words in front. -/
theorem Reader.factors_of_ok {cursor last : Cursor} {factors : ExtentFactors}
    (h : Reader.factors cursor = .ok (factors, last)) :
    factors.xDenominator ≠ 0 ∧ factors.yDenominator ≠ 0 ∧
      cursor.rest = writtenWords factors.fields ++ last.rest := by
  obtain ⟨_, first, hrequire, h⟩ := bind_eq_ok.mp h
  obtain ⟨-, rfl⟩ := require_eq_ok.mp hrequire
  obtain ⟨yDenominator, second, hread, h⟩ := bind_eq_ok.mp h
  obtain ⟨-, hfirst, -⟩ := exact_int16.sound hread
  obtain ⟨yNumerator, third, hread, h⟩ := bind_eq_ok.mp h
  obtain ⟨-, hsecond, -⟩ := exact_int16.sound hread
  obtain ⟨xDenominator, fourth, hread, h⟩ := bind_eq_ok.mp h
  obtain ⟨-, hthird, -⟩ := exact_int16.sound hread
  obtain ⟨xNumerator, fifth, hread, h⟩ := bind_eq_ok.mp h
  obtain ⟨-, hfourth, -⟩ := exact_int16.sound hread
  split at h
  · cases h
  · rename_i hzero
    obtain ⟨rfl, rfl⟩ := pure_eq_ok.mp h
    refine ⟨fun hx => hzero (.inl hx), fun hy => hzero (.inr hy), ?_⟩
    rw [hfirst, hsecond, hthird, hfourth]
    rfl

namespace Record

variable {record : Record} {side : MappingSide} {command : Command}

/-- What is read from a record that multiplies an extent. -/
theorem factors_of_decode (htype : RecordType.ofOpcode? record.opcode = some side.scaleType)
    (h : record.decode = .ok command) :
    ∃ factors rest, command.action = .scaleExtent side factors ∧ factors.xDenominator ≠ 0 ∧
      factors.yDenominator ≠ 0 ∧ record.params = writtenWords factors.fields ++ rest := by
  obtain ⟨action, hrun, rfl⟩ := (decode_eq_ok htype).mp h
  have hread : (Reader.factors >>= fun factors =>
      pure (Action.scaleExtent side factors) : Reader Action).run record = .ok action := by
    cases side <;> exact hrun
  obtain ⟨factors, last, hfactors, rfl⟩ := Reader.of_run_bind_pure hread
  obtain ⟨hx, hy, hwords⟩ := Reader.factors_of_ok hfactors
  exact ⟨factors, last.rest, rfl, hx, hy, hwords⟩

/-- A record that is read as a multiplication has two denominators other than zero. -/
theorem denominators_of_action? {factors : ExtentFactors}
    (h : record.action? = some (.scaleExtent side factors)) :
    factors.xDenominator ≠ 0 ∧ factors.yDenominator ≠ 0 := by
  obtain ⟨command, hdecode, haction⟩ := action?_eq_some_iff.mp h
  have htype : RecordType.ofOpcode? record.opcode = some side.scaleType := by
    rw [← type?_of_decode hdecode, haction]
    cases side <;> rfl
  obtain ⟨given, -, hgiven, hx, hy, -⟩ := factors_of_decode htype hdecode
  cases haction.symm.trans hgiven
  exact ⟨hx, hy⟩

/-- A record with a denominator of zero is refused. The vertical denominator comes first. -/
theorem decode_of_zeroDenominator
    (htype : RecordType.ofOpcode? record.opcode = some side.scaleType)
    (hzero : record.params[0]? = some 0 ∨ record.params[2]? = some 0) :
    ∃ fault, record.decode = .error fault := by
  cases hdecode : record.decode with
  | error fault => exact ⟨fault, rfl⟩
  | ok command =>
    obtain ⟨factors, rest, -, hx, hy, hparams⟩ := factors_of_decode htype hdecode
    rw [hparams] at hzero
    cases hzero with
    | inl hfirst =>
      exact absurd (congrArg UInt16.toInt16 (Option.some.inj hfirst)) hy
    | inr hthird =>
      exact absurd (congrArg UInt16.toInt16 (Option.some.inj hthird)) hx

end Record

/-! ### Replays -/

namespace Player

variable {player : Player} {record : Record} {records done : List Record} {side : MappingSide}

/-- Records that act on extents cannot fail once they are read. -/
theorem ReachesAll.of_extentTypes (hlimit : ∀ limit ∈ player.limit, records.length ≤ limit)
    (htypes : ∀ record ∈ records, record.HasType extentTypes)
    (hfaults : player.policy = .proceed ∨ ∀ record ∈ records, record.action?.isSome) :
    player.ReachesAll records := by
  refine .of_infallible hlimit htypes hfaults (by decide) fun action context htype => ?_
  obtain ⟨side, hside⟩ := Action.exists_onExtent_of_type? htype
  exact ⟨_, hside.next_eq⟩

/-- The extents after a replay, in terms of the actions that could be read. -/
theorem finish_eq_withExtents (hreaches : player.ReachesAll records)
    (htypes : ∀ record ∈ records, record.HasType extentTypes) (context : Context) :
    player.finish context records = context.withDevice fun device =>
      device.withExtents fun side => (records.filterMap Record.action?).foldl
        (fun extent action => action.editExtent side extent) (device.extent side) := by
  rw [finish_eq_foldl hreaches, Action.foldl_after_of_onExtent]
  intro action haction
  exact Action.exists_onExtent_of_type? (Record.type?_of_mem_actions htypes haction)

theorem extent_finish (hreaches : player.ReachesAll records)
    (htypes : ∀ record ∈ records, record.HasType extentTypes) (side : MappingSide) :
    (player.finish .fresh records).device.extent side =
      (records.filterMap Record.action?).foldl
        (fun extent action => action.editExtent side extent) none := by
  rw [finish_eq_withExtents hreaches htypes]
  cases side <;> rfl

/-- Whatever records have made of an extent fits into 32 bits. -/
theorem fits_extent_finish (hreaches : player.ReachesAll records)
    (htypes : ∀ record ∈ records, record.HasType extentTypes) :
    ∀ extent ∈ (player.finish .fresh records).device.extent side, extent.Fits := by
  rw [extent_finish hreaches htypes]
  exact Action.fits_foldl_editExtent fun _ hnone => absurd hnone (Option.not_mem_none _)

/-- A record for one end leaves the extent of the other. -/
theorem extent_other_finish (hreaches : player.ReachesAll (done ++ [record]))
    (htypes : ∀ reached ∈ done ++ [record], reached.HasType extentTypes)
    (hside : record.HasType side.extentTypes) :
    (player.finish .fresh (done ++ [record])).device.extent side.other =
      (player.finish .fresh done).device.extent side.other := by
  have hdone : ∀ earlier ∈ done, earlier.HasType extentTypes := fun earlier hearlier =>
    htypes earlier (List.mem_append_left _ hearlier)
  rw [extent_finish hreaches htypes, extent_finish (hreaches.of_prefix (List.prefix_append ..)) hdone,
    List.filterMap_append, List.foldl_append]
  cases hread : record.action? with
  | none => rw [List.filterMap_cons_none hread, List.filterMap_nil, List.foldl_nil]
  | some action =>
    rw [List.filterMap_cons_some hread, List.filterMap_nil, List.foldl_cons, List.foldl_nil]
    exact (Action.onExtent_of_type? (hside.type?_of_action? hread)).editExtent_other _

end Player

end WindowsMetafile
