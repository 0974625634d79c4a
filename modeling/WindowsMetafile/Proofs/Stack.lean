import Mathlib.Data.List.Infix
import WindowsMetafile.Proofs.Operation

/-!
# The stack of device contexts

Device contexts are saved on top of others and never change while they are saved. Whatever happens
in a session, the saved ones that were there stay at the bottom of the stack as long as it does not
get lower than they are. So the newest of them can be brought back by its number from either end.

## Main definitions

* `Session.Event`, `Session.run` — operations and records in any order

## Main results

* `Context.restore_of_append` — both numbers of a saved device context bring it back
* `Context.restore_eq_error_iff` — the numbers that name no saved device context
* `Context.suffix_saved_after`, `Session.suffix_saved_run` — what stays on the stack
* `Session.restore_of_run` — a device context comes back as it was saved
-/

namespace WindowsMetafile

namespace Context

variable {context : Context} {device : Device} {newer older base : List Device} {id : Int16}

/-! ### Numbers of saved device contexts -/

/-- The place that a number stands for, counted from the oldest saved device context on. -/
def place (context : Context) (id : Int16) : Int :=
  if 0 < id then id.toInt - 1 else context.depth + id.toInt

theorem place_of_pos (context : Context) (h : 0 < id.toInt) : context.place id = id.toInt - 1 :=
  if_pos (Int16.lt_iff_toInt_lt.mpr (by rwa [Int16.toInt_zero]))

theorem place_of_nonpos (context : Context) (h : id.toInt ≤ 0) :
    context.place id = context.depth + id.toInt :=
  if_neg fun hpos => absurd (Int16.lt_iff_toInt_lt.mp hpos) (by rw [Int16.toInt_zero]; omega)

theorem restore_of_place (hid : id.toInt ≠ 0)
    (hplace : context.place id < 0 ∨ context.depth ≤ context.place id) :
    context.restore id = .error (.missingState id context.depth) := by
  have hzero : id ≠ 0 := fun h => hid (by rw [h]; rfl)
  unfold restore
  rw [if_neg hzero]
  exact if_pos hplace

/-- A saved device context has a number from the oldest one and a number from the newest one, and
both bring it back. -/
theorem restore_of_append (hsaved : context.saved = newer ++ device :: older)
    (hid : id.toInt = older.length + 1 ∨ id.toInt = older.length - context.depth) :
    context.restore id = .ok { context with device, saved := older } := by
  have hdepth : context.depth = newer.length + 1 + older.length := by
    rw [depth, hsaved, List.length_append, List.length_cons]
    omega
  have hplace : context.place id = older.length := by
    rcases hid with hid | hid
    · rw [context.place_of_pos (by omega)]
      omega
    · rw [context.place_of_nonpos (by omega)]
      omega
  have hzero : id ≠ 0 := by
    rintro rfl
    rw [Int16.toInt_zero] at hid
    omega
  have hnewer : ((context.depth : Int) - 1 - older.length).toNat = newer.length := by
    omega
  -- Restoring tests the place of the number, and drops the device contexts above that place.
  unfold place at hplace
  unfold restore
  rw [if_neg hzero]
  dsimp only
  rw [hplace, if_neg (by omega), hnewer, hsaved, List.drop_left]

/-- Every place on the stack holds a device context. -/
theorem exists_saved (context : Context) (place : Nat) (h : place < context.depth) :
    ∃ newer device older, context.saved = newer ++ device :: older ∧ older.length = place := by
  unfold depth at h
  let above := context.saved.length - 1 - place
  have habove : above < context.saved.length := by omega
  refine ⟨context.saved.take above, context.saved[above], context.saved.drop (above + 1), ?_, ?_⟩
  · rw [← List.drop_eq_getElem_cons habove, List.take_append_drop]
  · rw [List.length_drop]
    omega

/-- What a number can do: nothing when it is zero, fail when it is beyond either end of the stack,
and bring back a saved device context otherwise. -/
theorem restore_cases (context : Context) (id : Int16) :
    id = 0 ∨
      ((context.depth < id.toInt ∨ id.toInt < -context.depth) ∧
        context.restore id = .error (.missingState id context.depth)) ∨
      ∃ newer device older, context.saved = newer ++ device :: older ∧
        (id.toInt = older.length + 1 ∨ id.toInt = older.length - context.depth) ∧
        context.restore id = .ok { context with device, saved := older } := by
  by_cases hzero : id.toInt = 0
  · exact .inl (Int16.toInt_inj.mp hzero)
  refine .inr ?_
  by_cases hpos : 0 < id.toInt
  · have hplace := context.place_of_pos hpos
    by_cases hbeyond : context.depth < id.toInt
    · exact .inl ⟨.inl hbeyond, restore_of_place hzero (by omega)⟩
    · obtain ⟨newer, device, older, hsaved, holder⟩ :=
        context.exists_saved (id.toInt.toNat - 1) (by omega)
      have hid : id.toInt = older.length + 1 := by omega
      exact .inr ⟨newer, device, older, hsaved, .inl hid, restore_of_append hsaved (.inl hid)⟩
  · have hplace := context.place_of_nonpos (Int.not_lt.mp hpos)
    by_cases hbeyond : id.toInt < -context.depth
    · exact .inl ⟨.inr hbeyond, restore_of_place hzero (by omega)⟩
    · obtain ⟨newer, device, older, hsaved, holder⟩ :=
        context.exists_saved (context.depth + id.toInt).toNat (by omega)
      have hid : id.toInt = older.length - context.depth := by omega
      exact .inr ⟨newer, device, older, hsaved, .inr hid, restore_of_append hsaved (.inr hid)⟩

/-- A number is a fault just when it is beyond either end of the stack. -/
theorem restore_eq_error_iff {fault : Fault} :
    context.restore id = .error fault ↔
      fault = .missingState id context.depth ∧
        (context.depth < id.toInt ∨ id.toInt < -context.depth) := by
  rcases context.restore_cases id with
    rfl | ⟨hbeyond, hfails⟩ | ⟨newer, device, older, hsaved, hid, hfound⟩
  · refine iff_of_false (fun hfails => by cases hfails) fun ⟨_, hbeyond⟩ => ?_
    rw [Int16.toInt_zero] at hbeyond
    omega
  · rw [hfails]
    exact ⟨fun h => ⟨(Except.error.inj h).symm, hbeyond⟩, fun ⟨hfault, _⟩ => by rw [hfault]⟩
  · rw [hfound]
    refine iff_of_false (fun hfails => by cases hfails) fun ⟨_, hbeyond⟩ => ?_
    have hdepth : context.depth = newer.length + (older.length + 1) := by
      simp only [depth, hsaved, List.length_append, List.length_cons]
    omega

theorem after_restore_cases (context : Context) (id : Int16) :
    context.after (.restore id) = context ∨
      ∃ newer device older, context.saved = newer ++ device :: older ∧
        context.after (.restore id) = { context with device, saved := older } := by
  rcases context.restore_cases id with rfl | ⟨-, hfails⟩ | ⟨newer, device, older, hsaved, -, hfound⟩
  · exact .inl rfl
  · exact .inl (after_of_error hfails)
  · exact .inr ⟨newer, device, older, hsaved, after_of_ok hfound⟩

theorem objects_after_restore (context : Context) (id : Int16) :
    (context.after (.restore id)).objects = context.objects := by
  rcases context.after_restore_cases id with hsame | ⟨_, _, _, -, hfound⟩
  · rw [hsame]
  · rw [hfound]

/-! ### What stays on the stack -/

/-- An operation puts a device context on the stack, or takes some off it; it never changes one that
stays there. -/
theorem saved_after (context : Context) (operation : Operation) :
    (context.after operation).saved <:+ context.saved ∨
      context.saved <:+ (context.after operation).saved := by
  cases operation with
  | save => exact .inr (List.suffix_cons _ _)
  | restore id =>
    refine .inl ?_
    rcases context.after_restore_cases id with hsame | ⟨newer, device, older, hsaved, hfound⟩
    · rw [hsame]
    · rw [hfound, hsaved]
      exact (List.suffix_cons _ _).trans (List.suffix_append _ _)
  | create object =>
    refine .inl ?_
    rcases context.after_create_cases object with ⟨handle, hcreated⟩ | ⟨-, hsame⟩
    · rw [hcreated.saved]
    · rw [hsame]
  | select | delete | editPalette | change => exact .inl (by simp)

/-- What is at the bottom of the stack stays there, unless an operation leaves less than that. -/
theorem suffix_saved_after {operation : Operation} (h : base <:+ context.saved)
    (hdepth : base.length ≤ (context.after operation).depth) :
    base <:+ (context.after operation).saved := by
  rcases context.saved_after operation with hless | hmore
  · exact List.suffix_of_suffix_length_le h hless hdepth
  · exact h.trans hmore

end Context

/-! ### Sessions -/

namespace Session

/-- Something that happens in a session. -/
inductive Event
  /-- A record is replayed. -/
  | record (player : Player) (record : Record)
  /-- The context is operated on by itself. -/
  | operation (operation : Context.Operation)

/-- The session after an event. -/
def after (session : Session) : Event → Session
  | .record player record => ((player.playRecord record).run.run session).2
  | .operation operation => { session with context := session.context.after operation }

/-- The session after some events. -/
def run (session : Session) (events : List Event) : Session :=
  events.foldl after session

/-- An event acts on the context by one operation. -/
theorem context_after (session : Session) (event : Event) :
    ∃ operation, (session.after event).context = session.context.after operation := by
  cases event with
  | record player record =>
    obtain ⟨operation, hafter⟩ := player.exists_after_eq record session.context
    exact ⟨operation, (player.context_playRecord record session).trans hafter⟩
  | operation operation => exact ⟨operation, rfl⟩

/-- What is at the bottom of the stack stays there as long as the stack does not get lower. -/
theorem suffix_saved_run {base : List Device} (session : Session) (events : List Event)
    (h : base <:+ session.context.saved)
    (hdepth : ∀ done, done <+: events → base.length ≤ (session.run done).context.depth) :
    base <:+ (session.run events).context.saved := by
  -- The stack stays above its bottom after the first event, and after every event that follows.
  induction events generalizing session with
  | nil => exact h
  | cons event events ih =>
    refine ih (session.after event) ?_ fun done hdone => ?_
    · obtain ⟨operation, hafter⟩ := session.context_after event
      have hfirst : base.length ≤ (session.after event).context.depth :=
        hdepth [event] ((List.prefix_cons_inj event).mpr (List.nil_prefix))
      rw [hafter] at hfirst ⊢
      exact Context.suffix_saved_after h hfirst
    · exact hdepth (event :: done) ((List.prefix_cons_inj event).mpr hdone)

end Session

theorem Replay.run_restoreState (decoder : BitmapDecoder) (scale : Scale) (id : Int16)
    (session : Session) :
    (perform decoder scale (.restoreState id)).run.run session =
      match session.context.restore id with
      | .ok context => (.ok (), { session with context })
      | .error fault => (.error fault, session) := by
  rw [perform, performScaled, run_context_bind]
  cases session.context.restore id <;> rfl

namespace Session

/-- A saved device context comes back as it was saved, by its number from either end, after
any events during which the stack stays above it. The stack below it comes back too, and the object
table stays as the events have left it. A number beyond either end of the stack is a fault that
changes nothing, no other number is a fault, and zero changes nothing. -/
theorem restore_of_run (start : Session) (events : List Event)
    (habove : ∀ done, done <+: events →
      start.context.depth < ((start.after (.operation .save)).run done).context.depth) :
    let last := ((start.after (.operation .save)).run events).context
    (∀ id : Int16,
      id.toInt = start.context.depth + 1 ∨ id.toInt = start.context.depth - last.depth →
      last.restore id =
        .ok ⟨start.context.device, start.context.saved, last.objects, last.fits⟩) ∧
    ∀ (decoder : BitmapDecoder) (scale : Scale) (session : Session) (id : Int16),
      let depth := session.context.depth
      let result := (Replay.perform decoder scale (.restoreState id)).run.run session
      (result = (.error (.missingState id depth), session) ↔
        depth < id.toInt ∨ id.toInt < -depth) ∧
      (result.1 = .ok () ↔ ¬ (depth < id.toInt ∨ id.toInt < -depth)) ∧
      (id = 0 → result = (.ok (), session)) := by
  intro last
  constructor
  · intro id hid
    -- The bottom of the stack is the saved device context with all that was saved before it.
    have hbottom : start.context.device :: start.context.saved <:+ last.saved :=
      suffix_saved_run _ events List.suffix_rfl habove
    obtain ⟨newer, hsaved⟩ := hbottom
    exact Context.restore_of_append hsaved.symm hid
  · intro decoder scale session id depth result
    have hresult : result = _ := Replay.run_restoreState decoder scale id session
    cases hrestore : session.context.restore id with
    | ok context =>
      have hwithin : ¬ (depth < id.toInt ∨ id.toInt < -depth) := fun hbeyond => by
        cases hrestore.symm.trans (Context.restore_eq_error_iff.mpr ⟨rfl, hbeyond⟩)
      rw [hrestore] at hresult
      have hok : result.1 = .ok () := by rw [hresult]
      refine ⟨iff_of_false (fun hfails => ?_) hwithin, iff_of_true hok hwithin, ?_⟩
      · rw [hfails] at hok
        cases hok
      · rintro rfl
        obtain rfl := Except.ok.inj hrestore
        exact hresult
    | error fault =>
      obtain ⟨rfl, hbeyond⟩ := Context.restore_eq_error_iff.mp hrestore
      rw [hrestore] at hresult
      refine ⟨iff_of_true hresult hbeyond, iff_of_false (fun hok => ?_) (not_not_intro hbeyond), ?_⟩
      · rw [hresult] at hok
        cases hok
      · rintro rfl
        cases hrestore

/-- The first of two saved device contexts comes back after text was aligned in another way, the
second one was saved, and a pen was created. -/
theorem restore_of_run_nested :
    let player : Player := ⟨.proceed, none, .identity, fun _ => .ok ⟨0, 0, []⟩⟩
    let start : Session := ⟨.fresh, .fresh⟩
    let events : List Event :=
      [.operation (.change ({ · with textAlign := 6 })), .record player ⟨0x001E, []⟩,
        .record player ⟨0x02FA, [0, 1, 0, 0, 0]⟩]
    let last := ((start.after (.operation .save)).run events).context
    (∀ done, done <+: events →
      start.context.depth < ((start.after (.operation .save)).run done).context.depth) ∧
    last.depth = 2 ∧ last.restore 1 = .ok ⟨.fresh, [], last.objects, last.fits⟩ ∧
      last.restore (-2) = .ok ⟨.fresh, [], last.objects, last.fits⟩ := by
  intro player start events last
  have habove : ∀ done, done <+: events →
      start.context.depth < ((start.after (.operation .save)).run done).context.depth := by
    intro done hdone
    rw [← List.mem_inits] at hdone
    revert done
    decide
  have hlast := (restore_of_run start events habove).1
  exact ⟨habove, rfl, hlast 1 (.inl rfl), hlast (-2) (.inr rfl)⟩

end Session

end WindowsMetafile
