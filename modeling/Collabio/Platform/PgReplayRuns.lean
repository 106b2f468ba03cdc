import Mathlib.Tactic
import Collabio.Library.Runs
import Collabio.Platform.PgJwtReplayStore

/-!
# Interleaved calls of the PostgreSQL replay guard

* `progress_step` — which rows a call has in the tables follows from how far it has
  come, and no step of another call changes them;
* `accepted_once` — however the statements of the calls are interleaved, at most one
  call for a token returns, and the events of that token are that call's.

The SELECT of `contains` plays no part in this: with it or without it, what a call
inserts is up to the primary key, which does not ask whether the entry has expired.
-/

namespace Collabio

namespace PgReplayWorld

variable {H : HashFunctions} {calls : ℕ → PgReplayCall} {world : PgReplayWorld} {i j : ℕ}

@[simp] theorem phase_enter (phase : PgReplayPhase) : (world.enter i phase).phase i = phase := by
  simp [enter]

@[simp] theorem phase_enter_ne (hne : i ≠ j) (phase : PgReplayPhase) :
    (world.enter i phase).phase j = world.phase j := by
  simp [enter, hne.symm]

/-! ## Frames -/

/-- Call `j` is where it was and has the rows it had. -/
structure Untouched (j : ℕ) (world world' : PgReplayWorld) : Prop where
  phase  : world'.phase j = world.phase j
  tokens : world'.tokens.written j = world.tokens.written j
  events : world'.events.written j = world.events.written j

theorem Untouched.refl (j : ℕ) (world : PgReplayWorld) : Untouched j world world :=
  ⟨rfl, rfl, rfl⟩

theorem Untouched.enter {world' : PgReplayWorld} (h : Untouched j world world') (hne : i ≠ j)
    (phase : PgReplayPhase) : Untouched j world (world'.enter i phase) :=
  ⟨(phase_enter_ne hne phase).trans h.phase, h.tokens, h.events⟩

theorem untouched_rollback (hne : i ≠ j) : Untouched j world (world.rollback i) := by
  refine ⟨rfl, ?_, ?_⟩
  · exact (UniqueTable.written_rollback world.tokens i j).trans (if_neg hne)
  · exact (UniqueTable.written_rollback world.events i j).trans (if_neg hne)

theorem untouched_commit (hne : i ≠ j) : Untouched j world (world.commit i) := by
  refine ⟨rfl, ?_, ?_⟩
  · exact (UniqueTable.written_commit world.tokens i j).trans (if_neg hne)
  · exact (UniqueTable.written_commit world.events i j).trans (if_neg hne)

theorem untouched_insertToken (hne : i ≠ j) : Untouched j world (world.insertToken H calls i) := by
  unfold insertToken
  split
  · exact (Untouched.refl j world).enter hne _
  · dsimp only
    split
    · exact (untouched_rollback hne).enter hne _
    · split
      · exact Untouched.refl j world
      · exact (untouched_rollback hne).enter hne _
      · rename_i tokens hinsert
        have hwritten := UniqueTable.written_insert hinsert j
        rw [if_neg hne, List.append_nil] at hwritten
        have hmid : Untouched j world { world with tokens } := ⟨rfl, hwritten, rfl⟩
        exact hmid.enter hne _

theorem untouched_insertEvent (hne : i ≠ j) {eventType : JwtReplayEventType}
    {next violated : PgReplayPhase} :
    Untouched j world (world.insertEvent H calls i eventType next violated) := by
  unfold insertEvent
  split
  · exact (untouched_rollback hne).enter hne _
  · dsimp only
    split
    · exact (untouched_rollback hne).enter hne _
    · split
      · exact Untouched.refl j world
      · exact (untouched_rollback hne).enter hne _
      · rename_i events hinsert
        have hwritten := UniqueTable.written_insert hinsert j
        rw [if_neg hne, List.append_nil] at hwritten
        have hmid : Untouched j world { world with events } := ⟨rfl, rfl, hwritten⟩
        exact hmid.enter hne _

/-- **A step of one call leaves the others' rows alone.** -/
theorem untouched_step (hne : i ≠ j) : Untouched j world (world.step H calls i) := by
  unfold step
  split
  · exact (Untouched.refl j world).enter hne _
  · exact untouched_insertToken hne
  · exact untouched_insertEvent hne
  · exact (untouched_commit hne).enter hne _
  · exact untouched_insertEvent hne
  · exact (untouched_commit hne).enter hne _
  · exact Untouched.refl j world
  · exact Untouched.refl j world

/-! ## The rows of a call -/

/-- The rows that a call has in the two tables, by how far it has come. -/
inductive Progress (H : HashFunctions) (i : ℕ) (call : PgReplayCall) :
    PgReplayPhase → List (TableRow JwtReplayToken) → List (TableRow JwtReplayEvent) → Prop where
  | selecting : Progress H i call .selecting [] []
  | insertingToken : Progress H i call .insertingToken [] []
  | insertingEvent (expiresAtUtc : Datetime.DateTime) :
      Progress H i call .insertingEvent [⟨i, call.token H expiresAtUtc, false⟩] []
  | committing (expiresAtUtc expiresAtUtc' : Datetime.DateTime) :
      Progress H i call .committing [⟨i, call.token H expiresAtUtc, false⟩]
        [⟨i, call.event H .accepted expiresAtUtc', false⟩]
  | returned (expiresAtUtc expiresAtUtc' : Datetime.DateTime) :
      Progress H i call .returned [⟨i, call.token H expiresAtUtc, true⟩]
        [⟨i, call.event H .accepted expiresAtUtc', true⟩]
  | insertingReplay : Progress H i call .insertingReplay [] []
  | committingReplay (expiresAtUtc : Datetime.DateTime) :
      Progress H i call .committingReplay [] [⟨i, call.event H .replayed expiresAtUtc, false⟩]
  | detected (exn : Exn) (expiresAtUtc : Datetime.DateTime) :
      Progress H i call (.raised exn) [] [⟨i, call.event H .replayed expiresAtUtc, true⟩]
  | raised (exn : Exn) : Progress H i call (.raised exn) [] []

/-- Every call has made the progress that its phase says. -/
def InProgress (H : HashFunctions) (calls : ℕ → PgReplayCall) (world : PgReplayWorld) : Prop :=
  ∀ i, Progress H i (calls i) (world.phase i) (world.tokens.written i) (world.events.written i)

theorem inProgress_empty : InProgress H calls {} := fun _ => Progress.selecting

/-- Where call `i` stands, and the rows it has. -/
structure Standing (world : PgReplayWorld) (i : ℕ) (phase : PgReplayPhase)
    (tokens : List (TableRow JwtReplayToken)) (events : List (TableRow JwtReplayEvent)) : Prop where
  phase  : world.phase i = phase
  tokens : world.tokens.written i = tokens
  events : world.events.written i = events

section

variable {phase : PgReplayPhase} {tokens : List (TableRow JwtReplayToken)}
  {events : List (TableRow JwtReplayEvent)}

theorem standing_self (world : PgReplayWorld) (i : ℕ) :
    world.Standing i (world.phase i) (world.tokens.written i) (world.events.written i) :=
  ⟨rfl, rfl, rfl⟩

theorem Standing.enter (h : world.Standing i phase tokens events) (phase' : PgReplayPhase) :
    (world.enter i phase').Standing i phase' tokens events :=
  ⟨phase_enter phase', h.tokens, h.events⟩

theorem Standing.rollback (h : world.Standing i phase tokens events) :
    (world.rollback i).Standing i phase (tokens.filter (·.committed))
      (events.filter (·.committed)) := by
  refine ⟨h.phase, ?_, ?_⟩
  · rw [← h.tokens]
    exact (UniqueTable.written_rollback world.tokens i i).trans (if_pos rfl)
  · rw [← h.events]
    exact (UniqueTable.written_rollback world.events i i).trans (if_pos rfl)

theorem Standing.commit (h : world.Standing i phase tokens events) :
    (world.commit i).Standing i phase (tokens.map fun row => { row with committed := true })
      (events.map fun row => { row with committed := true }) := by
  refine ⟨h.phase, ?_, ?_⟩
  · rw [← h.tokens]
    exact (UniqueTable.written_commit world.tokens i i).trans (if_pos rfl)
  · rw [← h.events]
    exact (UniqueTable.written_commit world.events i i).trans (if_pos rfl)

/-- The call's progress is that of where it stands. -/
theorem Standing.progress {call : PgReplayCall} (h : world.Standing i phase tokens events)
    (hprogress : Progress H i call phase tokens events) :
    Progress H i call (world.phase i) (world.tokens.written i) (world.events.written i) := by
  rwa [h.phase, h.tokens, h.events]

end

/-- The INSERT of the token: the call has its row, or waits, or has none. -/
theorem progress_insertToken (h : world.Standing i .insertingToken [] []) :
    Progress H i (calls i) ((world.insertToken H calls i).phase i)
      ((world.insertToken H calls i).tokens.written i)
      ((world.insertToken H calls i).events.written i) := by
  unfold insertToken
  split
  · exact (h.enter _).progress (Progress.raised _)
  · rename_i expiresAtUtc _
    dsimp only
    split
    · exact (h.rollback.enter _).progress (Progress.raised _)
    · split
      · exact h.progress Progress.insertingToken
      · exact (h.rollback.enter _).progress Progress.insertingReplay
      · rename_i inserted hinsert
        have hwritten := UniqueTable.written_insert hinsert i
        rw [h.tokens, if_pos rfl, List.nil_append] at hwritten
        have hmid : Standing { world with tokens := inserted } i .insertingToken
          [⟨i, (calls i).token H expiresAtUtc, false⟩] [] := ⟨h.phase, hwritten, h.events⟩
        exact (hmid.enter _).progress (Progress.insertingEvent expiresAtUtc)

/-- The INSERT of an event. What is rolled back on the way is gone. -/
theorem progress_insertEvent {phase next violated : PgReplayPhase} {eventType : JwtReplayEventType}
    {tokens : List (TableRow JwtReplayToken)} (h : world.Standing i phase tokens [])
    (hwait : Progress H i (calls i) phase tokens [])
    (hnext : ∀ expiresAtUtc, Progress H i (calls i) next tokens
      [⟨i, (calls i).event H eventType expiresAtUtc, false⟩])
    (hopen : tokens.filter (·.committed) = []) (hviolated : Progress H i (calls i) violated [] []) :
    Progress H i (calls i) ((world.insertEvent H calls i eventType next violated).phase i)
      ((world.insertEvent H calls i eventType next violated).tokens.written i)
      ((world.insertEvent H calls i eventType next violated).events.written i) := by
  have hback := h.rollback
  rw [hopen] at hback
  unfold insertEvent
  split
  · exact (hback.enter _).progress (Progress.raised _)
  · rename_i expiresAtUtc _
    dsimp only
    split
    · exact (hback.enter _).progress (Progress.raised _)
    · split
      · exact h.progress hwait
      · exact (hback.enter _).progress hviolated
      · -- the event is written, but not committed yet
        rename_i inserted hinsert
        have hwritten := UniqueTable.written_insert hinsert i
        rw [h.events, if_pos rfl, List.nil_append] at hwritten
        have hmid : Standing { world with events := inserted } i phase tokens
          [⟨i, (calls i).event H eventType expiresAtUtc, false⟩] := ⟨h.phase, h.tokens, hwritten⟩
        exact (hmid.enter _).progress (hnext expiresAtUtc)

/-- **A step keeps a call's rows in step with its phase.** -/
theorem progress_step (h : InProgress H calls world) (i : ℕ) :
    Progress H i (calls i) ((world.step H calls i).phase i)
      ((world.step H calls i).tokens.written i) ((world.step H calls i).events.written i) := by
  have hi := h i
  have hstanding := standing_self world i
  generalize hphase : world.phase i = phase at hi hstanding
  generalize world.tokens.written i = tokens at hi hstanding
  generalize world.events.written i = events at hi hstanding
  unfold step
  rw [hphase]
  cases hi with
  -- each phase has its own lemma, which names the phase that follows
  | selecting =>
    refine (hstanding.enter _).progress ?_
    split
    · exact Progress.insertingReplay
    · exact Progress.insertingToken
  | insertingToken => exact progress_insertToken hstanding
  | insertingEvent expiresAtUtc =>
    exact progress_insertEvent hstanding (Progress.insertingEvent expiresAtUtc)
      (Progress.committing expiresAtUtc) rfl Progress.insertingReplay
  | committing expiresAtUtc expiresAtUtc' =>
    exact (hstanding.commit.enter _).progress (Progress.returned expiresAtUtc expiresAtUtc')
  | returned expiresAtUtc expiresAtUtc' =>
    exact hstanding.progress (Progress.returned expiresAtUtc expiresAtUtc')
  | insertingReplay =>
    exact progress_insertEvent hstanding Progress.insertingReplay Progress.committingReplay rfl
      (Progress.raised _)
  | committingReplay expiresAtUtc =>
    exact (hstanding.commit.enter _).progress (Progress.detected _ expiresAtUtc)
  | detected exn expiresAtUtc => exact hstanding.progress (Progress.detected exn expiresAtUtc)
  | raised exn => exact hstanding.progress (Progress.raised exn)

theorem inProgress_step (h : InProgress H calls world) (i : ℕ) :
    InProgress H calls (world.step H calls i) := by
  intro j
  by_cases hne : i = j
  · subst hne
    exact progress_step h i
  · have hframe := @untouched_step H calls world i j hne
    rw [hframe.phase, hframe.tokens, hframe.events]
    exact h j

/-- **Every schedule** of the calls' statements keeps them in progress. -/
theorem inProgress_run (schedule : List ℕ) :
    InProgress H calls (Runs.run (step H calls) {} schedule) := by
  have halways : Runs.Always (step H calls) (InProgress H calls) {} schedule :=
    @Runs.always_of_invariant _ _ (step H calls) (InProgress H calls)
      (fun _ i h => inProgress_step h i) _ inProgress_empty schedule
  exact Runs.always_last halways

/-! ## Accepted tokens -/

/-- The 'accepted' events of a token, as they are stored. -/
def acceptedEvents (world : PgReplayWorld) (call : PgReplayCall) : List JwtReplayEvent :=
  world.events.visible.filter fun event =>
    event.eventType = .accepted && event.tenantId = call.claims.tenantId &&
      event.issuer = call.claims.issuer && event.jwtId = call.jwtId

/-- The calls are for one token id of one issuer and tenant. -/
def SameToken (call call' : PgReplayCall) : Prop :=
  call.claims.tenantId = call'.claims.tenantId ∧ call.claims.issuer = call'.claims.issuer ∧
    call.jwtId = call'.jwtId

/-- What the replay guard promises of each token. -/
structure AcceptedOnce (H : HashFunctions) (calls : ℕ → PgReplayCall) (world : PgReplayWorld) :
    Prop where
  /-- At most one call for it has returned. -/
  once : ∀ i j, world.phase i = .returned → world.phase j = .returned →
    SameToken (calls i) (calls j) → i = j
  /-- Of the call that has returned, one accepted event is stored, and no other. -/
  stored : ∀ i, world.phase i = .returned → ∃ expiresAtUtc,
    world.acceptedEvents (calls i) = [(calls i).event H .accepted expiresAtUtc]
  /-- Where no call has returned, none is stored. -/
  none : ∀ call, (∀ i, world.phase i = .returned → ¬ SameToken (calls i) call) →
    world.acceptedEvents call = []

theorem token_of_returned (h : InProgress H calls world) (hphase : world.phase i = .returned) :
    ∃ expiresAtUtc, ⟨i, (calls i).token H expiresAtUtc, true⟩ ∈ world.tokens.rows := by
  have hi := h i
  rw [hphase] at hi
  generalize htokens : world.tokens.written i = tokens at hi
  generalize world.events.written i = events at hi
  cases hi with
  | returned expiresAtUtc _ =>
    refine ⟨expiresAtUtc, UniqueTable.mem_rows.mpr ?_⟩
    rw [htokens]
    exact List.mem_singleton_self _

theorem events_of_returned (h : InProgress H calls world) (hphase : world.phase i = .returned) :
    ∃ expiresAtUtc,
      world.events.written i = [⟨i, (calls i).event H .accepted expiresAtUtc, true⟩] := by
  have hi := h i
  rw [hphase] at hi
  generalize world.tokens.written i = tokens at hi
  generalize world.events.written i = events at hi
  cases hi with
  | returned _ expiresAtUtc => exact ⟨expiresAtUtc, rfl⟩

/-- A stored accepted event is that of a call that has returned. -/
theorem returned_of_accepted (h : InProgress H calls world) {row : TableRow JwtReplayEvent}
    (hrow : row ∈ world.events.rows) (hcommitted : row.committed = true)
    (haccepted : row.value.eventType = .accepted) :
    world.phase row.writer = .returned ∧
      ∃ expiresAtUtc, row.value = (calls row.writer).event H .accepted expiresAtUtc := by
  have hi := h row.writer
  have hwritten := UniqueTable.mem_rows.mp hrow
  -- generalized, so that the stages of the call can be taken one by one
  generalize world.phase row.writer = phase at hi ⊢
  generalize world.tokens.written row.writer = tokens at hi
  generalize world.events.written row.writer = events at hi hwritten
  cases hi with
  | selecting | insertingToken | insertingEvent | insertingReplay | raised => cases hwritten
  | committing _ expiresAtUtc =>
    rw [List.mem_singleton] at hwritten
    rw [hwritten] at hcommitted
    cases hcommitted
  | returned _ expiresAtUtc =>
    rw [List.mem_singleton] at hwritten
    exact ⟨rfl, expiresAtUtc, congrArg TableRow.value hwritten⟩
  | committingReplay expiresAtUtc =>
    rw [List.mem_singleton] at hwritten
    rw [hwritten] at hcommitted
    cases hcommitted
  | detected exn expiresAtUtc =>
    rw [List.mem_singleton] at hwritten
    rw [hwritten] at haccepted
    cases haccepted

theorem mem_acceptedEvents {call : PgReplayCall} {event : JwtReplayEvent} :
    event ∈ world.acceptedEvents call ↔ event ∈ world.events.visible ∧
      event.eventType = .accepted ∧ event.tenantId = call.claims.tenantId ∧
      event.issuer = call.claims.issuer ∧ event.jwtId = call.jwtId := by
  unfold acceptedEvents
  simp only [List.mem_filter, Bool.and_eq_true, decide_eq_true_eq, and_assoc]

/-- The rows behind the accepted events of a token. -/
theorem acceptedEvents_eq (call : PgReplayCall) :
    world.acceptedEvents call = (world.events.rows.filter fun row => row.committed &&
      (row.value.eventType = .accepted && row.value.tenantId = call.claims.tenantId &&
        row.value.issuer = call.claims.issuer && row.value.jwtId = call.jwtId)).map (·.value) := by
  unfold acceptedEvents UniqueTable.visible
  rw [List.filter_map, List.filter_filter]
  refine congrArg (List.map _) (List.filter_congr fun row _ => ?_)
  exact Bool.and_comm _ _

/-- Two calls that have returned have rows with different keys. -/
theorem eq_of_returned (h : InProgress H calls world) (hi : world.phase i = .returned)
    (hj : world.phase j = .returned) (hsame : SameToken (calls i) (calls j)) : i = j := by
  obtain ⟨_, htoken⟩ := token_of_returned h hi
  obtain ⟨_, htoken'⟩ := token_of_returned h hj
  have hkey := UniqueTable.eq_of_key htoken htoken' (Prod.ext hsame.2.1 hsame.2.2)
  exact congrArg TableRow.writer hkey

theorem acceptedOnce_of_inProgress (h : InProgress H calls world) : world.AcceptedOnce H calls where
  once _ _ hi hj hsame := eq_of_returned h hi hj hsame
  stored := by
    intro i hi
    obtain ⟨expiresAtUtc, hevents⟩ := events_of_returned h hi
    refine ⟨expiresAtUtc, ?_⟩
    -- the accepted events of the token are the rows of call `i`
    have hrows : (world.events.rows.filter fun row => row.committed &&
        (row.value.eventType = .accepted && row.value.tenantId = (calls i).claims.tenantId &&
          row.value.issuer = (calls i).claims.issuer && row.value.jwtId = (calls i).jwtId)) =
        world.events.written i := by
      refine List.filter_congr fun row hrow => ?_
      rw [Bool.eq_iff_iff, decide_eq_true_iff]
      simp only [Bool.and_eq_true, decide_eq_true_eq]
      constructor
      · rintro ⟨hcommitted, ⟨⟨haccepted, htenant⟩, hissuer⟩, hjwt⟩
        obtain ⟨hreturned, _, hvalue⟩ := returned_of_accepted h hrow hcommitted haccepted
        rw [hvalue] at htenant hissuer hjwt
        exact eq_of_returned h hreturned hi ⟨htenant, hissuer, hjwt⟩
      · intro hwriter
        have hmem := UniqueTable.mem_written.mpr ⟨hrow, hwriter⟩
        rw [hevents, List.mem_singleton] at hmem
        rw [hmem]
        exact ⟨rfl, ⟨⟨rfl, rfl⟩, rfl⟩, rfl⟩
    rw [acceptedEvents_eq, hrows, hevents]
    rfl
  none := by
    intro call hcall
    rw [List.eq_nil_iff_forall_not_mem]
    intro event hevent
    obtain ⟨hvisible, haccepted, htenant, hissuer, hjwt⟩ := mem_acceptedEvents.mp hevent
    obtain ⟨row, hrow, hcommitted, rfl⟩ := UniqueTable.mem_visible.mp hvisible
    obtain ⟨hreturned, _, hvalue⟩ := returned_of_accepted h hrow hcommitted haccepted
    rw [hvalue] at htenant hissuer hjwt
    exact hcall row.writer hreturned ⟨htenant, hissuer, hjwt⟩

/-- **The primary key guards against replays.** However the statements of any number of
calls are interleaved, whatever their clocks say and whenever the tokens expire: of the
calls for one token at most one returns, and the accepted event of that call is the one
that is stored for the token. -/
theorem accepted_once (H : HashFunctions) (calls : ℕ → PgReplayCall) (schedule : List ℕ) :
    (Runs.run (step H calls) {} schedule).AcceptedOnce H calls :=
  acceptedOnce_of_inProgress (inProgress_run schedule)

/-- Two calls for one token: the second one's INSERT waits for the first one's commit. -/
example :
    let call : PgReplayCall :=
      { claims := {
          issuer := "i", subject := "u", tenantId := "t", expiresAtEpoch := 9, jwtId := some "j" }
        jwtId := "j", nowEpoch := 5, guarded := rfl, valid := by decide +kernel
        acceptedId := "a", replayedId := "r" }
    let world := Runs.run (step default fun _ => call) {} [0, 1, 0, 1, 0, 0, 1, 1, 1]
    world.phase 0 = .returned ∧
      world.phase 1 = .raised (.jwtAuthenticationError "JWT replay detected") := by decide +kernel

end PgReplayWorld

end Collabio
