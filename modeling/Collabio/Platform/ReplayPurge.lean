import Mathlib.Tactic
import Collabio.Platform.AuthzAdmin
import Collabio.Platform.PgReplayRuns

/-!
# The retention purge of replay tokens

The purge deletes the rows of a tenant whose tokens expire at or before a bound that the
command names, and the row-level policy compares them with the same bound. A verifier
takes a token for some seconds longer than until it expires, and the bound may lie in the
future; a row that goes before its token is refused lets the token in again.

* `kept_run`        — a committed row keeps every later call for its token out;
* `returned_of_free` — without it, a call returns when it is made;
* `purge_reopens_iff` — what a purge may delete.
-/

namespace Collabio

structure JwtReplayRetentionPurgeView where
  tenantId           : String
  deletedCount       : Nat
  expiresBeforeEpoch : Int
  auditChainRef      : String
  deriving DecidableEq, Repr

/-- The WHERE clause of the DELETE, over the policy `jwt_replay_tokens_retention_delete` with
the tenant and the epoch that the transaction has set. No tenant is the empty text. -/
def JwtReplayRetentionPurgeCommand.deletes (command : JwtReplayRetentionPurgeCommand)
    (tenantId : String) (token : JwtReplayToken) : Bool :=
  let policy := tenantId ≠ "" && token.tenantId = tenantId &&
    token.expiresAtEpoch ≤ command.expiresBeforeEpoch
  policy && token.tenantId = tenantId && token.expiresAtEpoch ≤ command.expiresBeforeEpoch

/-- The phases of a call that has not inserted its token. -/
def PgReplayPhase.Outside : PgReplayPhase → Prop
  | .insertingEvent | .committing | .returned => False
  | _ => True

/-- The phases of a call that has not inserted its accepted event. -/
def PgReplayPhase.Unrecorded : PgReplayPhase → Prop
  | .committing | .returned => False
  | _ => True

namespace PgReplayWorld

/-- `purge_expired_jwt_replay_tokens`. The policy reads the epoch as a `bigint`. -/
def purgeExpiredJwtReplayTokens (tenantId : String) (command : JwtReplayRetentionPurgeCommand)
    (auditChainRef : String) : Eff Exn PgReplayWorld JwtReplayRetentionPurgeView := fun world =>
  if 2 ^ 63 ≤ command.expiresBeforeEpoch then
    (.error (.databaseError "NumericValueOutOfRange"), world)
  else
    let deleted := world.tokens.visible.filter (command.deletes tenantId)
    (.ok ⟨tenantId, deleted.length, command.expiresBeforeEpoch, auditChainRef⟩,
      { world with tokens := world.tokens.delete (command.deletes tenantId) })

variable {H : HashFunctions} {calls : ℕ → PgReplayCall} {world : PgReplayWorld} {i : ℕ}

/-! ## A row that is kept -/

/-- A committed row is in the table. -/
def Keeps (row : TableRow JwtReplayToken) (world : PgReplayWorld) : Prop :=
  row ∈ world.tokens.rows ∧ row.committed = true

theorem Keeps.rollback {row : TableRow JwtReplayToken} (h : world.Keeps row) (i : ℕ) :
    (world.rollback i).Keeps row :=
  ⟨UniqueTable.committed_rollback h.1 h.2 i, h.2⟩

theorem Keeps.commit {row : TableRow JwtReplayToken} (h : world.Keeps row) (i : ℕ) :
    (world.commit i).Keeps row :=
  ⟨UniqueTable.committed_commit h.1 h.2 i, h.2⟩

theorem Keeps.enter {row : TableRow JwtReplayToken} (h : world.Keeps row) (i : ℕ)
    (phase : PgReplayPhase) : (world.enter i phase).Keeps row := h

theorem keeps_insertToken {row : TableRow JwtReplayToken} (h : world.Keeps row) :
    (world.insertToken H calls i).Keeps row := by
  unfold insertToken
  split
  · exact h.enter i _
  · dsimp only
    split
    · exact (h.rollback i).enter i _
    · split
      · exact h
      · exact (h.rollback i).enter i _
      · rename_i tokens hinsert
        exact ⟨UniqueTable.mem_of_inserted hinsert h.1, h.2⟩

theorem keeps_insertEvent {row : TableRow JwtReplayToken} (h : world.Keeps row)
    {eventType : JwtReplayEventType} {next violated : PgReplayPhase} :
    (world.insertEvent H calls i eventType next violated).Keeps row := by
  unfold insertEvent
  split
  · exact (h.rollback i).enter i _
  · dsimp only
    split
    · exact (h.rollback i).enter i _
    · split
      · exact h
      · exact (h.rollback i).enter i _
      · exact h

theorem keeps_step {row : TableRow JwtReplayToken} (h : world.Keeps row) (i : ℕ) :
    (world.step H calls i).Keeps row := by
  unfold step
  split
  · exact h.enter i _
  · exact keeps_insertToken h
  · exact keeps_insertEvent h
  · exact (h.commit i).enter i _
  · exact keeps_insertEvent h
  · exact (h.commit i).enter i _
  · exact h
  · exact h

/-! ## Calls that a row keeps out -/

theorem outside_insertToken {row : TableRow JwtReplayToken} (h : world.Keeps row)
    (hkey : row.value.key = ((calls i).claims.issuer, (calls i).jwtId))
    (hphase : (world.phase i).Outside) : ((world.insertToken H calls i).phase i).Outside := by
  unfold insertToken
  split
  · rw [phase_enter]
    trivial
  · dsimp only
    split
    · rw [phase_enter]
      trivial
    · split
      · exact hphase
      · rw [phase_enter]
        trivial
      · rename_i tokens hinsert
        -- the primary key does not ask whether the row has expired
        exact absurd hinsert (UniqueTable.not_inserted_of_mem h.1 hkey)

/-- An INSERT of an event outside `record` leads nowhere else. -/
theorem outside_insertEvent {eventType : JwtReplayEventType} {next violated : PgReplayPhase}
    (hphase : (world.phase i).Outside) (hnext : next.Outside) (hviolated : violated.Outside) :
    ((world.insertEvent H calls i eventType next violated).phase i).Outside := by
  unfold insertEvent
  split
  · rw [phase_enter]
    trivial
  · dsimp only
    split
    · rw [phase_enter]
      trivial
    · split
      · exact hphase
      · rw [phase_enter]
        exact hviolated
      · rw [phase_enter]
        exact hnext

theorem outside_step {row : TableRow JwtReplayToken} (h : world.Keeps row)
    (hkey : row.value.key = ((calls i).claims.issuer, (calls i).jwtId))
    (hphase : (world.phase i).Outside) (j : ℕ) : ((world.step H calls j).phase i).Outside := by
  by_cases hne : j = i
  · subst hne
    unfold step
    split
    · rw [phase_enter]
      split <;> trivial
    · exact outside_insertToken h hkey hphase
    · rename_i hcurrent
      rw [hcurrent] at hphase
      exact hphase.elim
    · rename_i hcurrent
      rw [hcurrent] at hphase
      exact hphase.elim
    · exact outside_insertEvent hphase trivial trivial
    · rw [phase_enter]
      trivial
    · exact hphase
    · exact hphase
  · rw [(@untouched_step H calls world j i hne).phase]
    exact hphase

/-- **A committed row keeps the later calls for its token out**, however they and others are
interleaved. -/
theorem kept_run {row : TableRow JwtReplayToken} (h : world.Keeps row)
    (hkey : row.value.key = ((calls i).claims.issuer, (calls i).jwtId))
    (hphase : world.phase i = .selecting) (schedule : List ℕ) :
    (Runs.run (step H calls) world schedule).phase i ≠ .returned := by
  have hinvariant : Runs.Always (step H calls)
      (fun world => world.Keeps row ∧ (world.phase i).Outside) world schedule := by
    refine Runs.always_of_invariant ?_ ⟨h, ?_⟩ schedule
    · rintro world j ⟨hkeeps, houtside⟩
      exact ⟨keeps_step hkeeps j, outside_step hkeeps hkey houtside j⟩
    · rw [hphase]
      trivial
  have hlast := (Runs.always_last hinvariant).2
  intro hreturned
  rw [hreturned] at hlast
  exact hlast

/-! ## Calls that their clock keeps out -/

theorem not_allowed_of_late {call : PgReplayCall} {eventType : JwtReplayEventType}
    {expiresAtUtc : Datetime.DateTime} (h : 2 ^ 63 ≤ call.nowEpoch) :
    (call.event H eventType expiresAtUtc).allowed = false := by
  rw [Bool.eq_false_iff]
  intro hallowed
  simp only [JwtReplayEvent.allowed, Bool.and_eq_true, decide_eq_true_eq] at hallowed
  exact absurd hallowed.2 (not_lt.mpr h)

theorem unrecorded_insertEvent {eventType : JwtReplayEventType} {next violated : PgReplayPhase}
    (h : 2 ^ 63 ≤ (calls i).nowEpoch) :
    ((world.insertEvent H calls i eventType next violated).phase i).Unrecorded := by
  unfold insertEvent
  split
  · rw [phase_enter]
    trivial
  · dsimp only
    rw [if_pos (not_allowed_of_late h), phase_enter]
    trivial

theorem unrecorded_insertToken (h : (world.phase i).Unrecorded) :
    ((world.insertToken H calls i).phase i).Unrecorded := by
  unfold insertToken
  split
  · rw [phase_enter]
    trivial
  · dsimp only
    split
    · rw [phase_enter]
      trivial
    · split
      · exact h
      · rw [phase_enter]
        trivial
      · rw [phase_enter]
        trivial

theorem unrecorded_step (hlate : 2 ^ 63 ≤ (calls i).nowEpoch)
    (h : (world.phase i).Unrecorded) (j : ℕ) : ((world.step H calls j).phase i).Unrecorded := by
  by_cases hne : j = i
  · subst hne
    unfold step
    split
    · rw [phase_enter]
      split <;> trivial
    · exact unrecorded_insertToken h
    · exact unrecorded_insertEvent hlate
    · rename_i hcurrent
      rw [hcurrent] at h
      exact h.elim
    · exact unrecorded_insertEvent hlate
    · rw [phase_enter]
      trivial
    · exact h
    · exact h
  · rw [(@untouched_step H calls world j i hne).phase]
    exact h

/-- A call whose clock no `bigint` holds does not return. -/
theorem late_run (hlate : 2 ^ 63 ≤ (calls i).nowEpoch) (hphase : world.phase i = .selecting)
    (schedule : List ℕ) : (Runs.run (step H calls) world schedule).phase i ≠ .returned := by
  have hinvariant : Runs.Always (step H calls) (fun world => (world.phase i).Unrecorded)
      world schedule := by
    refine Runs.always_of_invariant (fun world j h => unrecorded_step hlate h j) ?_ schedule
    rw [hphase]
    trivial
  have hlast := Runs.always_last hinvariant
  intro hreturned
  rw [hreturned] at hlast
  exact hlast

/-! ## A call that nothing keeps out -/

/-- What a call needs in order to be accepted. -/
structure Free (H : HashFunctions) (world : PgReplayWorld) (call : PgReplayCall)
    (expiresAtUtc : Datetime.DateTime) : Prop where
  expiry  : utcFromEpoch call.claims.expiresAtEpoch = .ok expiresAtUtc
  token   : (call.token H expiresAtUtc).allowed = true
  event   : (call.event H .accepted expiresAtUtc).allowed = true
  absent  : ∀ row ∈ world.tokens.rows, row.value.key ≠ (call.claims.issuer, call.jwtId)
  unheard : ∀ row ∈ world.events.rows,
              row.value.eventId ≠ (call.event H .accepted expiresAtUtc).eventId

theorem not_contains_of_absent {call : PgReplayCall}
    (h : ∀ row ∈ world.tokens.rows, row.value.key ≠ (call.claims.issuer, call.jwtId)) :
    world.contains call = false := by
  rw [contains, List.any_eq_false]
  intro token htoken hfound
  obtain ⟨row, hrow, -, rfl⟩ := UniqueTable.mem_visible.mp htoken
  simp only [Bool.and_eq_true, decide_eq_true_eq] at hfound
  exact h row hrow (Prod.ext hfound.1.1.2 hfound.1.2)

theorem step_insertToken {expiresAtUtc : Datetime.DateTime}
    {tokens : UniqueTable JwtReplayToken.key} (hphase : world.phase i = .insertingToken)
    (hexpiry : utcFromEpoch (calls i).claims.expiresAtEpoch = .ok expiresAtUtc)
    (hallowed : ((calls i).token H expiresAtUtc).allowed = true)
    (hinsert : world.tokens.insert i ((calls i).token H expiresAtUtc) = .inserted tokens) :
    world.step H calls i = { world with tokens }.enter i .insertingEvent := by
  unfold step
  rw [hphase]
  dsimp only
  unfold insertToken
  rw [hexpiry]
  dsimp only
  rw [hallowed, if_neg (by decide), hinsert]

theorem step_insertEvent {expiresAtUtc : Datetime.DateTime}
    {events : UniqueTable JwtReplayEvent.eventId} (hphase : world.phase i = .insertingEvent)
    (hexpiry : utcFromEpoch (calls i).claims.expiresAtEpoch = .ok expiresAtUtc)
    (hallowed : ((calls i).event H .accepted expiresAtUtc).allowed = true)
    (hinsert : world.events.insert i ((calls i).event H .accepted expiresAtUtc) =
      .inserted events) :
    world.step H calls i = { world with events }.enter i .committing := by
  unfold step
  rw [hphase]
  dsimp only
  unfold insertEvent
  rw [hexpiry]
  dsimp only
  rw [hallowed, if_neg (by decide), hinsert]

/-- A call on its own, statement by statement. -/
theorem returned_of_free {expiresAtUtc : Datetime.DateTime}
    (h : Free H world (calls i) expiresAtUtc) (hphase : world.phase i = .selecting) :
    (Runs.run (step H calls) world [i, i, i, i]).phase i = .returned := by
  obtain ⟨tokens, htokens⟩ :=
    @UniqueTable.inserted_of_not_mem _ _ _ _ world.tokens ((calls i).token H expiresAtUtc)
      h.absent i
  obtain ⟨events, hevents⟩ :=
    @UniqueTable.inserted_of_not_mem _ _ _ _ world.events
      ((calls i).event H .accepted expiresAtUtc) h.unheard i
  have hselect : world.step H calls i = world.enter i .insertingToken := by
    unfold step
    rw [hphase]
    dsimp only
    rw [not_contains_of_absent h.absent]
    rfl
  have htoken : (world.enter i .insertingToken).step H calls i =
      { world.enter i .insertingToken with tokens }.enter i .insertingEvent :=
    step_insertToken (phase_enter _) h.expiry h.token htokens
  have hevent : ({ world.enter i .insertingToken with tokens }.enter i .insertingEvent).step
      H calls i = { { world.enter i .insertingToken with tokens }.enter i .insertingEvent with
        events }.enter i .committing :=
    step_insertEvent (phase_enter _) h.expiry h.event hevents
  rw [Runs.run_cons, hselect, Runs.run_cons, htoken, Runs.run_cons, hevent, Runs.run_cons,
    Runs.run_nil]
  unfold step
  rw [phase_enter]
  dsimp only
  exact phase_enter _

/-! ## What a purge may delete -/

/-- The call was accepted before `t`: its rows are in the tables, whose checks they passed. -/
structure AcceptedBefore (H : HashFunctions) (t : Int) (world : PgReplayWorld)
    (call : PgReplayCall) (expiresAtUtc : Datetime.DateTime) : Prop where
  before : call.nowEpoch < t
  expiry : utcFromEpoch call.claims.expiresAtEpoch = .ok expiresAtUtc
  token  : call.token H expiresAtUtc ∈ world.tokens.visible ∧
             (call.token H expiresAtUtc).allowed = true
  event  : call.event H .accepted expiresAtUtc ∈ world.events.visible ∧
             (call.event H .accepted expiresAtUtc).allowed = true

/-- The tables as they are, with the calls that are now in progress. -/
def resume (world : PgReplayWorld) (phase : ℕ → PgReplayPhase) : PgReplayWorld :=
  { world with phase }

/-- After the purge at `t`, no token that was accepted before is accepted again while its
claims still are, `skew` seconds beyond their expiry: however the later calls for it and any
others are interleaved, it does not return. -/
def NeverReopens (H : HashFunctions) (skew t : Int) (tenantId : String)
    (command : JwtReplayRetentionPurgeCommand) (auditChainRef : String) (world : PgReplayWorld) :
    Prop :=
  ∀ earlier expiresAtUtc, AcceptedBefore H t world earlier expiresAtUtc →
    ∀ (calls : ℕ → PgReplayCall) (phase : ℕ → PgReplayPhase) (schedule : List ℕ) (i : ℕ),
      (calls i).claims = earlier.claims → t ≤ (calls i).nowEpoch →
        (calls i).nowEpoch < earlier.claims.expiresAtEpoch + skew → phase i = .selecting →
          (Runs.run (step H calls)
            ((purgeExpiredJwtReplayTokens tenantId command auditChainRef world).2.resume phase)
            schedule).phase i ≠ .returned

/-- Every accepted token whose row the purge deletes is one that the verifier refuses from `t`
on. No clock shows more seconds than a `bigint` holds. -/
def DeletesRefused (H : HashFunctions) (skew t : Int) (tenantId : String)
    (command : JwtReplayRetentionPurgeCommand) (world : PgReplayWorld) : Prop :=
  ∀ earlier expiresAtUtc, AcceptedBefore H t world earlier expiresAtUtc →
    command.expiresBeforeEpoch < 2 ^ 63 →
      command.deletes tenantId (earlier.token H expiresAtUtc) = true →
        earlier.claims.expiresAtEpoch + skew ≤ t ∨ 2 ^ 63 ≤ t

theorem deletes_iff {command : JwtReplayRetentionPurgeCommand} {tenantId : String}
    {token : JwtReplayToken} : command.deletes tenantId token = true ↔
      tenantId ≠ "" ∧ token.tenantId = tenantId ∧
        token.expiresAtEpoch ≤ command.expiresBeforeEpoch := by
  simp only [JwtReplayRetentionPurgeCommand.deletes, Bool.and_eq_true, decide_eq_true_eq]
  tauto

/-- A bound that lies the skew before the clock is enough. -/
theorem deletesRefused_of_bound {skew t : Int} {tenantId : String}
    {command : JwtReplayRetentionPurgeCommand} (h : command.expiresBeforeEpoch + skew ≤ t) :
    DeletesRefused H skew t tenantId command world := by
  intro earlier expiresAtUtc _ _ hdeletes
  have hreached : earlier.claims.expiresAtEpoch ≤ command.expiresBeforeEpoch :=
    (deletes_iff.mp hdeletes).2.2
  exact Or.inl (by omega)

/-- Some event id is not in use. -/
theorem exists_unheard (world : PgReplayWorld) :
    ∃ id : String, ∀ row ∈ world.events.rows, row.value.eventId ≠ "jwt-replay-" ++ id := by
  obtain ⟨id, hid⟩ := Infinite.exists_notMem_finset
    (world.events.rows.map fun row =>
      String.ofList (row.value.eventId.toList.drop "jwt-replay-".toList.length)).toFinset
  refine ⟨id, fun row hrow hsame => hid ?_⟩
  rw [List.mem_toFinset, List.mem_map]
  refine ⟨row, hrow, ?_⟩
  rw [hsame, String.toList_append, List.drop_left, String.ofList_toList]

/-- The same token, presented at `t`. -/
def again (call : PgReplayCall) (t : Int) (acceptedId : String) : PgReplayCall :=
  { call with nowEpoch := t, acceptedId }

/-- What the purge leaves behind. -/
theorem rows_purged {tenantId auditChainRef : String} {command : JwtReplayRetentionPurgeCommand}
    {row : TableRow JwtReplayToken} :
    row ∈ (purgeExpiredJwtReplayTokens tenantId command auditChainRef world).2.tokens.rows ↔
      row ∈ world.tokens.rows ∧ ¬ (command.expiresBeforeEpoch < 2 ^ 63 ∧ row.committed = true ∧
        command.deletes tenantId row.value = true) := by
  unfold purgeExpiredJwtReplayTokens
  by_cases hbound : 2 ^ 63 ≤ command.expiresBeforeEpoch
  · rw [if_pos hbound]
    exact (and_iff_left fun h => absurd hbound (not_le.mpr h.1)).symm
  · rw [if_neg hbound]
    refine UniqueTable.mem_delete.trans (and_congr_right fun _ => not_congr ?_)
    exact (and_iff_right (not_le.mp hbound)).symm

theorem events_purged {tenantId auditChainRef : String}
    {command : JwtReplayRetentionPurgeCommand} :
    (purgeExpiredJwtReplayTokens tenantId command auditChainRef world).2.events = world.events := by
  unfold purgeExpiredJwtReplayTokens
  split <;> rfl

theorem allowed_token_again {call : PgReplayCall} {t : Int} {acceptedId : String}
    {expiresAtUtc : Datetime.DateTime} (h : (call.token H expiresAtUtc).allowed = true) :
    ((again call t acceptedId).token H expiresAtUtc).allowed = true := by
  unfold JwtReplayToken.allowed at h ⊢
  exact h

/-- The event of the second time is stored too, at a later second that a `bigint` holds. -/
theorem allowed_event_again {call : PgReplayCall} {t : Int} {acceptedId : String}
    {expiresAtUtc : Datetime.DateTime} (hlater : call.nowEpoch < t) (hclock : t < 2 ^ 63)
    (h : (call.event H .accepted expiresAtUtc).allowed = true) :
    ((again call t acceptedId).event H .accepted expiresAtUtc).allowed = true := by
  simp only [JwtReplayEvent.allowed, Bool.and_eq_true, decide_eq_true_eq] at h ⊢
  obtain ⟨⟨⟨⟨⟨⟨⟨htenant, -⟩, hissuer⟩, hsubject⟩, hjwt⟩, hexpires⟩, hobserved⟩, -⟩ := h
  have hid : "jwt-replay-" ++ acceptedId ≠ "" := by
    intro hempty
    have hchars := congrArg String.toList hempty
    rw [String.toList_append] at hchars
    cases hchars
  have hpositive : 0 < t := lt_trans hobserved hlater
  exact ⟨⟨⟨⟨⟨⟨⟨htenant, hid⟩, hissuer⟩, hsubject⟩, hjwt⟩, hexpires⟩, hpositive⟩, hclock⟩

/-- Its row deleted, an accepted token is free to be accepted again. -/
theorem free_again {t : Int} {tenantId auditChainRef acceptedId : String}
    {command : JwtReplayRetentionPurgeCommand} {earlier : PgReplayCall}
    {expiresAtUtc : Datetime.DateTime} (h : AcceptedBefore H t world earlier expiresAtUtc)
    (hclock : t < 2 ^ 63) (hbound : command.expiresBeforeEpoch < 2 ^ 63)
    (hdeletes : command.deletes tenantId (earlier.token H expiresAtUtc) = true)
    (hid : ∀ row ∈ world.events.rows, row.value.eventId ≠ "jwt-replay-" ++ acceptedId) :
    Free H (purgeExpiredJwtReplayTokens tenantId command auditChainRef world).2
      (again earlier t acceptedId) expiresAtUtc := by
  obtain ⟨row, hrow, hcommitted, hvalue⟩ := UniqueTable.mem_visible.mp h.token.1
  refine ⟨h.expiry, allowed_token_again h.token.2,
    allowed_event_again h.before hclock h.event.2, ?_, ?_⟩
  · -- the row of the token was the only one with its key
    intro other hother hkey
    obtain ⟨hmem, hleft⟩ := rows_purged.mp hother
    have hsame : other = row := by
      refine UniqueTable.eq_of_key hmem hrow ?_
      rw [hkey, hvalue]
      rfl
    refine hleft ⟨hbound, hsame ▸ hcommitted, ?_⟩
    rw [hsame, hvalue]
    exact hdeletes
  · rw [events_purged]
    exact hid

/-- A token whose row is deleted while the verifier still takes it is let in again at the
very time of the purge. -/
theorem reopens_of_open {skew t : Int} {tenantId : String}
    {command : JwtReplayRetentionPurgeCommand} (auditChainRef : String) {earlier : PgReplayCall}
    {expiresAtUtc : Datetime.DateTime} (h : AcceptedBefore H t world earlier expiresAtUtc)
    (hclock : t < 2 ^ 63) (hbound : command.expiresBeforeEpoch < 2 ^ 63)
    (hdeletes : command.deletes tenantId (earlier.token H expiresAtUtc) = true)
    (hopen : t < earlier.claims.expiresAtEpoch + skew) :
    ¬ NeverReopens H skew t tenantId command auditChainRef world := by
  intro hclosed
  obtain ⟨acceptedId, hid⟩ := exists_unheard world
  have hfree := @free_again H world t tenantId auditChainRef acceptedId command earlier
    expiresAtUtc h hclock hbound hdeletes hid
  have hreturned := @returned_of_free H (fun _ => again earlier t acceptedId)
    ((purgeExpiredJwtReplayTokens tenantId command auditChainRef world).2.resume
      fun _ => .selecting) 0 expiresAtUtc
    ⟨hfree.expiry, hfree.token, hfree.event, hfree.absent, hfree.unheard⟩ rfl
  exact hclosed earlier expiresAtUtc h (fun _ => again earlier t acceptedId)
    (fun _ => .selecting) [0, 0, 0, 0] 0 rfl le_rfl hopen rfl hreturned

/-- A call for a token whose row is still there. -/
theorem closed_of_kept {tenantId : String} {command : JwtReplayRetentionPurgeCommand}
    (auditChainRef : String) {earlier : PgReplayCall} {expiresAtUtc : Datetime.DateTime}
    {t : Int} (h : AcceptedBefore H t world earlier expiresAtUtc)
    (hkept : command.expiresBeforeEpoch < 2 ^ 63 →
      command.deletes tenantId (earlier.token H expiresAtUtc) ≠ true)
    (hclaims : (calls i).claims = earlier.claims) {phase : ℕ → PgReplayPhase}
    (hphase : phase i = .selecting) (schedule : List ℕ) :
    (Runs.run (step H calls)
      ((purgeExpiredJwtReplayTokens tenantId command auditChainRef world).2.resume phase)
      schedule).phase i ≠ .returned := by
  obtain ⟨row, hrow, hcommitted, hvalue⟩ := UniqueTable.mem_visible.mp h.token.1
  have hstays : row ∈
      (purgeExpiredJwtReplayTokens tenantId command auditChainRef world).2.tokens.rows := by
    refine rows_purged.mpr ⟨hrow, fun ⟨hbound, _, hdeleted⟩ => ?_⟩
    rw [hvalue] at hdeleted
    exact hkept hbound hdeleted
  -- the claims are the same, so the guard has read the same token identifier
  have hjwt : (calls i).jwtId = earlier.jwtId := by
    have hguarded := (calls i).guarded
    rw [hclaims, earlier.guarded] at hguarded
    exact (Option.some.inj hguarded).symm
  have hkey : row.value.key = ((calls i).claims.issuer, (calls i).jwtId) := by
    rw [hvalue, hclaims, hjwt]
    rfl
  exact @kept_run H calls
    ((purgeExpiredJwtReplayTokens tenantId command auditChainRef world).2.resume phase) i row
    ⟨hstays, hcommitted⟩ hkey hphase schedule

/-- **The purge of replay tokens** leaves no token open to replay exactly if it deletes only
the rows of tokens that the verifier refuses from then on. -/
theorem purge_reopens_iff (H : HashFunctions) (skew t : Int) (tenantId : String)
    (command : JwtReplayRetentionPurgeCommand) (auditChainRef : String) (world : PgReplayWorld) :
    NeverReopens H skew t tenantId command auditChainRef world ↔
      DeletesRefused H skew t tenantId command world := by
  constructor
  · intro hclosed earlier expiresAtUtc haccepted hbound hdeletes
    by_contra hopen
    rw [not_or, not_le, not_le] at hopen
    exact reopens_of_open auditChainRef haccepted hopen.2 hbound hdeletes hopen.1 hclosed
  · intro hrefused earlier expiresAtUtc haccepted calls phase schedule i hclaims hlater hopen hphase
    by_cases hlate : 2 ^ 63 ≤ (calls i).nowEpoch
    · exact late_run hlate hphase schedule
    · refine closed_of_kept auditChainRef haccepted ?_ hclaims hphase schedule
      intro hbound hdeletes
      -- the row is deleted only once the verifier refuses its token
      rcases hrefused earlier expiresAtUtc haccepted hbound hdeletes with hexpired | hclock
      · omega
      · exact hlate (hclock.trans hlater)

def sampleClaims : VerifiedJwtClaims where
  issuer := "i"
  subject := "u"
  tenantId := "t"
  expiresAtEpoch := 100
  jwtId := some "j"

theorem sampleClaims_valid : sampleClaims.validate = .ok sampleClaims := by decide +kernel

theorem epochDay_valid : 1 ≤ 1970 ∧ 1970 ≤ 9999 ∧ 1 ≤ 1 ∧ 1 ≤ 12 ∧ 1 ≤ 1 ∧
    1 ≤ Datetime.daysInMonth 1970 1 := by decide

/-- A hundred seconds after the epoch. -/
def sampleExpiry : Datetime.DateTime := ⟨⟨1970, 1, 1, epochDay_valid⟩, 0, 1, 40, 0, some 0⟩

def sampleToken : PgReplayCall where
  claims := sampleClaims
  jwtId := "j"
  nowEpoch := 90
  guarded := rfl
  valid := sampleClaims_valid
  acceptedId := "a"
  replayedId := "r"

def samplePurge : JwtReplayRetentionPurgeCommand where
  approvalReference := "approval:jwt-replay-retention"
  reason := "purge expired replay tokens"
  expiresBeforeEpoch := 100

/-- The sample token has been accepted. -/
def sampleReplayWorld : PgReplayWorld :=
  Runs.run (step default fun _ => sampleToken) {} [0, 0, 0, 0]

theorem samplePurge_checked : samplePurge.validate = .ok samplePurge ∧
    utcFromEpoch 100 = .ok sampleExpiry ∧
    sampleToken.token default sampleExpiry ∈ sampleReplayWorld.tokens.visible ∧
    (sampleToken.token default sampleExpiry).allowed = true ∧
    sampleToken.event default .accepted sampleExpiry ∈ sampleReplayWorld.events.visible ∧
    (sampleToken.event default .accepted sampleExpiry).allowed = true := by decide +kernel

/-- A purge of what expires by now, at the second in which the token expires: for the next
thirty seconds the verifier takes it, and the guard lets it in again. -/
theorem purge_reopens_live_token : samplePurge.validate = .ok samplePurge ∧
    ¬ NeverReopens default 30 100 "t" samplePurge "audit:purge" sampleReplayWorld := by
  obtain ⟨hvalid, hexpiry, htoken, htokenAllowed, hevent, heventAllowed⟩ := samplePurge_checked
  have haccepted : AcceptedBefore default 100 sampleReplayWorld sampleToken sampleExpiry :=
    ⟨by decide, hexpiry, ⟨htoken, htokenAllowed⟩, hevent, heventAllowed⟩
  exact ⟨hvalid, reopens_of_open "audit:purge" haccepted (by decide) (by decide) rfl (by decide)⟩

end PgReplayWorld

end Collabio
