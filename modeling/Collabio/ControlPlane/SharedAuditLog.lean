import Mathlib.Tactic
import Collabio.ControlPlane.AuditJsonl

/-!
# Two loggers on one file

The API process and the vector worker each load the log of one data directory
and then record on their own: each call appends to the shared file, and moves
only the caller's copy of the chain.

* `record_loads`           — a call of a logger that has seen the whole file
  keeps the file loadable;
* `shared_log_loads`       — so does a run of such calls;
* `not_loads_of_turns`     — two loggers that take turns break the chain.
-/

namespace Collabio

namespace SharedAuditLog

open JsonlAuditLogger

/-- Who opened the file: `build_default_audit_logger` or
`build_durable_vector_worker_audit_sink`. -/
inductive Instance where
  | defaultLogger | vectorWorkerSink
  deriving DecidableEq, Repr

variable (H : HashFunctions) (json : EventJson)

structure State where
  file    : Option (List Char)
  loggers : Instance → JsonlAuditLogger H

structure Call where
  caller : Instance
  call   : AuditCall

variable {H}

/-- Both instances, right after loading the file. -/
def opened (file : Option (List Char)) (logger : JsonlAuditLogger H) : State H :=
  ⟨file, fun _ => logger⟩

/-- One call of `record`, by one of the instances. -/
def step (state : State H) (call : Call) : State H :=
  let before := state.loggers call.caller
  { file := some (appendLine json state.file (auditEvent H before.events call.call))
    loggers := Function.update state.loggers call.caller (before.recorded call.call) }

/-- The file re-read verifies: `load` returns, so its events are numbered from 1
without gap or duplicate, each with the hash of the one before it. -/
def Loads (state : State H) : Prop :=
  ∃ logger : JsonlAuditLogger H, load H json state.file = .ok logger

/-- The caller has seen every event of the file, the file ends in a line break
(blanks aside), and no recorded text has an unescaped line boundary. -/
structure UpToDate (state : State H) (call : Call) : Prop where
  seen     : readEvents json (state.file.getD []) = .ok (state.loggers call.caller).events
  finished : (scan (state.file.getD [])).current.all isBlank = true
  plain    : call.call.Plain

variable {json}

/-- **Step.** A call that is up to date keeps the file loadable. -/
theorem record_loads {state : State H} {call : Call} (h : UpToDate json state call) :
    Loads json (step json state call) := by
  set before := state.loggers call.caller with hbefore
  have happend := readEvents_append h.seen h.finished (dump_plain before h.plain)
  exact ⟨before.recorded call.call, load_eq_ok.mpr happend.1⟩

/-- **Runs.** From any file that loads, a run of calls that are up to date keeps the
file loadable throughout. -/
theorem shared_log_loads {file : Option (List Char)} {logger : JsonlAuditLogger H}
    (hopen : load H json file = .ok logger) {calls : List Call}
    (hguarded : Runs.Guarded (step json) (UpToDate json) (opened file logger) calls) :
    Runs.Always (step json) (Loads json) (opened file logger) calls := by
  have hstart : Loads json (opened file logger) := ⟨logger, hopen⟩
  exact Runs.always_of_guarded (fun _ _ _ hguard => record_loads hguard) hstart hguarded

/-! ## Taking turns -/

def plainCall : AuditCall where
  eventId := "00000000-0000-4000-8000-000000000000"
  userContext := { userId := "user-demo", tenantId := "tenant-demo" }
  eventType := "rag.retrieval"

/-- A run of one up-to-date call on a fresh path. -/
theorem plain_run_loads :
    Runs.Always (step pydanticJson) (Loads pydanticJson)
      (opened none (fresh default).logger) [⟨.defaultLogger, plainCall⟩] := by
  refine shared_log_loads (H := default) rfl ?_
  refine Runs.guarded_cons.mpr ⟨⟨rfl, rfl, by decide +kernel⟩, Runs.guarded_nil⟩

/-- A call moves only the caller's copy of the chain. -/
theorem loggers_step {state : State H} {call : Call} {other : Instance}
    (hother : other ≠ call.caller) : (step json state call).loggers other = state.loggers other :=
  Function.update_of_ne hother _ _

/-- **Taking turns**: right after both loaded the file, a call of each breaks the chain. -/
theorem not_loads_of_turns {file : Option (List Char)} {logger : JsonlAuditLogger H}
    (hopen : load H json file = .ok logger) (hfinished : (scan (file.getD [])).current = [])
    {first second : Call} (hturns : second.caller ≠ first.caller) (hfirst : first.call.Plain)
    (hsecond : second.call.Plain) :
    ¬ Loads json (Runs.run (step json) (opened file logger) [first, second]) := by
  have hread := load_eq_ok.mp hopen
  have hone := readEvents_append hread (by rw [hfinished]; rfl) (dump_plain logger hfirst)
  have htwo := readEvents_append hone.1 (by rw [hone.2]; rfl) (dump_plain logger hsecond)
  -- the second caller still has the events both loaded
  have hstale : (step json (opened file logger) first).loggers second.caller = logger :=
    loggers_step hturns
  rintro ⟨reloaded, hload⟩
  rw [Runs.run_cons, Runs.run_cons, Runs.run_nil, load_eq_ok, step, hstale] at hload
  have hevents : reloaded.events = logger.events ++ [auditEvent H logger.events first.call] ++
      [auditEvent H logger.events second.call] :=
    Except.ok.inj (hload.symm.trans htwo.1)
  have hvalid := verifyAuditChain_ok.mp reloaded.verified
  rw [hevents] at hvalid
  -- so both new events have the same number
  have hnumber := (HashChain.valid_concat.mp hvalid).2.1
  have hsame : (auditFormat H).number (auditEvent H logger.events second.call) =
      (logger.events.length : Int) + 1 := rfl
  rw [hsame, List.length_append, List.length_singleton] at hnumber
  push_cast at hnumber
  omega

/-- The same on a fresh path. -/
theorem interleaved_log_fails :
    ¬ Loads pydanticJson (Runs.run (step pydanticJson) (opened none (fresh default).logger)
      [⟨.defaultLogger, plainCall⟩, ⟨.vectorWorkerSink, plainCall⟩]) :=
  not_loads_of_turns rfl rfl (by decide) (by decide +kernel) (by decide +kernel)

end SharedAuditLog

end Collabio
