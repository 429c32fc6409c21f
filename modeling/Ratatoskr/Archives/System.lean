import Ratatoskr.Archives.Requests
import Ratatoskr.Lib.Tasks

/-! Any number of requests and sweeps on one database and one staging root, an awaited operation at a time. -/
namespace Ratatoskr.Archives

open Operations PublicApi

inductive Call where
  | open_ (call : OpenTransfer)
  | put (call : PutChunk)
  | finalize (call : FinalizeTransfer)
  | sweep (limits : SweepLimits)

/-- A request or a sweep, and where it awaits. -/
inductive Task where
  | opening (call : OpenTransfer) (at_ : Opening)
  | putting (call : PutChunk) (at_ : Putting)
  | finalizing (call : FinalizeTransfer) (at_ : Finalizing)
  | sweeping (sweep : Sweep) (at_ : Sweeping)
  | dropped

def Call.task (now : Timestamp) : Call → Task
  | .open_ call => .opening call .authorizing
  | .put call => .putting call .authorizing
  | .finalize call => .finalizing call .authorizing
  | .sweep limits => .sweeping ⟨limits,now⟩ .selecting

/-- What moves the database and the clock beside the requests. -/
inductive Outside where
  | tick (later : Timestamp)
  /-- A report of the importer on an operation. -/
  | report (operationId : OperationId) (status : OperationStatus) (stage : Option String) (percent : Option Nat)
      (message : Option String)

abbrev Action := Tasks.Action Event Call Outside

abbrev System := Tasks.System World Task

variable (library : Library)

/-- What a task does when an awaited operation came back. -/
def Task.resume (number : Nat) (world : World) (event : Event) : Task → Option (World × Task)
  | .opening call at_ => (openTransfer library call world at_ event).map fun (world,at_) => (world,.opening call at_)
  | .putting call at_ => (putChunk library call number world at_ event).map fun (world,at_) => (world,.putting call at_)
  | .finalizing call at_ =>
    (finalizeTransfer library call number world at_ event).map fun (world,at_) => (world,.finalizing call at_)
  | .sweeping sweep at_ => (sweepOnce sweep world at_ event).map fun (world,at_) => (world,.sweeping sweep at_)
  | .dropped => none

def World.outside (world : World) : Outside → Option World
  | .tick later => if world.clock ≤ later then some { world with clock := later } else none
  | .report operationId status stage percent message =>
    some { world with tables := world.tables.recordStatus operationId status stage percent message world.clock }

/-- A caller that goes away, or the end of the process, drops a request where it awaits. -/
def machine : Tasks.Machine World Task Event Call Outside where
  begin_ world call := call.task world.clock
  resume := Task.resume library
  dropped := .dropped
  outside := World.outside

abbrev step : System → Action → Option System := (machine library).step

/-- Nothing is staged and no session was opened yet. -/
def initial (operations : Db) (clock : Timestamp) : System where
  world := ⟨⟨operations,[],fun _ _ => none⟩,Files.Tree.empty,clock,[],[],[],[],[],[]⟩
  tasks := fun _ => none

end Ratatoskr.Archives
