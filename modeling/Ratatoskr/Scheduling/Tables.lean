import Ratatoskr.Json
import Ratatoskr.Lib.Beside
import Ratatoskr.Schema

/-! The tables of the scheduler and their CHECK constraints, next to those of the platform. -/
namespace Ratatoskr.Scheduling

open Transaction

abbrev ScheduleId := Nat

/-- One row of `operations.schedules` -/
structure Schedule where
  serviceName : String
  name : String
  ownerUserId : UserId
  commandType : String
  operationKind : String
  payload : Json
  cronExpression : String
  nextDueAt : Int
  enabled : Bool
  createdAt : Int
  updatedAt : Int
  lastPublishedAt : Option Int

/-- One row of `operations.schedule_occurrences` -/
structure Occurrence where
  scheduleId : ScheduleId
  dueAt : Int
  publishedAt : Int
  driftSeconds : Int
  operationId : OperationId
deriving DecidableEq

/-- `^[a-z][a-z0-9_-]{0,63}$` -/
def isLabel (value : String) : Bool := isToken Char.isLower isNamespaceChar 63 value.toList

/-- `^[a-z][a-z0-9_]{0,31}(\.[a-z][a-z0-9_]{0,31}){1,3}\.v[1-9][0-9]{0,2}$` -/
def isContractType (commandType : String) : Bool :=
  let tokens := commandType.toList.splitOn '.'
  let segments := tokens.dropLast
  2 ≤ segments.length && segments.length ≤ 4 && segments.all (isToken Char.isLower isNameChar 31) &&
    Eventing.isVersion (tokens.getLastD [])

/-- `^(cmd|evt)\.` -/
def isAlreadyASubject (commandType : String) : Bool :=
  match commandType.toList.span (· ≠ '.') with
  | (first,_ :: _) => first == "cmd".toList || first == "evt".toList
  | (_,[]) => false

def Schedule.checks (row : Schedule) : Bool :=
  isLabel row.name && isLabel row.serviceName && lengthBetween 9 120 row.cronExpression &&
  isContractType row.commandType && !isAlreadyASubject row.commandType && isDottedName row.operationKind &&
  row.payload.isObject && row.createdAt ≤ row.updatedAt

/-- What a column takes at all, whatever its CHECK says. -/
def Schedule.storable (row : Schedule) : Bool := isText row.cronExpression && row.payload.storable

def Occurrence.checks (row : Occurrence) : Bool := 0 ≤ row.driftSeconds && row.dueAt ≤ row.publishedAt

/-- The unique indexes on the name of a schedule within its service and on the due time of an
occurrence are tables of their own. -/
inductive SchedulingTable where
  | schedule (scheduleId : ScheduleId)
  | scheduleName (serviceName name : String)
  | occurrence (occurrenceId : MessageId)
  | occurrenceDue (scheduleId : ScheduleId) (dueAt : Int)
  /-- The status column of `identity.users` -/
  | userStatus (userId : UserId)
deriving DecidableEq

abbrev SchedulingRow : SchedulingTable → Type
  | .schedule _ => Schedule
  | .scheduleName _ _ => ScheduleId
  | .occurrence _ => Occurrence
  | .occurrenceDue _ _ => MessageId
  | .userStatus _ => String

def schedulingSchema : Constraints SchedulingRow
  | .schedule _,_,row => row.checks && row.storable
  | .scheduleName _ _,_,_ => true
  | .occurrence _,_,row => row.checks
  | .occurrenceDue _ _,_,_ => true
  | .userStatus _,_,status => status == "active" || status == "suspended" || status == "deleted"

abbrev Key := SchedulingTable ⊕ Table

abbrev Row : Key → Type := Beside SchedulingRow TableRow

abbrev Rows := Store Row

def constraints : Constraints Row := Constraints.beside schedulingSchema schema

end Ratatoskr.Scheduling
