import Mathlib.Logic.Function.Basic
import Ratatoskr.Contracts

/-! The site event stream: one buffer for each site, which every connection reads from. The events of a
delivery are held by its message id until the delivery settles. -/
namespace Ratatoskr.PublicApi

abbrev SiteId := String

/-- A document of the stream. -/
inductive SiteEvent where
  | releasePublished (releaseId : Nat) (publishedAt : String)
  | draftChanged (sourceRef revision slug : String)
  | editCompleted (operationId : OperationId) (sourceRef revision : String)
  | editConflicted (operationId : OperationId) (conflictId : Nat) (sourceRef : String)
  | resync
deriving DecidableEq

def SiteEvent.isRelease : SiteEvent → Bool
  | releasePublished _ _ => true
  | _ => false

/-- `WINDOW_EVENTS` -/
def windowEvents : Nat := 256

/-- `WINDOW_AGE` -/
def windowAge : Timestamp := 24 * 3600 * 1000000000

/-- `SITES_MAX` -/
def sitesMax : Nat := 1024

structure SiteStreamLimits where
  perClient : Nat
  perSite : Nat
  perSiteOwner : Nat

/-- The defaults of the limits. -/
def SiteStreamLimits.default : SiteStreamLimits := ⟨4,64,16⟩

/-- One event of a buffer. -/
structure Stored where
  sequence : Nat
  instant : Timestamp
  event : SiteEvent
deriving DecidableEq

/-- The buffer and the connections of one site. `wake` counts the values that were sent to the waiting
connections. -/
structure SiteLog where
  last : Nat
  events : List Stored
  anonymous : Nat
  clients : String → Nat
  owners : Nat
  wake : Nat

/-- An event of a delivery that has not settled. -/
structure Staged where
  site : SiteId
  event : SiteEvent
  instant : Timestamp
deriving DecidableEq

/-- The buffers by site with the number of sites, and the events of unsettled deliveries. -/
structure SiteEventHub where
  epoch : String
  sites : SiteId → Option SiteLog
  size : Nat
  staged : MessageId → List Staged

/-- What a connection reads next. -/
inductive Read where
  | events (found : List (Nat × SiteEvent)) (last : Nat)
  | resync (last : Nat)
deriving DecidableEq

namespace SiteLog

def empty : SiteLog := ⟨0,[],0,fun _ => 0,0,0⟩

/-- Drops the oldest events while there are too many, or the oldest is past the window. -/
def trim (now : Timestamp) : List Stored → List Stored
  | [] => []
  | oldest :: rest =>
    if windowEvents < (oldest :: rest).length || oldest.instant < now - windowAge then trim now rest else oldest :: rest

def append (log : SiteLog) (event : SiteEvent) (instant now : Timestamp) : SiteLog :=
  { log with
    last := log.last + 1
    events := trim now (log.events ++ [⟨log.last + 1,instant,event⟩])
    wake := log.wake + 1 }

/-- An event after the cursor is no longer kept. -/
def hasLost (log : SiteLog) (cursor : Nat) : Bool :=
  cursor < log.last && log.events.head?.any fun oldest => cursor + 1 < oldest.sequence

/-- The events after the cursor that the caller may see. -/
def visible (log : SiteLog) (cursor : Nat) (owner : Bool) : List (Nat × SiteEvent) :=
  ((log.events.filter fun stored => cursor < stored.sequence).filter fun stored => owner || stored.event.isRelease).map
    fun stored => (stored.sequence,stored.event)

def read (log : SiteLog) (cursor : Nat) (owner : Bool) : Read :=
  if log.hasLost cursor then .resync log.last else .events (log.visible cursor owner) log.last

end SiteLog

namespace SiteEventHub

variable (hub : SiteEventHub)

def init (epoch : String) : SiteEventHub := ⟨epoch,fun _ => none,0,fun _ => []⟩

def put (site : SiteId) (log : SiteLog) : SiteEventHub :=
  { hub with
    sites := Function.update hub.sites site (some log)
    size := if (hub.sites site).isSome then hub.size else hub.size + 1 }

/-- `entry(..).or_default()` -/
def log (site : SiteId) : SiteLog := (hub.sites site).getD .empty

/-- `occurredAt` is the time of the envelope, if it has one. -/
def stage (messageId : MessageId) (site : SiteId) (event : SiteEvent) (occurredAt : Option Timestamp) (now : Timestamp) :
    SiteEventHub :=
  let held : Staged := ⟨site,event,(occurredAt.map fun occurred => min occurred now).getD now⟩
  { hub with staged := Function.update hub.staged messageId (hub.staged messageId ++ [held]) }

/-- An event past the window is not kept, nor is one of a new site when there is no room for it. -/
def push (staged : Staged) (now : Timestamp) : SiteEventHub :=
  if staged.instant < now - windowAge then hub
  else if (hub.sites staged.site).isNone && sitesMax ≤ hub.size then hub
  else hub.put staged.site ((hub.log staged.site).append staged.event staged.instant now)

/-- The events that settling passes on. -/
def settled (messageId : MessageId) (committed : Bool) : List Staged := if committed then hub.staged messageId else []

def settle (messageId : MessageId) (committed : Bool) (now : Timestamp) : SiteEventHub :=
  (hub.settled messageId committed).foldl (fun hub staged => hub.push staged now)
    { hub with staged := Function.update hub.staged messageId [] }

def read (site : SiteId) (cursor : Nat) (owner : Bool) : Read :=
  match hub.sites site with
  | none => .events [] 0
  | some log => log.read cursor owner

/-- The sequence of the last event, read with a cursor that nothing comes after. -/
def last (site : SiteId) : Nat := ((hub.sites site).map SiteLog.last).getD 0

theorem push_staged (staged : Staged) (now : Timestamp) : (hub.push staged now).staged = hub.staged := by
  unfold push
  split
  · rfl
  · split <;> rfl

end SiteEventHub

end Ratatoskr.PublicApi
