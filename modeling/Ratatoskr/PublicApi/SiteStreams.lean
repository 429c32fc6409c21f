import Ratatoskr.Lib.Run
import Ratatoskr.Lib.Text
import Ratatoskr.PublicApi.SiteEvents

/-! The connections of the site event stream beside the deliveries that feed it. Each access to the hub is a
step of its own. -/
set_option linter.unusedSectionVars false

namespace Ratatoskr.PublicApi.SiteStream

variable {τ γ : Type} [DecidableEq τ] [DecidableEq γ]

section Ids

/-- A UUID as its 32 digits. -/
def simple (uuid : Nat) : String :=
  .ofList ((List.range 32).map fun i => "0123456789abcdef".toList.getD (uuid / 16 ^ (31 - i) % 16) '0')

def u64Max : Nat := 18446744073709551615

def parseU64 (raw : List Char) : Option Nat :=
  if raw.head? = some '-' then none
  else ((Text.ofDecimal raw).filter fun value => value ≤ (u64Max : Int)).map Int.toNat

/-- The id of an event, `<epoch>.<sequence>`. -/
def eventId (hub : SiteEventHub) (sequence : Nat) : List Char := hub.epoch.toList ++ '.' :: Text.decimal (sequence : Int)

/-- The sequence that a `Last-Event-ID` names, if this process issued it and it is not past the last event. -/
def cursorOf (hub : SiteEventHub) (site : SiteId) (lastEventId : List Char) : Option Nat :=
  (((Text.splitOnce '.' lastEventId).filter fun parts => parts.1 = hub.epoch.toList).bind fun parts => parseU64 parts.2).filter
    fun sequence => sequence ≤ hub.last site

end Ids

/-- One block of a stream, by the sequence in its id. -/
structure Frame where
  sequence : Nat
  event : SiteEvent
deriving DecidableEq

/-- The state of a connection: `seen` is the last wake it has seen. `start` and `received` are its history. -/
structure Reader where
  seen : Nat
  cursor : Nat
  pending : List Frame
  waiting : Bool
  start : Nat
  received : List Frame

/-- A connection between its requests to the hub. -/
inductive Phase where
  | admitted
  | subscribed (seen : Nat)
  | unknown (seen : Nat)
  | reading (reader : Reader)
  | closed

/-- A connection; `client` is its key unless it is one of a site owner session. -/
structure Connection where
  site : SiteId
  client : Option String
  lastEventId : Option (List Char)
  phase : Phase

def Connection.owner (connection : Connection) : Bool := connection.client.isNone

/-- A delivery under way: its transaction is open or has ended, or its events are being appended. -/
inductive Turn where
  | opened (messageId : MessageId) (staged : List Staged)
  | ended (messageId : MessageId) (staged : List Staged) (committed : Bool)
  | pushing (rest : List Staged) (now : Timestamp)
deriving DecidableEq

/-- What settling a delivery passed on. -/
structure Settlement where
  staged : List Staged
  committed : Bool
  passedOn : List Staged
deriving DecidableEq

/-- The hub with the deliveries of its consumers and its connections. `recorded` and `holder` are the inbox: the
messages on record, and the delivery that claims a message. `history` are the events that were ever appended, and
`pushed` those that were to be. -/
structure Fanout (τ γ : Type) where
  hub : SiteEventHub
  recorded : MessageId → Bool
  holder : MessageId → Option τ
  turns : τ → Option Turn
  connections : γ → Option Connection
  history : SiteId → List Stored
  settlements : List Settlement
  pushed : List Staged

inductive Action (τ γ : Type) where
  | begin_ (t : τ) (messageId : MessageId)
  | stage (t : τ) (site : SiteId) (event : SiteEvent) (occurredAt : Option Timestamp) (now : Timestamp)
  | finish (t : τ) (committed : Bool)
  | settle (t : τ) (now : Timestamp)
  | push (t : τ)
  | admission (c : γ) (site : SiteId) (client : Option String) (lastEventId : Option (List Char)) (limits : SiteStreamLimits)
  | subscribe (c : γ)
  | resume (c : γ)
  | resync (c : γ)
  | take (c : γ)
  | fill (c : γ)
  | wake (c : γ)
  | tick (c : γ)
  | close (c : γ)

section Hub

/-- `admit` of the hub: whether the bounds leave room for the connection. -/
def admitted (hub : SiteEventHub) (site : SiteId) (client : Option String) (limits : SiteStreamLimits) : SiteEventHub × Bool :=
  if (hub.sites site).isNone && sitesMax ≤ hub.size then (hub,false)
  else
    let log := hub.log site
    match client with
    | some client =>
      if limits.perSite ≤ log.anonymous || limits.perClient ≤ log.clients client then (hub.put site log,false)
      else
        let clients := Function.update log.clients client (log.clients client + 1)
        (hub.put site { log with anonymous := log.anonymous + 1, clients := clients },true)
    | none =>
      if limits.perSiteOwner ≤ log.owners then (hub.put site log,false)
      else (hub.put site { log with owners := log.owners + 1 },true)

/-- Dropping an admitted connection releases its count. -/
def released (hub : SiteEventHub) (site : SiteId) (client : Option String) : SiteEventHub :=
  match hub.sites site,client with
  | none,_ => hub
  | some log,some client => hub.put site { log with
      anonymous := log.anonymous - 1
      clients := Function.update log.clients client (log.clients client - 1) }
  | some log,none => hub.put site { log with owners := log.owners - 1 }

/-- The history of a site after an event was pushed to its buffer. -/
def appended (hub : SiteEventHub) (history : SiteId → List Stored) (staged : Staged) (now : Timestamp) : SiteId → List Stored :=
  if (hub.push staged now).last staged.site = hub.last staged.site then history
  else
    let stored : Stored := ⟨hub.last staged.site + 1,staged.instant,staged.event⟩
    Function.update history staged.site (history staged.site ++ [stored])

end Hub

namespace Reader

/-- A connection that starts after this sequence. -/
def starting (seen cursor : Nat) : Reader := ⟨seen,cursor,[],false,cursor,[]⟩

/-- Queues `resync` and continues after `last`. -/
def resync (reader : Reader) (last : Nat) : Reader :=
  { reader with cursor := last, pending := reader.pending ++ [⟨last,.resync⟩] }

/-- Queues what there is to read; with nothing it waits. -/
def fill (reader : Reader) (found : Read) : Reader :=
  let filled : Reader := match found with
    | .events visible last => { reader with
        cursor := max reader.cursor last
        pending := reader.pending ++ visible.map fun entry => ⟨entry.1,entry.2⟩ }
    | .resync last => reader.resync last
  { filled with waiting := filled.pending.isEmpty }

end Reader

namespace Fanout

def initial (uuid : Nat) : Fanout τ γ :=
  ⟨.init (simple uuid),fun _ => false,fun _ => none,fun _ => none,fun _ => none,fun _ => [],[],[]⟩

def setTurn (s : Fanout τ γ) (t : τ) (turn : Option Turn) : Fanout τ γ := { s with turns := Function.update s.turns t turn }

def setPhase (s : Fanout τ γ) (c : γ) (connection : Connection) (phase : Phase) : Fanout τ γ :=
  { s with connections := Function.update s.connections c (some { connection with phase := phase }) }

def deliver (s : Fanout τ γ) : Action τ γ → Option (Fanout τ γ)
  | .begin_ t messageId =>
    match s.turns t,s.holder messageId,s.recorded messageId with
    | none,none,false => some { s.setTurn t (some (.opened messageId [])) with holder := Function.update s.holder messageId (some t) }
    | _,_,_ => none
  | .stage t site event occurredAt now =>
    match s.turns t with
    | some (.opened messageId own) =>
      let hub := s.hub.stage messageId site event occurredAt now
      let held := own ++ [⟨site,event,(occurredAt.map fun occurred => min occurred now).getD now⟩]
      some { s.setTurn t (some (.opened messageId held)) with hub := hub }
    | _ => none
  | .finish t committed =>
    match s.turns t with
    | some (.opened messageId own) => some { s.setTurn t (some (.ended messageId own committed)) with
        holder := Function.update s.holder messageId none
        recorded := Function.update s.recorded messageId (s.recorded messageId || committed) }
    | _ => none
  | .settle t now =>
    match s.turns t with
    | some (.ended messageId own committed) =>
      let rest := s.hub.settled messageId committed
      some { s.setTurn t (some (.pushing rest now)) with
        settlements := s.settlements ++ [⟨own,committed,rest⟩]
        hub := { s.hub with staged := Function.update s.hub.staged messageId [] } }
    | _ => none
  | .push t =>
    match s.turns t with
    | some (.pushing [] _) => some (s.setTurn t none)
    | some (.pushing (staged :: rest) now) => some { s.setTurn t (some (.pushing rest now)) with
        hub := s.hub.push staged now
        history := appended s.hub s.history staged now
        pushed := s.pushed ++ [staged] }
    | _ => none
  | _ => none

def connect (s : Fanout τ γ) : Action τ γ → Option (Fanout τ γ)
  | .admission c site client lastEventId limits =>
    if (s.connections c).isSome then none
    else
      let (hub,room) := admitted s.hub site client limits
      some { (if room then s.setPhase c ⟨site,client,lastEventId,.admitted⟩ .admitted else s) with hub := hub }
  | .subscribe c =>
    match s.connections c with
    | some connection =>
      match connection.phase with
      | .admitted => some { s.setPhase c connection (.subscribed (s.hub.log connection.site).wake) with
          hub := s.hub.put connection.site (s.hub.log connection.site) }
      | _ => none
    | none => none
  | .resume c =>
    match s.connections c with
    | some connection =>
      match connection.phase,connection.lastEventId with
      | .subscribed seen,none => some (s.setPhase c connection (.reading (.starting seen (s.hub.last connection.site))))
      | .subscribed seen,some raw =>
        match cursorOf s.hub connection.site raw with
        | some cursor => some (s.setPhase c connection (.reading (.starting seen cursor)))
        | none => some (s.setPhase c connection (.unknown seen))
      | _,_ => none
    | none => none
  | .resync c =>
    match s.connections c with
    | some connection =>
      match connection.phase with
      | .unknown seen =>
        let last := s.hub.last connection.site
        some (s.setPhase c connection (.reading ((Reader.starting seen last).resync last)))
      | _ => none
    | none => none
  | _ => none

/-- A step of the loop of a connection. -/
def turn (s : Fanout τ γ) (connection : Connection) (reader : Reader) : Action τ γ → Option Reader
  | .take _ =>
    match reader.waiting,reader.pending with
    | false,frame :: rest => some { reader with pending := rest, received := reader.received ++ [frame] }
    | _,_ => none
  | .fill _ =>
    if reader.waiting || !reader.pending.isEmpty then none
    else some (reader.fill (s.hub.read connection.site reader.cursor connection.owner))
  | .wake _ =>
    if reader.waiting && reader.seen ≠ (s.hub.log connection.site).wake then
      some { reader with seen := (s.hub.log connection.site).wake, waiting := false }
    else none
  | .tick _ => if reader.waiting && connection.owner then some { reader with waiting := false } else none
  | _ => none

def follow (s : Fanout τ γ) (c : γ) (action : Action τ γ) : Option (Fanout τ γ) :=
  match s.connections c with
  | some connection =>
    match connection.phase with
    | .reading reader => (s.turn connection reader action).map fun reader => s.setPhase c connection (.reading reader)
    | _ => none
  | none => none

/-- The client goes away, or the session of the owner has ended. -/
def close (s : Fanout τ γ) (c : γ) : Option (Fanout τ γ) :=
  match s.connections c with
  | some connection =>
    match connection.phase with
    | .closed => none
    | _ => some { s.setPhase c connection .closed with hub := released s.hub connection.site connection.client }
  | none => none

def step (s : Fanout τ γ) (action : Action τ γ) : Option (Fanout τ γ) :=
  match action with
  | .take c | .fill c | .wake c | .tick c => s.follow c action
  | .close c => s.close c
  | .admission .. | .subscribe _ | .resume _ | .resync _ => s.connect action
  | _ => s.deliver action

end Fanout

section Promises

/-- The blocks of the events between two sequences that a caller may see. -/
def between (history : List Stored) (owner : Bool) (first last : Nat) : List Frame :=
  ((history.filter fun stored => first < stored.sequence && stored.sequence ≤ last).filter fun stored =>
    owner || stored.event.isRelease).map fun stored => ⟨stored.sequence,stored.event⟩

/-- What a connection is sent from a cursor to a later one: the events in between, each once and in order, or one
`resync` where the event after a cursor has left the buffer. -/
inductive Trail (history : List Stored) (lost : Nat → Prop) (owner : Bool) (start : Nat) : List Frame → Nat → Prop where
  | start : Trail history lost owner start [] start
  | events {sent : List Frame} {first last : Nat} (before : Trail history lost owner start sent first) (onward : first ≤ last) :
      Trail history lost owner start (sent ++ between history owner first last) last
  | resync {sent : List Frame} {first last : Nat} (before : Trail history lost owner start sent first) (onward : first < last)
      (gone : lost (first + 1)) : Trail history lost owner start (sent ++ [⟨last,.resync⟩]) last

/-- An event of a site has left its buffer. -/
def Lost (hub : SiteEventHub) (site : SiteId) (sequence : Nat) : Prop :=
  0 < sequence ∧ sequence ≤ hub.last site ∧ ∀ stored ∈ (hub.log site).events, stored.sequence ≠ sequence

/-- What was sent to a connection and what waits to be sent. -/
def Reader.sent (reader : Reader) : List Frame := reader.received ++ reader.pending

/-- The buffer of a site holds the last of its events, without a gap. -/
structure Buffered (log : SiteLog) (history : List Stored) : Prop where
  last : log.last = history.length
  wake : log.wake = log.last
  sequences : history.map Stored.sequence = List.range' 1 history.length
  suffix : log.events <:+ history
  contiguous : log.events.map Stored.sequence = List.range' (log.last + 1 - log.events.length) log.events.length
  bounded : log.events.length ≤ windowEvents
  /-- The last event is among them. -/
  nonempty : history ≠ [] → log.events ≠ []

/-- The connection reads. -/
def Fanout.Reads (s : Fanout τ γ) (c : γ) (connection : Connection) (reader : Reader) : Prop :=
  s.connections c = some connection ∧ connection.phase = .reading reader

/-- What the stream promises of a state. -/
structure Streams (s : Fanout τ γ) : Prop where
  buffered : ∀ site, Buffered (s.hub.log site) (s.history site)
  /-- Settling passes on what the delivery has staged if it committed, and nothing if it was rolled back. -/
  settled : ∀ settlement ∈ s.settlements,
    settlement.passedOn = if settlement.committed then settlement.staged else []
  /-- What was ever appended was passed on by a settlement, -/
  appended : ∀ site, ((s.history site).map fun stored => (stored.event,stored.instant)).Sublist
    ((s.pushed.filter fun staged => staged.site = site).map fun staged => (staged.event,staged.instant))
  pushed : ∀ staged ∈ s.pushed, ∃ settlement ∈ s.settlements, staged ∈ settlement.passedOn
  /-- and what settlements pass on is to be appended by the time that no delivery is under way. -/
  reached : (∀ t, s.turns t = none) → ∀ settlement ∈ s.settlements, ∀ staged ∈ settlement.passedOn, staged ∈ s.pushed
  /-- Without an id a connection continues after the last event, -/
  fresh : ∀ c connection seen, s.connections c = some connection → connection.phase = .subscribed seen →
    connection.lastEventId = none →
    s.step (.resume c) = some (s.setPhase c connection (.reading (.starting seen (s.hub.last connection.site))))
  /-- with the id of an event it continues after that, -/
  resumes : ∀ c connection seen sequence, s.connections c = some connection → connection.phase = .subscribed seen →
    connection.lastEventId = some (eventId s.hub sequence) → sequence ≤ s.hub.last connection.site → sequence ≤ u64Max →
    s.step (.resume c) = some (s.setPhase c connection (.reading (.starting seen sequence)))
  /-- and with one of another epoch, or past the last event, it starts with `resync`. -/
  foreign : ∀ c connection seen raw, s.connections c = some connection → connection.phase = .subscribed seen →
    connection.lastEventId = some raw →
    (∀ number sequence, raw = s.hub.epoch.toList ++ '.' :: number → parseU64 number = some sequence →
      s.hub.last connection.site < sequence) →
    s.step (.resume c) = some (s.setPhase c connection (.unknown seen))
  unknown : ∀ c connection seen, s.connections c = some connection → connection.phase = .unknown seen →
    s.step (.resync c) = some (s.setPhase c connection (.reading
      ⟨seen,s.hub.last connection.site,[⟨s.hub.last connection.site,.resync⟩],false,s.hub.last connection.site,[]⟩))
  trail : ∀ c connection reader, s.Reads c connection reader → ∃ first sent, reader.sent = first ++ sent ∧
    (first = [] ∨ connection.lastEventId ≠ none ∧ first = [⟨reader.start,.resync⟩]) ∧
      Trail (s.history connection.site) (Lost s.hub connection.site) connection.owner reader.start sent reader.cursor
  /-- What a connection reads next is `resync` exactly when an event after its cursor has left the buffer. -/
  next : ∀ c connection reader, s.Reads c connection reader →
    ((∃ sequence, reader.cursor < sequence ∧ Lost s.hub connection.site sequence) ↔
      s.hub.read connection.site reader.cursor connection.owner = .resync (s.hub.last connection.site))
  anonymous : ∀ c connection reader, s.Reads c connection reader → connection.owner = false →
    ∀ frame ∈ reader.sent, frame.event.isRelease = true ∨ frame.event = .resync
  /-- A connection that waits for a wake has been sent everything. -/
  caughtUp : ∀ c connection reader, s.Reads c connection reader → reader.waiting = true →
    reader.seen = (s.hub.log connection.site).wake →
    reader.pending = [] ∧ reader.cursor = s.hub.last connection.site

end Promises

end Ratatoskr.PublicApi.SiteStream
