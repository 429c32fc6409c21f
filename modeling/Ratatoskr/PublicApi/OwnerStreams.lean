import Ratatoskr.Identity.Credentials
import Ratatoskr.PublicApi.SiteConnections
import Ratatoskr.Sites.Tables

/-! The owner connections of the site event stream: each checks its session again while it streams, and ends with it. -/
namespace Ratatoskr.PublicApi.SiteStream

open Identity (Session siteOwnerIdle)
open Sites (siteAudience)
open StateMachine

section Model

/-- The session of a site owner, as `authenticate` finds it -/
def isLive (row : Session) (token : Digest) (site : SiteId) (now : Timestamp) : Bool :=
  row.authenticates token (siteAudience site) now && row.kind == .siteOwner

/-- When a session ends unless it is used again -/
def endOf (row : Session) : Timestamp :=
  min (fromOffset row.expiresAt) (fromOffset (row.lastSeenAt.getD row.issuedAt) + siteOwnerIdle)

/-- What the last check found: `seen` is when its statement ran, and `since` when the interval to the next one began. -/
structure Sighting where
  row : Session
  wall : Timestamp
  seen : Nat
  since : Nat

/-- What a connection knows of its session -/
structure OwnerWatch where
  endsAt : Timestamp
  nextCheck : Nat

/-- When the next check is due, on the clock of the process -/
def OwnerWatch.due (watch : OwnerWatch) (now : Nat) (wall : Timestamp) : Nat :=
  min watch.nextCheck (now + (watch.endsAt - wall).toNat)

/-- How far an owner connection has come: before its stream, or in a turn of its loop. -/
inductive Place where
  | believed
  | found (endsAt : Timestamp)
  | admitted (endsAt : Timestamp)
  | starting (watch : OwnerWatch)
  | top (watch : OwnerWatch)
  | asking (watch : OwnerWatch) (now : Timestamp)
  | answered (watch : OwnerWatch) (now : Timestamp) (seen : Nat) (row : Option Session)
  | cleared (watch : OwnerWatch) (instant : Nat) (wall : Timestamp)
  | waiting (watch : OwnerWatch) (due : Nat)
  | ended

/-- When a frame was handed out: `instant` and `wall` are the clocks of its turn. -/
structure Stamp where
  sighting : Sighting
  instant : Nat
  wall : Timestamp
  endsAt : Timestamp

/-- An owner connection; `sighting` and `stamps` are its history. -/
structure Owner where
  token : Digest
  site : SiteId
  sighting : Sighting
  place : Place
  stamps : List Stamp

/-- The stream on the clocks of the process, with the session rows by their digests. `revoked` are the digests of which
a row was ever revoked. -/
structure Timed (τ γ : Type) where
  fan : Fanout τ γ
  now : Nat
  wall : Timestamp
  sessions : Digest → Option Session
  revoked : Digest → Bool
  owners : γ → Option Owner

inductive OwnerAction (τ γ : Type) where
  | other (action : Action τ γ)
  | elapse (duration : Nat) (wall : Timestamp)
  | elsewhere (token : Digest) (row : Option Session)
  | siteOwner (c : γ) (token : Digest) (site : SiteId)
  | findSession (c : γ)
  | stream (c : γ) (lastEventId : Option (List Char)) (limits : SiteStreamLimits)
  | subscribe (c : γ)
  | resume (c : γ)
  | resync (c : γ)
  | stillLive (c : γ)
  | authenticate (c : γ) (failed : Bool)
  | conclude (c : γ)
  | take (c : γ)
  | fill (c : γ)
  | wake (c : γ)
  | tick (c : γ)
  | drop (c : γ)

/-- The connection of an action -/
def Action.on {τ γ : Type} : Action τ γ → Option γ
  | .admission c _ _ _ _ | .subscribe c | .resume c | .resync c | .take c | .fill c | .wake c | .tick c | .close c => some c
  | _ => none

/-- The owner connection that takes the step -/
def OwnerAction.on {τ γ : Type} : OwnerAction τ γ → Option γ
  | .findSession c | .stream c _ _ | .subscribe c | .resume c | .resync c | .stillLive c | .authenticate c _ | .conclude c
  | .take c | .fill c | .wake c | .tick c | .drop c => some c
  | _ => none

/-- What a connection reads with -/
def Fanout.reader {τ γ : Type} (s : Fanout τ γ) (c : γ) : Option Reader :=
  (s.connections c).bind fun connection =>
    match connection.phase with
    | .reading reader => some reader
    | _ => none

namespace Timed

variable {τ γ : Type}

def initial (uuid : Nat) : Timed τ γ := ⟨.initial uuid,0,0,fun _ => none,fun _ => false,fun _ => none⟩

variable [DecidableEq τ] [DecidableEq γ]

def setOwner (s : Timed τ γ) (c : γ) (owner : Owner) : Timed τ γ := { s with owners := Function.update s.owners c (some owner) }

/-- A step of the stream that takes the owner connection to its next place -/
def moved (s : Timed τ γ) (c : γ) (action : Action τ γ) (onward : Fanout τ γ → Owner) : Option (Timed τ γ) :=
  (s.fan.step action).map fun fan => { s.setOwner c (onward fan) with fan := fan }

/-- What the stream does for deliveries and for the anonymous connections -/
def isOther (s : Timed τ γ) (action : Action τ γ) : Bool :=
  (action.on.all fun c => (s.owners c).isNone) &&
    match action with
    | .admission _ _ client _ _ => client.isSome
    | _ => true

/-- What happens outside the connections; a revocation is not taken back. -/
def outside (s : Timed τ γ) : OwnerAction τ γ → Option (Timed τ γ)
  | .other action => if s.isOther action then (s.fan.step action).map fun fan => { s with fan := fan } else none
  | .elapse duration wall => some { s with now := s.now + duration, wall := wall }
  | .elsewhere token row =>
    if s.revoked token && !row.all (·.revokedAt.isSome) then none
    else some { s with
      sessions := Function.update s.sessions token row
      revoked := Function.update s.revoked token (s.revoked token || row.any (·.revokedAt.isSome)) }
  | .siteOwner c token site =>
    match s.owners c,s.fan.connections c,s.sessions token with
    | none,none,some row =>
      if isLive row token site s.wall then some (s.setOwner c ⟨token,site,⟨row,s.wall,s.now,s.now⟩,.believed,[]⟩) else none
    | _,_,_ => none
  | _ => none

variable (checkEvery : Nat)

/-- What an owner connection does from its place -/
def follow (s : Timed τ γ) (c : γ) (owner : Owner) (action : OwnerAction τ γ) : Option (Timed τ γ) :=
  match owner.place,action with
  | .believed,.findSession _ =>
    match s.sessions owner.token with
    | some row => some (s.setOwner c { owner with place := .found (endOf row) })
    | none => none
  | .found endsAt,.stream _ lastEventId limits =>
    s.moved c (.admission c owner.site none lastEventId limits) fun fan =>
      { owner with place := if (fan.connections c).isSome then .admitted endsAt else .ended }
  | .admitted endsAt,.subscribe _ =>
    s.moved c (.subscribe c) fun _ => { owner with
      place := .starting ⟨endsAt,s.now + checkEvery⟩
      sighting := { owner.sighting with since := s.now } }
  | .starting watch,.resume _ =>
    s.moved c (.resume c) fun fan => { owner with place := if (fan.reader c).isSome then .top watch else .starting watch }
  | .starting watch,.resync _ => s.moved c (.resync c) fun _ => { owner with place := .top watch }
  | .top watch,.stillLive _ => some (s.setOwner c { owner with
      place := if s.now < watch.due s.now s.wall then .cleared watch s.now s.wall else .asking watch s.wall })
  | .asking watch now,.authenticate _ failed =>
    let row := if failed then none else (s.sessions owner.token).filter (isLive · owner.token owner.site now)
    some (s.setOwner c { owner with place := .answered watch now s.now row })
  | .answered _ now seen (some row),.conclude _ => some (s.setOwner c { owner with
      place := .cleared ⟨endOf row,s.now + checkEvery⟩ s.now s.wall
      sighting := ⟨row,now,seen,s.now⟩ })
  | .answered _ _ _ none,.conclude _ => s.moved c (.close c) fun _ => { owner with place := .ended }
  | .cleared watch instant wall,.take _ =>
    s.moved c (.take c) fun _ => { owner with
      place := .top watch
      stamps := owner.stamps ++ [⟨owner.sighting,instant,wall,watch.endsAt⟩] }
  | .cleared watch _ _,.fill _ =>
    s.moved c (.fill c) fun fan => { owner with
      place := if (fan.reader c).any (·.waiting) then .waiting watch (watch.due s.now s.wall) else .top watch }
  | .waiting watch _,.wake _ => s.moved c (.wake c) fun _ => { owner with place := .top watch }
  | .waiting watch due,.tick _ =>
    if due ≤ s.now then s.moved c (.tick c) fun _ => { owner with place := .top watch } else none
  | _,.drop _ => s.moved c (.close c) fun _ => { owner with place := .ended }
  | _,_ => none

def owned (s : Timed τ γ) (c : γ) (action : OwnerAction τ γ) : Option (Timed τ γ) :=
  (s.owners c).bind fun owner => s.follow checkEvery c owner action

def step (s : Timed τ γ) (action : OwnerAction τ γ) : Option (Timed τ γ) :=
  match action.on with
  | some c => s.owned checkEvery c action
  | none => s.outside action

end Timed

end Model

section Promises

variable {τ γ : Type}

/-- When a frame was handed out: after a check that found the session live, within the interval from there, and before
the end that the check had found, unless in the turn of the check itself. -/
structure Covered (checkEvery : Nat) (token : Digest) (site : SiteId) (stamp : Stamp) : Prop where
  live : isLive stamp.sighting.row token site stamp.sighting.wall = true
  seen : stamp.sighting.seen ≤ stamp.sighting.since
  since : stamp.sighting.since ≤ stamp.instant
  within : stamp.instant ≤ stamp.sighting.since + checkEvery
  ending : stamp.wall < stamp.endsAt ∨ stamp.instant = stamp.sighting.since

def Phase.received : Phase → Nat
  | .reading reader => reader.received.length
  | _ => 0

/-- How many frames a connection was handed -/
def Fanout.receivedCount (s : Fanout τ γ) (c : γ) : Nat := ((s.connections c).map (·.phase.received)).getD 0

/-- A stream begins, and goes on after a check, within this time of the statement that found its session live. -/
def Owner.isPrompt (latency now : Nat) (owner : Owner) : OwnerAction τ γ → Bool
  | .subscribe _ => now ≤ owner.sighting.seen + latency
  | .conclude _ =>
    match owner.place with
    | .answered _ _ seen (some _) => now ≤ seen + latency
    | _ => true
  | _ => true

def Prompt (latency : Nat) (s : Timed τ γ) (action : OwnerAction τ γ) : Prop :=
  (action.on.bind s.owners).all (·.isPrompt latency s.now action) = true

instance (latency : Nat) (s : Timed τ γ) (action : OwnerAction τ γ) : Decidable (Prompt latency s action) :=
  inferInstanceAs (Decidable (_ = true))

end Promises

end Ratatoskr.PublicApi.SiteStream
