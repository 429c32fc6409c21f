import Ratatoskr.Identity.Credentials
import Ratatoskr.PublicApi.Paging

/-! The listings of what a user manages: the live sessions and the active devices. The storage layer fetches
one row too many and drops it, and the handler takes a full page for one that has a successor. -/
namespace Ratatoskr

namespace Identity

section Sessions

/-- One row of `identity.sessions` with its id. -/
abbrev StoredSession := SessionId × Session

def StoredSession.place (row : StoredSession) : Int × Nat := (row.2.issuedAt,row.1)

/-- What the listing joins: the devices by their ids, and the hostname of a site's approval. -/
structure Joined where
  device : DeviceId → Option Device
  hostname : String → Option String

structure DeviceRef where
  deviceId : DeviceId
  kind : DeviceKind
  displayName : Option String

structure ListedSession where
  sessionId : SessionId
  kind : SessionKind
  device : Option DeviceRef
  issuedAt : Timestamp
  expiresAt : Timestamp
  lastSeenAt : Option Timestamp
  siteId : Option String
  hostname : Option String

/-- The site of a session, if it has an approval: `substr(s.audience, 6)`. -/
def Joined.site (joined : Joined) (row : Session) : Option (String × String) :=
  if row.kind = .siteOwner then
    let siteId := String.ofList (row.audience.toList.drop 5)
    (joined.hostname siteId).map fun hostname => (siteId,hostname)
  else none

def ListedSession.of (joined : Joined) (row : StoredSession) : ListedSession where
  sessionId := row.1
  kind := row.2.kind
  device := row.2.deviceId.bind fun deviceId =>
    (joined.device deviceId).map fun device => ⟨deviceId,device.kind,device.displayName⟩
  issuedAt := fromOffset row.2.issuedAt
  expiresAt := fromOffset row.2.expiresAt
  lastSeenAt := row.2.lastSeenAt.map fromOffset
  siteId := (joined.site row.2).map (·.1)
  hostname := (joined.site row.2).map (·.2)

/-- The rows of `LISTED_FROM` -/
def StoredSession.isListed (userId : UserId) (now : Timestamp) (row : StoredSession) : Bool :=
  row.2.userId == userId && row.2.isLiveAt now &&
  (row.2.kind != .siteOwner || toOffset (now - siteOwnerIdle) < row.2.lastSeenAt.getD row.2.issuedAt)

def listLiveSessions (joined : Joined) (userId : UserId) (now : Timestamp) (after : Option Anchor) (limit : Int)
    (stored : List StoredSession) : List ListedSession :=
  ((selectBefore StoredSession.place (StoredSession.isListed userId now) after (limit + 1).toNat stored).map
    (.of joined)).take limit.toNat

end Sessions

section Devices

/-- One row of `identity.registered_devices` with its id. -/
abbrev StoredDevice := DeviceId × Device

def StoredDevice.place (row : StoredDevice) : Int × Nat := (row.2.createdAt,row.1)

structure ListedDevice where
  deviceId : DeviceId
  kind : DeviceKind
  displayName : Option String
  createdAt : Timestamp
  lastSeenAt : Option Timestamp

def ListedDevice.of (row : StoredDevice) : ListedDevice where
  deviceId := row.1
  kind := row.2.kind
  displayName := row.2.displayName
  createdAt := fromOffset row.2.createdAt
  lastSeenAt := row.2.lastSeenAt.map fromOffset

def StoredDevice.isActive (userId : UserId) (row : StoredDevice) : Bool := row.2.userId == userId && row.2.revokedAt.isNone

def listActiveDevices (userId : UserId) (after : Option Anchor) (limit : Int) (stored : List StoredDevice) :
    List ListedDevice :=
  ((selectBefore StoredDevice.place (StoredDevice.isActive userId) after (limit + 1).toNat stored).map .of).take
    limit.toNat

end Devices

end Identity

namespace PublicApi

open Identity

/-- The query string of these listings, as text. -/
structure PageParams where
  limit : Option String
  cursor : Option String

/-- The cursor of a full page. -/
def fullPageCursor {ι : Type} (limit : Int) (items : List ι) (encode : ι → String) : Option String :=
  (if items.length = limit.toNat then items.getLast? else none).map encode

section Handlers

variable (uuid : UuidText)

/-- `GET /v1/sessions` -/
def listSessions (params : PageParams) (userId : UserId) (now : Timestamp) (joined : Joined)
    (stored : List StoredSession) : Except FailureKind (Listed ListedSession) := do
  let limit ← pageSize params.limit
  let after ← anchorOf (decodeCursor uuid) params.cursor
  let sessions := listLiveSessions joined userId now after limit stored
  return ⟨sessions,fullPageCursor limit sessions fun last => encodeCursor uuid (last.issuedAt,last.sessionId)⟩

/-- `GET /v1/devices` -/
def listDevices (params : PageParams) (userId : UserId) (stored : List StoredDevice) :
    Except FailureKind (Listed ListedDevice) := do
  let limit ← pageSize params.limit
  let after ← anchorOf (decodeCursor uuid) params.cursor
  let devices := listActiveDevices userId after limit stored
  return ⟨devices,fullPageCursor limit devices fun last => encodeCursor uuid (last.createdAt,last.deviceId)⟩

end Handlers

section Reading

variable {ρ ι : Type}

/-- How a request is answered, by its cursor. -/
abbrev PageAnswer (ι : Type) := Option String → Except FailureKind (Listed ι)

/-- A client that follows `next_cursor` until it is null, how its requests are answered, and what it reads. -/
inductive Reads : Option String → List (PageAnswer ι) → List ι → Prop where
  | last {cursor : Option String} {answer : PageAnswer ι} {items : List ι} (page : answer cursor = .ok ⟨items,none⟩) :
      Reads cursor [answer] items
  | more {cursor : Option String} {text : String} {answer : PageAnswer ι} {answers : List (PageAnswer ι)} {items read : List ι}
      (page : answer cursor = .ok ⟨items,some text⟩) (rest : Reads (some text) answers read) :
      Reads cursor (answer :: answers) (items ++ read)

/-- The rows of a listing that lie behind a cursor. -/
def behind (place : ρ → Int × Nat) (before : Option Anchor) (rows : List ρ) : List ρ :=
  rows.filter fun row => before.all fun anchor => rowLess (place row) anchor.bound

/-- A page and the pages after it give the list that is left behind a cursor; `answers` are the ways a
request may be answered while the list is this one. -/
structure ReadsOn (answers : PageAnswer ι → Prop) (left : List ι) (cursor : Option String) (out : Listed ι) : Prop where
  /-- `next_cursor` is null exactly when nothing follows the page. -/
  told : out.nextCursor = none ↔ out.items = left
  /-- Following it ends, -/
  ends : ∀ answer, answers answer → ∃ n read, Reads cursor (List.replicate (n + 1) answer) read
  /-- and yields the list. -/
  whole : ∀ requests read, (∀ answer ∈ requests, answers answer) → Reads cursor requests read → read = left

/-- An answer with one page of a list, and a cursor if the page is full. -/
structure FullPages (place : ρ → Int × Nat) (item : ρ → ι) (limit : Int) (decode : String → Option Anchor)
    (encode : Anchor → String) (rows : List ρ) (answer : PageAnswer ι) : Prop where
  page : ∀ cursor out, answer cursor = .ok out → ∃ before, anchorOf decode cursor = .ok before ∧
    out.items = ((behind place before rows).take limit.toNat).map item ∧
    out.nextCursor = fullPageCursor limit ((behind place before rows).take limit.toNat) fun row => encode (readPlace place row)
  answers : ∀ cursor before, anchorOf decode cursor = .ok before → ∃ out, answer cursor = .ok out

end Reading

section Pages

variable {ρ ι : Type} {place : ρ → Int × Nat} {item : ρ → ι} {limit : Int} {decode : String → Option Anchor}
  {encode : Anchor → String} {rows : List ρ} {answer : PageAnswer ι}

theorem behind_eq (before : Option Anchor) :
    behind place before rows = Keyset.after (newest ∘ place) (before.map fun anchor => newest anchor.bound) rows := by
  refine List.filter_congr fun row _ => ?_
  cases before with
  | none => rfl
  | some anchor => exact Bool.eq_iff_iff.mpr (by simp [rowLess_iff])

/-- One row too many is fetched and dropped. -/
theorem select_take {wanted : ρ → Bool} {stored : List ρ} (isStored : Ratatoskr.Stored place stored) (before : Option Anchor) :
    ((selectBefore place wanted before (limit + 1).toNat stored).map item).take limit.toNat =
      ((behind place before (listed place wanted stored)).take limit.toNat).map item := by
  rw [selectBefore_eq isStored,← behind_eq,← List.map_take,List.take_take]
  congr 2
  omega

theorem fullPageCursor_map (items : List ρ) (text : ι → String) :
    fullPageCursor limit (items.map item) text = fullPageCursor limit items (text ∘ item) := by
  rw [fullPageCursor,fullPageCursor,List.length_map,List.getLast?_map]
  split
  · rw [Option.map_map]
  · rfl

/-- A page that is not full is the last one, and a full one names its last row. -/
theorem fullPageCursor_cases (positive : 1 ≤ limit) (items : List ρ) (text : ρ → String) :
    (items.length ≠ limit.toNat ∧ fullPageCursor limit items text = none) ∨
      ∃ row, items.length = limit.toNat ∧ items.getLast? = some row ∧ fullPageCursor limit items text = some (text row) := by
  unfold fullPageCursor
  by_cases full : items.length = limit.toNat
  · cases ends : items.getLast? with
    | none =>
      rw [List.getLast?_eq_none_iff.mp ends,List.length_nil] at full
      omega
    | some row => exact Or.inr ⟨row,full,rfl,by simp [full]⟩
  · exact Or.inl ⟨full,by simp [full]⟩

variable (bounds : 1 ≤ limit) (ascending : Keyset.Ascending (newest ∘ place) rows)
  (inRange : ∀ row ∈ rows, InRange ((place row).1 + databaseEpoch)) (uuids : ∀ row ∈ rows, (place row).2 < uuidBound)
  (trips : RoundTrips decode fun anchor => some (encode anchor))

include bounds

theorem take_behind_of_short {before : Option Anchor}
    (short : ((behind place before rows).take limit.toNat).length ≠ limit.toNat) :
    (behind place before rows).take limit.toNat = behind place before rows := by
  rw [List.length_take] at short
  exact List.take_of_length_le (by omega)

include ascending inRange uuids trips

omit bounds in
/-- The cursor of a full page is read back, and behind it lies what is left. -/
theorem behind_resume {before : Option Anchor} {row : ρ}
    (ends : ((behind place before rows).take limit.toNat).getLast? = some row) :
    anchorOf decode (some (encode (readPlace place row))) = .ok (some (readPlace place row)) ∧
      (behind place before rows).take limit.toNat ++ behind place (some (readPlace place row)) rows =
        behind place before rows := by
  have member : row ∈ rows := (List.mem_filter.mp (List.mem_of_mem_take (List.mem_of_getLast? ends))).1
  obtain ⟨text,written,nonempty,read⟩ := trips (place row).1 (place row).2 (inRange row member) (uuids row member)
  obtain rfl : encode (readPlace place row) = text := Option.some.inj written
  refine ⟨by
    rw [readPlace] at nonempty read ⊢
    simp [anchorOf,nonempty,read],?_⟩
  rw [behind_eq] at ends
  rw [behind_eq,behind_eq,Option.map_some,readPlace_bound]
  exact ascending.resume _ _ ends

/-- What is read from a cursor on, however the list is answered. -/
theorem Reads.whole {cursor : Option String} {answers : List (PageAnswer ι)} {read : List ι} (reads : Reads cursor answers read)
    (pages : ∀ answer ∈ answers, FullPages place item limit decode encode rows answer) {before : Option Anchor}
    (here : anchorOf decode cursor = .ok before) : read = (behind place before rows).map item := by
  induction reads generalizing before with
  | last page =>
    obtain ⟨before',here',shown,ended⟩ := (pages _ List.mem_cons_self).page _ _ page
    obtain rfl := Except.ok.inj (here.symm.trans here')
    rcases fullPageCursor_cases bounds ((behind place before rows).take limit.toNat)
      (fun row => encode (readPlace place row)) with ⟨short,-⟩ | ⟨row,-,-,onward⟩
    · rw [take_behind_of_short bounds short] at shown
      exact shown
    · cases ended.trans onward
  | more page rest ih =>
    obtain ⟨before',here',shown,goes⟩ := (pages _ List.mem_cons_self).page _ _ page
    obtain rfl := Except.ok.inj (here.symm.trans here')
    rcases fullPageCursor_cases bounds ((behind place before rows).take limit.toNat)
      (fun row => encode (readPlace place row)) with ⟨-,ended⟩ | ⟨row,-,ends,onward⟩
    · cases goes.trans ended
    · obtain rfl := Option.some.inj (goes.trans onward)
      obtain ⟨back,split⟩ := behind_resume ascending inRange uuids trips ends
      dsimp only at shown
      rw [ih (fun answer member => pages answer (List.mem_cons_of_mem _ member)) back,shown,← List.map_append,split]

theorem reads_end (pages : FullPages place item limit decode encode rows answer) (cursor : Option String)
    {before : Option Anchor} (here : anchorOf decode cursor = .ok before) :
    ∃ n read, Reads cursor (List.replicate (n + 1) answer) read := by
  induction size : (behind place before rows).length using Nat.strongRecOn generalizing cursor before with
  | ind size ih =>
    obtain ⟨⟨items,next⟩,page⟩ := pages.answers cursor before here
    obtain ⟨before',here',shown,goes⟩ := pages.page _ _ page
    obtain rfl := Except.ok.inj (here.symm.trans here')
    rcases fullPageCursor_cases bounds ((behind place before rows).take limit.toNat)
      (fun row => encode (readPlace place row)) with ⟨-,ended⟩ | ⟨row,full,ends,onward⟩
    · obtain rfl : next = none := goes.trans ended
      exact ⟨0,items,.last page⟩
    · obtain rfl : next = _ := goes.trans onward
      obtain ⟨back,split⟩ := behind_resume ascending inRange uuids trips ends
      have whole := congrArg List.length split
      rw [List.length_append] at whole
      obtain ⟨n,read,rest⟩ := ih _ (by omega) _ back rfl
      exact ⟨n + 1,items ++ read,.more page rest⟩

/-- The cursor tells the truth unless the last page is full. -/
theorem readsOn_iff {answers : PageAnswer ι → Prop}
    (pages : ∀ answer, answers answer → FullPages place item limit decode encode rows answer) {cursor : Option String}
    {before : Option Anchor} (here : anchorOf decode cursor = .ok before) {out : Listed ι}
    (answered : answers answer) (page : answer cursor = .ok out) :
    ReadsOn answers ((behind place before rows).map item) cursor out ↔ (behind place before rows).length ≠ limit.toNat := by
  obtain ⟨before',here',shown,next⟩ := (pages answer answered).page _ _ page
  obtain rfl := Except.ok.inj (here.symm.trans here')
  have told : (out.nextCursor = none ↔ out.items = (behind place before rows).map item) ↔
      (behind place before rows).length ≠ limit.toNat := by
    rw [shown,next]
    rcases fullPageCursor_cases bounds ((behind place before rows).take limit.toNat)
      (fun row => encode (readPlace place row)) with ⟨short,ended⟩ | ⟨row,full,-,onward⟩
    · rw [ended,take_behind_of_short bounds short]
      rw [take_behind_of_short bounds short] at short
      simp [short]
    · rw [onward]
      have more : (behind place before rows).length = limit.toNat ↔
          ((behind place before rows).take limit.toNat).map item = (behind place before rows).map item := by
        rw [List.length_take] at full
        constructor
        · intro same
          rw [List.take_of_length_le same.le]
        · intro same
          have sizes := congrArg List.length same
          simp only [List.length_map,List.length_take] at sizes
          omega
      rw [← more]
      simp
  constructor
  · exact fun on => told.mp on.told
  · exact fun apart => ⟨told.mpr apart,fun answer answered => reads_end bounds ascending inRange uuids trips (pages answer answered) cursor here,
      fun requests read all reads => reads.whole bounds ascending inRange uuids trips (fun answer member => pages answer (all answer member)) here⟩

end Pages

section Listings

variable (uuid : UuidText) {limit : Int}

/-- The answers to requests for a user's sessions with this page size, while the list of live ones is this. -/
def SessionAnswers (size : Option String) (userId : UserId) (joined : Joined) (live : List StoredSession)
    (answer : PageAnswer ListedSession) : Prop :=
  ∃ now stored, Ratatoskr.Stored StoredSession.place stored ∧
    listed StoredSession.place (StoredSession.isListed userId now) stored = live ∧
    answer = fun cursor => listSessions uuid ⟨size,cursor⟩ userId now joined stored

def DeviceAnswers (size : Option String) (userId : UserId) (active : List StoredDevice)
    (answer : PageAnswer ListedDevice) : Prop :=
  ∃ stored, Ratatoskr.Stored StoredDevice.place stored ∧ listed StoredDevice.place (StoredDevice.isActive userId) stored = active ∧
    answer = fun cursor => listDevices uuid ⟨size,cursor⟩ userId stored

theorem session_pages {size : Option String} (read : pageSize size = .ok limit) {userId : UserId} {joined : Joined}
    {live : List StoredSession} (answer : PageAnswer ListedSession) (answers : SessionAnswers uuid size userId joined live answer) :
    FullPages StoredSession.place (.of joined) limit (decodeCursor uuid) (encodeCursor uuid) live answer := by
  obtain ⟨now,stored,isStored,rfl,rfl⟩ := answers
  constructor
  · intro cursor out answered
    simp only [listSessions,bind_eq_ok,pure_eq_ok,read,Except.ok.injEq,exists_eq_left'] at answered
    obtain ⟨before,here,rfl⟩ := answered
    refine ⟨before,here,select_take isStored before,?_⟩
    rw [listLiveSessions,select_take isStored before,fullPageCursor_map]
    rfl
  · intro cursor before here
    exact ⟨_,by simp only [listSessions,read,here]; rfl⟩

theorem device_pages {size : Option String} (read : pageSize size = .ok limit) {userId : UserId} {active : List StoredDevice}
    (answer : PageAnswer ListedDevice) (answers : DeviceAnswers uuid size userId active answer) :
    FullPages StoredDevice.place ListedDevice.of limit (decodeCursor uuid) (encodeCursor uuid) active answer := by
  obtain ⟨stored,isStored,rfl,rfl⟩ := answers
  constructor
  · intro cursor out answered
    simp only [listDevices,bind_eq_ok,pure_eq_ok,read,Except.ok.injEq,exists_eq_left'] at answered
    obtain ⟨before,here,rfl⟩ := answered
    refine ⟨before,here,select_take isStored before,?_⟩
    rw [listActiveDevices,select_take isStored before,fullPageCursor_map]
    rfl
  · intro cursor before here
    exact ⟨_,by simp only [listDevices,read,here]; rfl⟩

/-- What the listings of sessions and of devices promise of a page, and of the pages that follow it. -/
theorem managed_read_on_iff :
    (∀ size limit cursor before userId joined live answer out, pageSize size = .ok limit →
      anchorOf (decodeCursor uuid) cursor = .ok before → SessionAnswers uuid size userId joined live answer →
      answer cursor = .ok out →
      (ReadsOn (SessionAnswers uuid size userId joined live)
          ((behind StoredSession.place before live).map (.of joined)) cursor out ↔
        (behind StoredSession.place before live).length ≠ limit.toNat)) ∧
    ∀ size limit cursor before userId active answer out, pageSize size = .ok limit →
      anchorOf (decodeCursor uuid) cursor = .ok before → DeviceAnswers uuid size userId active answer →
      answer cursor = .ok out →
      (ReadsOn (DeviceAnswers uuid size userId active) ((behind StoredDevice.place before active).map .of) cursor out ↔
        (behind StoredDevice.place before active).length ≠ limit.toNat) := by
  constructor
  · intro size limit cursor before userId joined live answer out read here answers page
    have pages := @session_pages uuid limit size read userId joined live
    obtain ⟨now,stored,isStored,rfl,rfl⟩ := id answers
    exact readsOn_iff (pageSize_bounds read).1 (listed_ascending _ isStored)
      (fun row member => isStored.inRange row (mem_listed.mp member).1)
      (fun row member => isStored.uuids row (mem_listed.mp member).1) (cursor_round_trips uuid) pages here answers page
  · intro size limit cursor before userId active answer out read here answers page
    have pages := @device_pages uuid limit size read userId active
    obtain ⟨stored,isStored,rfl,rfl⟩ := id answers
    exact readsOn_iff (pageSize_bounds read).1 (listed_ascending _ isStored)
      (fun row member => isStored.inRange row (mem_listed.mp member).1)
      (fun row member => isStored.uuids row (mem_listed.mp member).1) (cursor_round_trips uuid) pages here answers page

/-- The one device of a user. -/
def onlyDevice : StoredDevice :=
  (3,{ userId := 7, kind := .mobile, displayName := none, secretHash := 1, createdAt := 0, lastSeenAt := none
       revokedAt := none, siteId := none, sessions := [] })

theorem onlyDevice_answers (size : Option String) :
    DeviceAnswers uuid size 7 [onlyDevice] fun cursor => listDevices uuid ⟨size,cursor⟩ 7 [onlyDevice] := by
  refine ⟨[onlyDevice],⟨by simp,?_,?_⟩,?_,rfl⟩
  · intro row member
    obtain rfl := List.mem_singleton.mp member
    decide
  · intro row member
    obtain rfl := List.mem_singleton.mp member
    decide
  · have active : StoredDevice.isActive 7 onlyDevice = true := rfl
    simp [listed,active]

/-- The one device is listed on a page of the default size, without a cursor. -/
theorem managed_read_on_default : ∃ out, listDevices hyphenatedUuid ⟨none,none⟩ 7 [onlyDevice] = .ok out ∧
    ReadsOn (DeviceAnswers hyphenatedUuid none 7 [onlyDevice])
      ((behind StoredDevice.place none [onlyDevice]).map ListedDevice.of) none out := by
  have answers := onlyDevice_answers hyphenatedUuid none
  have size : pageSize none = .ok 20 := rfl
  obtain ⟨out,page⟩ := (device_pages hyphenatedUuid size _ answers).answers none none rfl
  exact ⟨out,page,((managed_read_on_iff hyphenatedUuid).2 none 20 none none 7 [onlyDevice] _ out rfl rfl answers page).mpr
    (by decide)⟩

/-- On a page of one it is followed by nothing, and there is a cursor. -/
theorem full_last_page_has_cursor : ∃ out, listDevices hyphenatedUuid ⟨some "1",none⟩ 7 [onlyDevice] = .ok out ∧
    ¬ReadsOn (DeviceAnswers hyphenatedUuid (some "1") 7 [onlyDevice])
      ((behind StoredDevice.place none [onlyDevice]).map ListedDevice.of) none out := by
  have size : pageSize (some "1") = .ok 1 := by decide
  have answers := onlyDevice_answers hyphenatedUuid (some "1")
  have pages := @device_pages hyphenatedUuid 1 (some "1") size 7 [onlyDevice]
  obtain ⟨out,page⟩ := (pages _ answers).answers none none rfl
  refine ⟨out,page,fun on => ?_⟩
  obtain ⟨stored,isStored,same,-⟩ := id answers
  exact (readsOn_iff (by decide) (same ▸ listed_ascending _ isStored)
    (fun row member => isStored.inRange row (mem_listed.mp (same ▸ member)).1)
    (fun row member => isStored.uuids row (mem_listed.mp (same ▸ member)).1) (cursor_round_trips hyphenatedUuid) pages
    (show anchorOf (decodeCursor hyphenatedUuid) none = .ok none from rfl) answers page).mp on (by decide)

end Listings

end PublicApi

end Ratatoskr
