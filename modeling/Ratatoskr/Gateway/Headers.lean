import Mathlib.Data.List.Nodup
import Ratatoskr.Identity.Tables
import Ratatoskr.Lib.Multimap
import Ratatoskr.Lib.Text

/-! The headers that Edge sends to a domain service and relays back from it. What a `Connection` field nominates
is read from the same map that it filters, and a field that is not visible ASCII is skipped. -/
namespace Ratatoskr.Gateway

open Identity Multimap

section Fields

/-- The characters of a token -/
def isTokenChar (c : Char) : Bool := c.isAlphanum || "!#$%&'*+-.^_`|~".toList.contains c

/-- A token of at most 65535 characters, in lower case -/
def isHeaderName (name : List Char) : Bool :=
  1 ≤ name.length && name.length ≤ 65535 && name.all fun c => isTokenChar c && !c.isUpper

abbrev HeaderName := {name : List Char // isHeaderName name = true}

def HeaderName.fromBytes (text : List Char) : Option HeaderName :=
  if valid : isHeaderName (text.map Char.toLower) = true then some ⟨text.map Char.toLower,valid⟩ else none

def HeaderName.fromStatic (text : String) (valid : isHeaderName text.toList = true) : HeaderName := ⟨text.toList,valid⟩

/-- No control character but a tab; opaque octets are allowed. -/
def isValueByte (b : UInt8) : Bool := (32 ≤ b && b ≠ 127) || b == 9

abbrev HeaderValue := {bytes : List UInt8 // bytes.all isValueByte = true}

def HeaderValue.fromStr (text : String) : Option HeaderValue :=
  if valid : text.toUTF8.toList.all isValueByte = true then some ⟨text.toUTF8.toList,valid⟩ else none

def isVisibleAscii (b : UInt8) : Bool := (32 ≤ b && b < 127) || b == 9

/-- The octets as characters -/
def HeaderValue.chars (value : HeaderValue) : List Char := value.val.map fun b => Char.ofNat b.toNat

def HeaderValue.toStr (value : HeaderValue) : Option (List Char) :=
  if value.val.all isVisibleAscii then some value.chars else none

abbrev HeaderMap := List (HeaderName × HeaderValue)

end Fields

section Names

def connection : HeaderName := .fromStatic "connection" (by decide)
def authorization : HeaderName := .fromStatic "authorization" (by decide)
def cookie : HeaderName := .fromStatic "cookie" (by decide)
def host : HeaderName := .fromStatic "host" (by decide)
def keepAlive : HeaderName := .fromStatic "keep-alive" (by decide)
def proxyAuthenticate : HeaderName := .fromStatic "proxy-authenticate" (by decide)
def proxyAuthorization : HeaderName := .fromStatic "proxy-authorization" (by decide)
def te : HeaderName := .fromStatic "te" (by decide)
def trailer : HeaderName := .fromStatic "trailer" (by decide)
def transferEncoding : HeaderName := .fromStatic "transfer-encoding" (by decide)
def upgrade : HeaderName := .fromStatic "upgrade" (by decide)

def headerUserId : HeaderName := .fromStatic "x-ratatoskr-user-id" (by decide)
def headerDeviceId : HeaderName := .fromStatic "x-ratatoskr-device-id" (by decide)
def headerDeviceKind : HeaderName := .fromStatic "x-ratatoskr-device-kind" (by decide)
def headerSiteId : HeaderName := .fromStatic "x-ratatoskr-site-id" (by decide)
def headerSessionKind : HeaderName := .fromStatic "x-ratatoskr-session-kind" (by decide)
def headerCorrelationId : HeaderName := .fromStatic "x-correlation-id" (by decide)

/-- `RESERVED_PREFIX` -/
def isReserved (name : HeaderName) : Bool := "x-ratatoskr-".toList.isPrefixOf name.val

end Names

section Filtering

def connectionTokens (headers : HeaderMap) : List HeaderName :=
  (((getAll headers connection).filterMap HeaderValue.toStr).flatMap fun value => value.splitOn ',').filterMap
    fun token => HeaderName.fromBytes (trimWhiteSpace token)

/-- What `cleaned` skips -/
def isUnclean (tokens : List HeaderName) (name : HeaderName) : Bool :=
  isReserved name || tokens.contains name ||
  [connection,authorization,cookie,host,proxyAuthenticate,proxyAuthorization,te,trailer,transferEncoding,upgrade].contains name ||
  name == keepAlive

def cleaned (headers : HeaderMap) : HeaderMap := without (isUnclean (connectionTokens headers)) headers

/-- What `response_headers` skips -/
def isUnrelayed (tokens : List HeaderName) (name : HeaderName) : Bool :=
  isReserved name || tokens.contains name ||
  [connection,proxyAuthenticate,proxyAuthorization,te,trailer,transferEncoding,upgrade].contains name || name == keepAlive

def responseHeaders (headers : HeaderMap) : HeaderMap := without (isUnrelayed (connectionTokens headers)) headers

/-- A text that is not a header value is left out. -/
def mint (headers : HeaderMap) (name : HeaderName) (text : String) : HeaderMap :=
  match HeaderValue.fromStr text with
  | some value => Multimap.insert headers name value
  | none => headers

end Filtering

section Claims

def SessionKind.asStr : SessionKind → String
  | .browser => "browser"
  | .device => "device"
  | .telegramMiniApp => "telegram_mini_app"
  | .service => "service"
  | .apiToken => "api_token"
  | .siteOwner => "site_owner"

/-- The believed caller, as the claims name him -/
structure Caller where
  userId : UserId
  deviceId : Option DeviceId
  kind : SessionKind

/-- The identity Edge mints onto one forwarded request. -/
structure Claims where
  principal : Caller
  deviceKind : Option String
  siteId : Option String
  correlationId : String

/-- `uuid` is the text of an id. -/
def forwardedHeaders (uuid : Nat → String) (headers : HeaderMap) (claims : Claims) : HeaderMap :=
  let forwarded := mint (cleaned headers) headerUserId (uuid claims.principal.userId)
  let forwarded :=
    match claims.principal.deviceId with
    | some deviceId => mint forwarded headerDeviceId (uuid deviceId)
    | none => forwarded
  let forwarded :=
    match claims.deviceKind with
    | some deviceKind => mint forwarded headerDeviceKind deviceKind
    | none => forwarded
  let forwarded :=
    match claims.siteId with
    | some siteId => mint forwarded headerSiteId siteId
    | none => forwarded
  let forwarded := mint forwarded headerSessionKind (SessionKind.asStr claims.principal.kind)
  mint forwarded headerCorrelationId claims.correlationId

def anonymousSessionKind : String := "anonymous"

def anonymousHeaders (headers : HeaderMap) (correlationId : String) : HeaderMap :=
  mint (mint (cleaned headers) headerSessionKind anonymousSessionKind) headerCorrelationId correlationId

end Claims

section Purpose

/-- The space of a list in a field -/
def isOws (c : Char) : Bool := c == ' ' || c == '\t'

def trimOws (text : List Char) : List Char := ((text.dropWhile isOws).reverse.dropWhile isOws).reverse

/-- An element of the comma-separated value is the name, in any case. -/
def HeaderValue.Nominates (value : HeaderValue) (name : HeaderName) : Prop :=
  ∃ option ∈ value.chars.splitOn ',', HeaderName.fromBytes (trimOws option) = some name

/-- Some `Connection` field nominates the header. -/
def Nominated (headers : HeaderMap) (name : HeaderName) : Prop := ∃ value ∈ getAll headers connection, value.Nominates name

def hopByHop : List HeaderName :=
  [connection,keepAlive,proxyAuthenticate,proxyAuthorization,te,trailer,transferEncoding,upgrade]

def credentials : List HeaderName := [authorization,cookie,host]

/-- The claims as headers -/
def Claims.minted (uuid : Nat → String) (claims : Claims) : List (HeaderName × String) :=
  [(headerUserId,uuid claims.principal.userId)] ++
  (claims.principal.deviceId.map fun deviceId => (headerDeviceId,uuid deviceId)).toList ++
  (claims.deviceKind.map fun deviceKind => (headerDeviceKind,deviceKind)).toList ++
  (claims.siteId.map fun siteId => (headerSiteId,siteId)).toList ++
  [(headerSessionKind,SessionKind.asStr claims.principal.kind),(headerCorrelationId,claims.correlationId)]

def anonymousMinted (correlationId : String) : List (HeaderName × String) :=
  [(headerSessionKind,anonymousSessionKind),(headerCorrelationId,correlationId)]

/-- Every header but the minted ones that must not pass -/
def Withheld (headers : HeaderMap) (name : HeaderName) : Prop :=
  isReserved name = true ∨ name ∈ credentials ∨ name ∈ hopByHop ∨ Nominated headers name

/-- What a domain service is to receive for the headers of a client: each claim once, nothing that is withheld,
and the rest as it came. -/
structure Forwards (headers : HeaderMap) (minted : List (HeaderName × String)) (forwarded : HeaderMap) : Prop where
  claims : ∀ name text, (name,text) ∈ minted → ∃ value, HeaderValue.fromStr text = some value ∧
    getAll forwarded name = [value]
  withheld : ∀ name, name ∉ minted.map (·.1) → Withheld headers name → getAll forwarded name = []
  passed : ∀ name, name ∉ minted.map (·.1) → ¬Withheld headers name → getAll forwarded name = getAll headers name

/-- What must not come back from a domain service -/
def Unrelayed (headers : HeaderMap) (name : HeaderName) : Prop :=
  isReserved name = true ∨ name ∈ hopByHop ∨ Nominated headers name

/-- What a client is to receive for the headers of an answer. -/
structure Relays (headers : HeaderMap) (relayed : HeaderMap) : Prop where
  withheld : ∀ name, Unrelayed headers name → getAll relayed name = []
  passed : ∀ name, ¬Unrelayed headers name → getAll relayed name = getAll headers name

/-- A `Connection` field that can be read as text nominates the header. -/
def NominatedLegibly (headers : HeaderMap) (name : HeaderName) : Prop :=
  ∃ value ∈ getAll headers connection, value.toStr.isSome = true ∧ value.Nominates name

/-- A header that is there and that a `Connection` field nominates which cannot be read as text -/
def NominatedOpaquely (headers : HeaderMap) (name : HeaderName) : Prop :=
  getAll headers name ≠ [] ∧ ∃ value ∈ getAll headers connection, value.toStr.isSome = false ∧ value.Nominates name

end Purpose

section Tokens

variable {headers : HeaderMap} {name : HeaderName}

theorem isWhiteSpace_of_visible {b : UInt8} (visible : isVisibleAscii b = true) :
    isWhiteSpace (Char.ofNat b.toNat) = isOws (Char.ofNat b.toNat) := by
  have codes : ∀ n < 127, 32 ≤ n ∨ n = 9 → isWhiteSpace (Char.ofNat n) = isOws (Char.ofNat n) := by decide +kernel
  simp only [isVisibleAscii,Bool.or_eq_true,Bool.and_eq_true,decide_eq_true_eq,beq_iff_eq,UInt8.le_iff_toNat_le,
    UInt8.lt_iff_toNat_lt] at visible
  rcases visible with ⟨printed,below⟩ | rfl
  · exact codes _ below (Or.inl printed)
  · rfl

theorem dropWhile_white {text : List Char} (same : ∀ c ∈ text, isWhiteSpace c = isOws c) :
    text.dropWhile isWhiteSpace = text.dropWhile isOws := by
  induction text with
  | nil => rfl
  | cons c rest ih =>
    rw [List.dropWhile_cons,List.dropWhile_cons,same c List.mem_cons_self,
      ih fun other listed => same other (List.mem_cons_of_mem c listed)]

theorem trimWhiteSpace_eq {text : List Char} (same : ∀ c ∈ text, isWhiteSpace c = isOws c) :
    trimWhiteSpace text = trimOws text := by
  rw [trimWhiteSpace,trimOws,dropWhile_white same,dropWhile_white]
  intro c listed
  exact same c ((List.dropWhile_sublist isOws).subset (List.mem_reverse.mp listed))

theorem chars_white {value : HeaderValue} (visible : value.val.all isVisibleAscii = true) :
    ∀ c ∈ value.chars, isWhiteSpace c = isOws c := by
  intro c listed
  obtain ⟨b,inside,rfl⟩ := List.mem_map.mp listed
  exact isWhiteSpace_of_visible (List.all_eq_true.mp visible b inside)

/-- The tokens that are read are the nominations of the fields that can be read. -/
theorem mem_connectionTokens : name ∈ connectionTokens headers ↔ NominatedLegibly headers name := by
  have white {value : HeaderValue} (visible : value.val.all isVisibleAscii = true) {option : List Char}
      (part : option ∈ value.chars.splitOn ',') : trimWhiteSpace option = trimOws option := by
    refine trimWhiteSpace_eq fun c listed => ?_
    by_cases comma : c = ','
    · subst comma
      rfl
    · exact chars_white visible c ((Text.mem_splitOn comma).mpr ⟨option,part,listed⟩)
  simp only [connectionTokens,List.mem_filterMap,List.mem_flatMap]
  constructor
  · rintro ⟨option,⟨text,⟨value,there,read⟩,part⟩,named⟩
    unfold HeaderValue.toStr at read
    split at read
    · rename_i visible
      obtain rfl := Option.some.inj read
      exact ⟨value,there,by simp [HeaderValue.toStr,visible],option,part,white visible part ▸ named⟩
    · cases read
  · rintro ⟨value,there,legible,option,part,named⟩
    unfold HeaderValue.toStr at legible
    split at legible
    · rename_i visible
      exact ⟨option,⟨value.chars,⟨value,there,by simp [HeaderValue.toStr,visible]⟩,part⟩,(white visible part).symm ▸ named⟩
    · cases legible

end Tokens

section Hygiene

variable {headers : HeaderMap} {name : HeaderName}

/-- The texts of the claims are header values, and what an unreadable `Connection` field nominates is minted or
kept back for another reason. -/
structure ForwardsWhen (headers : HeaderMap) (minted : List (HeaderName × String)) : Prop where
  texts : ∀ name text, (name,text) ∈ minted → (HeaderValue.fromStr text).isSome = true
  nominated : ∀ name, NominatedOpaquely headers name → name ∈ minted.map (·.1) ∨ isReserved name = true ∨
    name ∈ credentials ∨ name ∈ hopByHop ∨ NominatedLegibly headers name

/-- What an unreadable `Connection` field nominates is kept back for another reason. -/
def RelaysWhen (headers : HeaderMap) : Prop :=
  ∀ name, NominatedOpaquely headers name → isReserved name = true ∨ name ∈ hopByHop ∨ NominatedLegibly headers name

theorem isUnclean_iff : isUnclean (connectionTokens headers) name = true ↔
    isReserved name = true ∨ name ∈ credentials ∨ name ∈ hopByHop ∨ NominatedLegibly headers name := by
  rw [← mem_connectionTokens]
  simp only [isUnclean,credentials,hopByHop,Bool.or_eq_true,List.contains_iff_mem,List.mem_cons,List.not_mem_nil,or_false,
    beq_iff_eq]
  grind

theorem isUnrelayed_iff : isUnrelayed (connectionTokens headers) name = true ↔
    isReserved name = true ∨ name ∈ hopByHop ∨ NominatedLegibly headers name := by
  rw [← mem_connectionTokens]
  simp only [isUnrelayed,hopByHop,Bool.or_eq_true,List.contains_iff_mem,List.mem_cons,List.not_mem_nil,or_false,beq_iff_eq]
  grind

/-- A header is nominated by a field that can be read, or by one that cannot. -/
theorem nominated_cases (there : getAll headers name ≠ []) (nominated : Nominated headers name) :
    NominatedLegibly headers name ∨ NominatedOpaquely headers name := by
  obtain ⟨value,field,names⟩ := nominated
  cases read : value.toStr.isSome with
  | true => exact Or.inl ⟨value,field,read,names⟩
  | false => exact Or.inr ⟨there,value,field,read,names⟩

theorem NominatedLegibly.nominated (legibly : NominatedLegibly headers name) : Nominated headers name := by
  obtain ⟨value,field,_,names⟩ := legibly
  exact ⟨value,field,names⟩

theorem NominatedOpaquely.nominated (opaquely : NominatedOpaquely headers name) : Nominated headers name := by
  obtain ⟨_,value,field,_,names⟩ := opaquely
  exact ⟨value,field,names⟩

/-- Filtering by what is read keeps back all that is nominated exactly when the unreadable fields add nothing. -/
theorem without_iff {dropped : HeaderName → Bool} {Stopped : HeaderName → Prop}
    (drops : ∀ name, dropped name = true ↔ Stopped name ∨ NominatedLegibly headers name) (exempt : HeaderName → Prop) :
    (∀ name, ¬exempt name → Stopped name ∨ Nominated headers name → getAll (without dropped headers) name = []) ↔
      ∀ name, NominatedOpaquely headers name → exempt name ∨ Stopped name ∨ NominatedLegibly headers name := by
  constructor
  · intro withheld name opaquely
    by_cases spared : exempt name
    · exact Or.inl spared
    · have gone := withheld name spared (Or.inr opaquely.nominated)
      rw [getAll_without] at gone
      split at gone
      · rename_i dropped
        exact Or.inr ((drops name).mp dropped)
      · exact absurd gone opaquely.1
  · intro redundant name spared reason
    rw [getAll_without]
    split
    · rfl
    · rename_i kept
      have passes := mt (drops name).mpr kept
      by_cases there : getAll headers name = []
      · exact there
      · rcases reason with stopped | nominated
        · exact absurd (Or.inl stopped) passes
        · rcases nominated_cases there nominated with legibly | opaquely
          · exact absurd (Or.inr legibly) passes
          · exact absurd ((redundant name opaquely).resolve_left spared) passes

theorem getAll_passed {dropped : HeaderName → Bool} {Stopped : HeaderName → Prop}
    (drops : ∀ name, dropped name = true ↔ Stopped name ∨ NominatedLegibly headers name)
    (passes : ¬(Stopped name ∨ Nominated headers name)) : getAll (without dropped headers) name = getAll headers name := by
  rw [getAll_without,if_neg]
  intro gone
  exact passes (((drops name).mp gone).imp_right NominatedLegibly.nominated)

theorem responseHeaders_iff (headers : HeaderMap) : Relays headers (responseHeaders headers) ↔ RelaysWhen headers := by
  have drops (name : HeaderName) : isUnrelayed (connectionTokens headers) name = true ↔
      (isReserved name = true ∨ name ∈ hopByHop) ∨ NominatedLegibly headers name := by
    rw [isUnrelayed_iff,or_assoc]
  have exact_ := without_iff drops fun _ => False
  simp only [not_false_eq_true,true_imp_iff,false_or,or_assoc] at exact_
  rw [RelaysWhen,← exact_]
  refine ⟨Relays.withheld,fun withheld => ⟨withheld,fun name passes => ?_⟩⟩
  rw [Unrelayed,← or_assoc] at passes
  exact getAll_passed drops passes

theorem mint_eq (headers : HeaderMap) (name : HeaderName) (text : String) :
    mint headers name text = (HeaderValue.fromStr text).elim headers (Multimap.insert headers name) := by
  rw [mint]
  cases HeaderValue.fromStr text <;> rfl

/-- The claims with their header values -/
def values (minted : List (HeaderName × String)) : List (HeaderName × Option HeaderValue) :=
  minted.map fun claim => (claim.1,HeaderValue.fromStr claim.2)

theorem values_names (minted : List (HeaderName × String)) : (values minted).map (·.1) = minted.map (·.1) := by
  simp [values]

/-- What is minted onto the cleaned headers -/
theorem cleaned_iff {minted : List (HeaderName × String)} (distinct : (minted.map (·.1)).Nodup) :
    Forwards headers minted (insertAll (cleaned headers) (values minted)) ↔ ForwardsWhen headers minted := by
  have drops (name : HeaderName) : isUnclean (connectionTokens headers) name = true ↔
      (isReserved name = true ∨ name ∈ credentials ∨ name ∈ hopByHop) ∨ NominatedLegibly headers name := by
    rw [isUnclean_iff,or_assoc,or_assoc]
  have other {name : HeaderName} (unminted : name ∉ minted.map (·.1)) :
      getAll (insertAll (cleaned headers) (values minted)) name = getAll (cleaned headers) name :=
    getAll_insertAll_of_not_mem (values_names minted ▸ unminted)
  have exact_ := without_iff drops fun name => name ∈ minted.map (·.1)
  simp only [or_assoc] at exact_
  constructor
  · intro forwards
    refine ⟨fun name text claimed => ?_,exact_.mp fun name unminted reason => ?_⟩
    · obtain ⟨value,carried,_⟩ := forwards.claims name text claimed
      rw [carried]
      rfl
    · exact (other unminted).symm.trans (forwards.withheld name unminted reason)
  · intro meets
    refine ⟨fun name text claimed => ?_,fun name unminted reason => ?_,fun name unminted passes => ?_⟩
    · obtain ⟨value,carried⟩ := Option.isSome_iff_exists.mp (meets.texts name text claimed)
      refine ⟨value,carried,getAll_insertAll_of_mem (values_names minted ▸ distinct) ?_⟩
      exact List.mem_map.mpr ⟨(name,text),claimed,by rw [carried]⟩
    · exact (other unminted).trans (exact_.mpr meets.nominated name unminted reason)
    · rw [Withheld,← or_assoc,← or_assoc,or_assoc (a := isReserved name = true)] at passes
      exact (other unminted).trans (getAll_passed drops passes)

theorem forwardedHeaders_eq (uuid : Nat → String) (headers : HeaderMap) (claims : Claims) :
    forwardedHeaders uuid headers claims = insertAll (cleaned headers) (values (claims.minted uuid)) := by
  obtain ⟨⟨userId,deviceId,kind⟩,deviceKind,siteId,correlationId⟩ := claims
  simp only [forwardedHeaders,mint_eq]
  cases deviceId <;> cases deviceKind <;> cases siteId <;> rfl

theorem minted_distinct (uuid : Nat → String) (claims : Claims) : ((claims.minted uuid).map (·.1)).Nodup := by
  have all : [headerUserId,headerDeviceId,headerDeviceKind,headerSiteId,headerSessionKind,headerCorrelationId].Nodup := by
    decide
  refine List.Nodup.sublist ?_ all
  obtain ⟨⟨userId,deviceId,kind⟩,deviceKind,siteId,correlationId⟩ := claims
  cases deviceId <;> cases deviceKind <;> cases siteId <;> exact List.isSublist_iff_sublist.mp rfl

/-- In both directions exactly the fields of `Connection` that cannot be read as text are the gap, and a claim
that is not a header value. -/
theorem gateway_headers_iff (uuid : Nat → String) (headers : HeaderMap) :
    (∀ claims : Claims, Forwards headers (claims.minted uuid) (forwardedHeaders uuid headers claims) ↔
      ForwardsWhen headers (claims.minted uuid)) ∧
    (∀ correlationId, Forwards headers (anonymousMinted correlationId) (anonymousHeaders headers correlationId) ↔
      ForwardsWhen headers (anonymousMinted correlationId)) ∧
    (Relays headers (responseHeaders headers) ↔ RelaysWhen headers) := by
  refine ⟨fun claims => ?_,fun correlationId => ?_,responseHeaders_iff headers⟩
  · rw [forwardedHeaders_eq]
    exact cleaned_iff (minted_distinct uuid claims)
  · have same : anonymousHeaders headers correlationId = insertAll (cleaned headers) (values (anonymousMinted correlationId)) := by
      simp only [anonymousHeaders,mint_eq]
      rfl
    rw [same]
    exact cleaned_iff (show [headerSessionKind,headerCorrelationId].Nodup by decide)

/-- A `Connection` field and a header that it may nominate -/
def fieldsOf (nominations : List UInt8) (valid : nominations.all isValueByte = true) : HeaderMap :=
  [(connection,⟨nominations,valid⟩),(.fromStatic "x-secret" (by decide),⟨[49],by decide⟩)]

/-- A `Connection` field with one octet that is not visible ASCII nominates in vain, in both directions. -/
theorem unreadable_nomination_passes : ∃ (uuid : Nat → String) (headers : HeaderMap) (claims : Claims),
    ¬Forwards headers (claims.minted uuid) (forwardedHeaders uuid headers claims) ∧
    ¬Relays headers (responseHeaders headers) := by
  -- the text `x-secret,` and the octet 255
  let headers := fieldsOf [120,45,115,101,99,114,101,116,44,255] (by decide)
  let secret : HeaderName := .fromStatic "x-secret" (by decide)
  have nominated : Nominated headers secret :=
    ⟨⟨[120,45,115,101,99,114,101,116,44,255],by decide⟩,by decide,"x-secret".toList,by decide,by decide⟩
  refine ⟨fun _ => "7",headers,⟨⟨7,none,.browser⟩,none,none,"c"⟩,fun forwards => ?_,fun relays => ?_⟩
  · have gone := forwards.withheld secret (by decide) (Or.inr (Or.inr (Or.inr nominated)))
    rw [forwardedHeaders_eq,getAll_insertAll_of_not_mem (by decide)] at gone
    exact absurd gone (by decide)
  · exact absurd (relays.withheld secret (Or.inr (Or.inr nominated))) (by decide)

end Hygiene

end Ratatoskr.Gateway
