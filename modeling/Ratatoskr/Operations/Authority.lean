import Ratatoskr.Contracts

/-! Who may report progress for which operation. -/
namespace Ratatoskr.Operations

inductive Producers where
  | listed (producers : List String)
  /-- The operation's acceptance record binds the producer. -/
  | providerBound
deriving DecidableEq

def captureProducers : List String :=
  ["ratatoskr-extractor","ratatoskr-x","ratatoskr-instagram","ratatoskr-threads"]

def channelDigestProducers : List String := ["ratatoskr-channel-digests"]

def notesProducers : List String := ["ratatoskr-notes"]

def sitesProducers : List String := ["ratatoskr-sites"]

/-- Every operation kind the platform mints, and who may report for it. -/
def authority : List (String × Producers) :=
  [("content.capture.submit",.listed captureProducers),
    ("ai_archive.import",.providerBound),
    ("channel_digest.subscription.set",.listed channelDigestProducers),
    ("channel_digest.run",.listed channelDigestProducers),
    ("channel_digest.schedule.occurrence",.listed channelDigestProducers),
    ("notes.connection.connect",.listed notesProducers),
    ("notes.file.write",.listed notesProducers),
    ("notes.connection.write_mode",.listed notesProducers),
    ("sites.release.build",.listed sitesProducers)]

def producersFor (kind : String) : Option Producers :=
  (authority.find? fun row => row.1 == kind).map Prod.snd

/-- Whether a new operation of the kind may record this producer as its reporter. -/
def allows (kind producer : String) : Bool :=
  match producersFor kind with
  | some (.listed listed) => listed.contains producer
  | _ => false

def authorize (kind producer : String) (envelopeTenant : Option String) (owner : UserId)
    (reporter : Option String) (acceptanceBound : Bool) : Bool :=
  let tenantOk :=
    match envelopeTenant with
    | some raw => TenantRef.parse raw == some owner
    | none => false
  match producersFor kind with
  | some (.listed listed) => tenantOk && listed.contains producer && reporter == some producer
  | some .providerBound => if envelopeTenant.isSome then tenantOk else acceptanceBound
  | none => false

/-- The one kind whose operations an acceptance record binds. -/
theorem provider_bound_iff (kind : String) : producersFor kind = some .providerBound ↔ kind = "ai_archive.import" := by
  constructor
  · intro bound
    obtain ⟨⟨named,producers⟩,found,rfl⟩ := Option.map_eq_some_iff.mp bound
    obtain rfl : named = kind := by simpa using List.find?_some found
    have listed := List.mem_of_find?_eq_some found
    simpa [authority] using listed
  · rintro rfl
    decide

/-- What an authorised report has been checked against: its own producer is on record and in the
table, and its tenant is the owner, unless an acceptance record stands in for both. -/
theorem authorize_iff (kind producer : String) (tenant : Option String) (owner : UserId)
    (reporter : Option String) (bound : Bool) :
    authorize kind producer tenant owner reporter bound = true ↔
      (allows kind producer = true ∧ reporter = some producer ∧
        ∃ raw, tenant = some raw ∧ TenantRef.parse raw = some owner) ∨
      (producersFor kind = some .providerBound ∧
        ((∃ raw, tenant = some raw ∧ TenantRef.parse raw = some owner) ∨ tenant = none ∧ bound = true)) := by
  cases row : producersFor kind with
  | none => simp [authorize,allows,row]
  | some producers =>
    cases producers with
    | listed listed =>
      cases tenant with
      | none => simp [authorize,allows,row]
      | some raw =>
        simp only [authorize,allows,row,Bool.and_eq_true,beq_iff_eq,Option.some.injEq,exists_eq_left']
        constructor
        · rintro ⟨⟨owned,named⟩,recorded⟩
          exact Or.inl ⟨named,recorded,owned⟩
        · rintro (⟨named,recorded,owned⟩ | ⟨impossible,_⟩)
          · exact ⟨⟨owned,named⟩,recorded⟩
          · cases impossible
    | providerBound => cases tenant <;> simp [authorize,allows,row]

end Ratatoskr.Operations
