import Ratatoskr.Archives.Sessions

/-! Reopening the transfer session of an operation. A session is read without a lock and deleted by its operation in
a later statement, whichever session the operation has by then. -/
namespace Ratatoskr.Archives

open Operations PublicApi

/-- The rows that reopens have deleted were dead. -/
def Spared (world : World) : Prop := ∀ row ∈ world.replaced, Tables.isLive world.now row = false

section Opening

/-- The caller is the one whose acceptance the operation has. -/
def Accepted (call : OpenTransfer) (world : World) : Prop :=
  ∃ acceptance, world.tables.acceptance call.operationId = some acceptance ∧
    acceptance.ownerUserId = call.principal.userId ∧ call.principal.deviceId = some acceptance.deviceId ∧
    acceptance.provider = call.provider

/-- The session of the token has been seen dead: if it is still there, it has ended or run out. -/
def Outlived (world : World) (token : Token) : Prop :=
  ∀ row ∈ world.tables.transfers, row.resumptionToken = token →
    row.sessionState = .failed ∨ row.sessionState = .finalized ∨ row.sessionState = .open_ ∧ row.expiresAt ≤ world.now

/-- The token was a session of the operation, and still is unless its row was deleted. -/
def Traced (world : World) (token : Token) (operationId : OperationId) : Prop :=
  (∃ row ∈ world.tables.transfers, row.resumptionToken = token ∧ row.operationId = operationId) ∨ world.Gone token

/-- What a reopen knows of the sessions where it awaits. -/
def OpeningHolds (call : OpenTransfer) (world : World) : Opening → Prop
  | .authorizing | .accepting _ => True
  | .looking _ _ now | .inserting _ _ now => now ≤ world.clock ∧ Accepted call world
  | .deleting _ _ now old => now ≤ world.clock ∧ Accepted call world ∧ old ∈ world.minted ∧ Outlived world old ∧
      ∀ row ∈ world.tables.transfers, row.resumptionToken = old → row.operationId = call.operationId
  | .clearing _ _ now old => now ≤ world.clock ∧ Accepted call world ∧ old ∈ world.minted ∧
      ∀ row ∈ world.tables.transfers, row.resumptionToken ≠ old
  | .creating _ token _ | .answered (.opened token _ _) => Accepted call world ∧ Traced world token call.operationId
  | .answered _ => True

variable {call : OpenTransfer} {world later : World} {at_ : Opening}

theorem Accepted.moved (accepted : Accepted call world) (moved : Moved world later) : Accepted call later := by
  obtain ⟨acceptance,stored,rest⟩ := accepted
  exact ⟨acceptance,(moved.acceptance _).trans stored,rest⟩

theorem Outlived.moved {token : Token} (outlived : Outlived world token) (moved : Moved world later) (minted : token ∈ world.minted) :
    Outlived later token := by
  intro new stored same
  rcases moved.came new stored with ⟨row,old,ages⟩ | fresh
  · rcases outlived row old (ages.token.symm.trans same) with failed | finalized | ended
    · exact ages.dead (to_offset_mono moved.clock) (Or.inl failed)
    · rcases ages.sessionState with kept | opened
      · exact Or.inr (Or.inl (kept.trans finalized))
      · rw [finalized] at opened
        cases opened
    · exact ages.dead (to_offset_mono moved.clock) (Or.inr ended)
  · exact absurd (same ▸ minted) fresh

theorem Traced.moved {token : Token} {operationId : OperationId} (traced : Traced world token operationId) (moved : Moved world later) :
    Traced later token operationId := by
  rcases traced with ⟨row,stored,rfl,rfl⟩ | gone
  · rcases moved.kept row stored with ⟨new,kept,ages⟩ | gone
    · exact Or.inl ⟨new,kept,ages.token,ages.operationId⟩
    · exact Or.inr gone
  · exact Or.inr (moved.gone token gone)

/-- A token that was there is only found on the row that had it. -/
theorem Moved.own {token : Token} {Of : Transfer → Prop} (moved : Moved world later) (minted : token ∈ world.minted)
    (aged : ∀ row new, Ages row new → Of row → Of new)
    (own : ∀ row ∈ world.tables.transfers, row.resumptionToken = token → Of row) :
    ∀ new ∈ later.tables.transfers, new.resumptionToken = token → Of new := by
  intro new stored same
  rcases moved.came new stored with ⟨row,old,ages⟩ | fresh
  · exact aged row new ages (own row old (ages.token.symm.trans same))
  · exact absurd (same ▸ minted) fresh

theorem OpeningHolds.moved (holds : OpeningHolds call world at_) (moved : Moved world later) : OpeningHolds call later at_ := by
  cases at_ with
  | authorizing | accepting => trivial
  | looking | inserting => exact ⟨holds.1.trans moved.clock,holds.2.moved moved⟩
  | deleting request expectedChunks now old =>
    obtain ⟨before,accepted,minted,outlived,own⟩ := holds
    exact ⟨before.trans moved.clock,accepted.moved moved,moved.minted old minted,outlived.moved moved minted,
      moved.own minted (fun _ _ ages same => ages.operationId.trans same) own⟩
  | clearing request expectedChunks now old =>
    obtain ⟨before,accepted,minted,absent⟩ := holds
    refine ⟨before.trans moved.clock,accepted.moved moved,moved.minted old minted,fun new stored same => ?_⟩
    exact moved.own minted (fun _ _ _ => id) (fun row there same => absent row there same) new stored same
  | creating => exact ⟨holds.1.moved moved,holds.2.moved moved⟩
  | answered answer =>
    cases answer with
    | opened => exact ⟨holds.1.moved moved,holds.2.moved moved⟩
    | rejected | received | stored | digestMismatch | relayed => trivial

/-- A session that does not replay has ended or run out. -/
theorem dead_of_not_replays {now : Timestamp} {row : Transfer} (onward : now ≤ world.clock) (dead : replays now row = false) :
    row.sessionState = .failed ∨ row.sessionState = .open_ ∧ row.expiresAt ≤ world.now := by
  cases state : row.sessionState with
  | failed => exact Or.inl rfl
  | finalized => simp [replays,state] at dead
  | open_ =>
    have passed : fromOffset row.expiresAt ≤ now := by simpa [replays,state] using dead
    have bound := to_offset_mono (passed.trans onward)
    rw [to_offset_fromOffset] at bound
    exact Or.inr ⟨rfl,bound⟩

/-- What the lookup of the operation's session leads to -/
theorem found_holds (sessions : Sessions world) (accepted : Accepted call world) (request : UploadSessionRequest)
    (expectedChunks : Nat) (now : Timestamp) (onward : now ≤ world.clock) :
    OpeningHolds call world (call.found world request expectedChunks now) := by
  unfold OpenTransfer.found
  split
  · exact ⟨onward,accepted⟩
  · rename_i row found
    obtain ⟨stored,own⟩ := Tables.sessionOf_eq_some found
    split
    · split
      · exact ⟨accepted,Or.inl ⟨row,stored,rfl,own⟩⟩
      · trivial
    · rename_i dead
      refine ⟨onward,accepted,sessions.minted row stored,fun other there same => ?_,fun other there same => ?_⟩
      · obtain rfl := eq_of_token sessions there stored same
        exact (dead_of_not_replays onward (by simpa using dead)).imp_right Or.inr
      · exact eq_of_token sessions there stored same ▸ own

/-- The delete of a reopen takes the session that it has read, unless that has been finalized since, or a dead one. -/
def DeletesDead (call : OpenTransfer) (world : World) (at_ : Opening) (event : Event) : Prop :=
  ∀ request expectedChunks now old fate, at_ = .deleting request expectedChunks now old → event = .statement fate → fate ≠ .failed →
    ∀ row ∈ world.tables.transfers, row.operationId = call.operationId →
      row.resumptionToken = old ∧ row.sessionState ≠ .finalized ∨ Tables.isLive world.now row = false

/-- Only a reopen that deletes adds to the rows that reopens have deleted. -/
theorem effect_replaced {library : Library} {number : Nat} {task : Task} (effect : Effect library number task world later) :
    later.clock = world.clock ∧ (later.replaced = world.replaced ∨ ∃ call request expectedChunks now old,
      task = .opening call (.deleting request expectedChunks now old) ∧
        later.replaced = world.tables.transfers.filter (·.operationId == call.operationId) ++ world.replaced) := by
  cases effect with
  | replaced call request expectedChunks now old own => exact ⟨rfl,Or.inr ⟨call,request,expectedChunks,now,old,own,rfl⟩⟩
  | _ => exact ⟨rfl,Or.inl rfl⟩

theorem outside_replaced (move : Outside) (moved : world.outside move = some later) : later.replaced = world.replaced := by
  cases move with
  | tick clock =>
    simp only [World.outside] at moved
    split at moved <;> cases moved
    rfl
  | report =>
    cases moved
    rfl

theorem Spared.same (spared : Spared world) (onward : world.clock ≤ later.clock) (same : later.replaced = world.replaced) : Spared later :=
  fun row there => isLive_later (to_offset_mono onward) row (spared row (same ▸ there))

variable (library : Library)

/-- What a reopen knows after a turn -/
theorem opening_step (sessions : Sessions world) (holds : OpeningHolds call world at_) {event : Event} {next : Opening} (number : Nat)
    (stepped : openTransfer library call world at_ event = some (later,next)) : OpeningHolds call later next := by
  obtain ⟨-,moved⟩ := sessions_effect sessions (openTransfer_effect library number call at_ next event stepped)
  cases at_ <;> cases event <;> simp only [openTransfer,reduceCtorEq] at stepped
  case authorizing.looked =>
    repeat' split at stepped
    all_goals cases stepped
    all_goals trivial
  case accepting.statement request fate =>
    split at stepped
    · split at stepped
      · cases stepped
        trivial
      · rename_i acceptance stored
        split at stepped
        · rename_i bound
          simp only [OpenTransfer.bound,Bool.and_eq_true,beq_iff_eq] at bound
          obtain ⟨⟨⟨⟨owner,device⟩,provider⟩,_⟩,_⟩ := bound
          split at stepped <;> cases stepped
          · trivial
          · exact ⟨le_rfl,acceptance,stored,owner,device.symm,provider⟩
        · cases stepped
          trivial
    · cases stepped
      trivial
  case looking.statement request expectedChunks now fate =>
    split at stepped <;> cases stepped
    · exact found_holds sessions holds.2 request expectedChunks now holds.1
    · trivial
  case deleting.statement request expectedChunks now old fate =>
    obtain ⟨onward,accepted,minted,_,own⟩ := holds
    cases fate <;> cases stepped
    · refine ⟨onward,accepted.moved moved,minted,fun row stored same => ?_⟩
      obtain ⟨there,stays⟩ := Tables.mem_deleteTransfers.mp stored
      simp [own row there same] at stays
    · trivial
    · trivial
  case clearing.file request expectedChunks now old succeeds =>
    cases succeeds <;> cases stepped <;> exact ⟨holds.1,holds.2.1⟩
  case clearing.partly request expectedChunks now old kept =>
    cases stepped
    exact ⟨holds.1,holds.2.1⟩
  case inserting.minted request expectedChunks now token fate =>
    split at stepped
    · split at stepped
      · cases stepped
        trivial
      · rename_i tables made
        cases fate <;> cases stepped
        · have there : call.row request expectedChunks now token ∈ tables.transfers := by
            rw [(Tables.insertTransfer_eq_some made).transfers]
            exact List.mem_append_right _ (List.mem_singleton.mpr rfl)
          exact ⟨holds.2.moved moved,Or.inl ⟨_,there,rfl,rfl⟩⟩
        · trivial
        · trivial
    · cases stepped
  case creating.file request token expiresAt succeeds =>
    cases succeeds <;> cases stepped
    · trivial
    · exact holds

/-- A delete that meets the condition takes only dead rows. -/
theorem dead_of_deletes (holds : OpeningHolds call world at_) {event : Event} (met : DeletesDead call world at_ event)
    {next : Opening} (number : Nat) (stepped : openTransfer library call world at_ event = some (later,next)) (spared : Spared world) :
    Spared later := by
  obtain ⟨clock,same | ⟨own,request,expectedChunks,now,old,place,replaced⟩⟩ :=
    effect_replaced (openTransfer_effect library number call at_ next event stepped)
  · exact spared.same clock.ge same
  · cases place
    obtain ⟨_,_,_,outlived,_⟩ := holds
    cases event <;> simp only [openTransfer,reduceCtorEq] at stepped
    case statement fate =>
      intro row there
      rw [World.now,clock]
      by_cases effective : fate = .failed
      · subst effective
        cases stepped
        exact spared row there
      · rcases List.mem_append.mp (replaced ▸ there) with deleted | known
        · obtain ⟨stored,same⟩ := List.mem_filter.mp deleted
          rcases met request expectedChunks now old fate rfl rfl effective row stored (beq_iff_eq.mp same) with ⟨same,unfinished⟩ | dead
          · exact (isLive_false_iff _ _).mpr ((outlived row stored same).imp_right fun rest => rest.resolve_left unfinished)
          · exact dead
        · exact spared row known

end Opening

section Runs

/-- What a task knows of the sessions. -/
def Task.Knows (world : World) (_ : Nat) : Task → Prop
  | .opening call at_ => OpeningHolds call world at_
  | _ => True

/-- A reopen's delete, where it is next, meets `DeletesDead`. -/
def Reopens (system : System) : Action → Prop
  | .resume number event => ∀ call at_, system.tasks number = some (.opening call at_) → DeletesDead call system.world at_ event
  | _ => True

/-- No live session of the token is there, since it expired, failed or was reaped, or a reopen replaced it when it had. -/
def World.Over (world : World) (token : Token) : Prop :=
  (∃ row ∈ world.tables.transfers, row.resumptionToken = token ∧ Tables.isLive world.now row = false) ∨
    (∃ row ∈ world.reaped, row.resumptionToken = token) ∨
    ∃ row ∈ world.replaced, row.resumptionToken = token ∧ Tables.isLive world.now row = false

/-- One session for an operation, tokens that resolve until they are over, and reopens that spare what is live. -/
structure Reopened (system : System) : Prop where
  single : ∀ operationId, (system.world.tables.transfers.filter (·.operationId == operationId)).length ≤ 1
  resolvable : ∀ number call token chunkSizeBytes expiresAt,
    system.tasks number = some (.opening call (.answered (.opened token chunkSizeBytes expiresAt))) →
      (system.world.binding call.principal call.provider call.operationId token).isSome ∨ system.world.Over token
  spared : ∀ row ∈ system.world.replaced, Tables.isLive system.world.now row = false
  staged : ∀ number call request expectedChunks now old,
    system.tasks number = some (.opening call (.clearing request expectedChunks now old)) →
      system.world.tables.session old = none

variable (library : Library)

theorem sessions_keep : (machine library).Keeps Reopens (fun world => Sessions world ∧ Spared world) (fun _ => Moved) Task.Knows where
  begins world number call valid := by cases call <;> trivial
  drops _ _ _ := trivial
  stays world later number task _ moved knows := by
    cases task with
    | opening call at_ => exact OpeningHolds.moved knows moved
    | putting | finalizing | sweeping | dropped => trivial
  resumes system number event task later after met stored holds turn := by
    obtain ⟨sessions,spared⟩ := holds.world
    have effect := Task.resume_effect library number task event turn
    obtain ⟨valid,moved⟩ := sessions_effect sessions effect
    refine ⟨⟨valid,?_⟩,?_,fun _ _ => moved⟩
    · obtain ⟨clock,same | ⟨call,request,expectedChunks,now,old,rfl,_⟩⟩ := effect_replaced effect
      · exact spared.same clock.ge same
      · obtain ⟨⟨world,next⟩,stepped,same⟩ := Option.map_eq_some_iff.mp turn
        obtain ⟨rfl,rfl⟩ := Prod.mk.inj same
        have knows : OpeningHolds call system.world (.deleting request expectedChunks now old) := holds.tasks _ _ stored
        exact dead_of_deletes library knows (met call _ stored) number stepped spared
    · cases task with
      | opening call at_ =>
        obtain ⟨⟨world,next⟩,stepped,same⟩ := Option.map_eq_some_iff.mp turn
        obtain ⟨rfl,rfl⟩ := Prod.mk.inj same
        exact opening_step library sessions (holds.tasks _ _ stored) number stepped
      | putting | finalizing | sweeping =>
        obtain ⟨_,_,same⟩ := Option.map_eq_some_iff.mp turn
        exact (Prod.mk.inj same).2 ▸ trivial
      | dropped => cases turn
  outside world move later valid moved := by
    obtain ⟨kept,onward⟩ := sessions_outside valid.1 move moved
    exact ⟨⟨kept,valid.2.same onward.clock (outside_replaced move moved)⟩,fun _ => onward⟩

/-- The session of a token that was answered is found for the caller while it is live. -/
theorem traced_resolvable {call : OpenTransfer} {world : World} {token : Token} (sessions : Sessions world) (spared : Spared world)
    (accepted : Accepted call world) (traced : Traced world token call.operationId) :
    (world.binding call.principal call.provider call.operationId token).isSome ∨ world.Over token := by
  obtain ⟨acceptance,stored,owner,device,provider⟩ := accepted
  rcases traced with ⟨row,there,rfl,same⟩ | reaped | ⟨row,gone,same⟩
  · have found : world.tables.session row.resumptionToken = some row := by
      obtain ⟨other,found⟩ := Option.isSome_iff_exists.mp (Tables.session_isSome there)
      obtain ⟨known,equal⟩ := Tables.session_eq_some found
      rw [found,eq_of_token sessions known there equal]
    cases live : Tables.isLive world.now row with
    | false => exact Or.inr (Or.inl ⟨row,there,rfl,live⟩)
    | true =>
      refine Or.inl ?_
      simp [World.binding,Tables.transferBinding,found,same,stored,live,owner,device,provider]
  · exact Or.inr (Or.inr (Or.inl reaped))
  · exact Or.inr (Or.inr (Or.inr ⟨row,gone,same,spared row gone⟩))

theorem reopened_of_holds (system : System) (holds : Tasks.Holds (fun world => Sessions world ∧ Spared world) Task.Knows system) : Reopened system where
  single operationId := by
    have unique := holds.world.1.operations.sublist ((List.filter_sublist (p := (·.operationId == operationId))).map _)
    have all : ∀ key ∈ (system.world.tables.transfers.filter (·.operationId == operationId)).map (·.operationId), key = operationId := by
      intro key member
      obtain ⟨row,stored,rfl⟩ := List.mem_map.mp member
      simpa using (List.mem_filter.mp stored).2
    rw [← List.length_map]
    rw [List.eq_replicate_of_mem all] at unique
    exact List.nodup_replicate.mp unique
  resolvable number call token chunkSizeBytes expiresAt stored := by
    obtain ⟨accepted,traced⟩ := holds.tasks number _ stored
    exact traced_resolvable holds.world.1 holds.world.2 accepted traced
  spared := holds.world.2
  staged number call request expectedChunks now old stored := by
    obtain ⟨_,_,_,absent⟩ := holds.tasks number _ stored
    refine Option.eq_none_iff_forall_not_mem.mpr fun row found => ?_
    obtain ⟨there,same⟩ := Tables.session_eq_some found
    exact absent row there same

/-- A reopen that spares what is live deletes only what is dead. -/
theorem reopens_of_spared (system : System) (action : Action)
    (spares : ∀ next, step library system action = some next → Reopened next) : Reopens system action := by
  cases action with
  | begin_ | drop | outside => trivial
  | resume number event =>
    intro call at_ stored request expectedChunks now old fate place turn effective row there same
    subst place turn
    have gone : row ∈ system.world.tables.transfers.filter (·.operationId == call.operationId) ++ system.world.replaced :=
      List.mem_append_left _ (List.mem_filter.mpr ⟨there,beq_iff_eq.mpr same⟩)
    obtain ⟨next,stepped,deleted,clock⟩ : ∃ next, step library system (.resume number (.statement fate)) = some next ∧
        row ∈ next.world.replaced ∧ next.world.clock = system.world.clock := by
      rw [step,Tasks.Machine.step,stored]
      cases fate with
      | failed => exact absurd rfl effective
      | done | lost => exact ⟨_,rfl,gone,rfl⟩
    have dead := (spares next stepped).spared row deleted
    rw [World.now,clock] at dead
    exact Or.inr dead

theorem reopened_iff (operations : Db) (clock : Timestamp) (actions : List Action) :
    StateMachine.Throughout (step library) Reopened (initial operations clock) actions ↔
      StateMachine.Along (step library) Reopens (initial operations clock) actions := by
  constructor
  · exact StateMachine.along_of_throughout _ _ _ (reopens_of_spared library) _ _
  · intro along
    refine (sessions_keep library).throughout reopened_of_holds actions along ⟨⟨⟨?_,?_,?_⟩,?_⟩,fun _ _ stored => ?_⟩
    · exact List.nodup_nil
    · exact List.nodup_nil
    · exact fun _ stored => absurd stored List.not_mem_nil
    · exact fun _ gone => absurd gone List.not_mem_nil
    · cases stored

end Runs

section Sample

/-- One archive of 65536 bytes is one chunk. -/
def sampleLibrary : Library where
  sha256 _ := "aaaaaaaaaaaaaaaaaaaaaaaaaaaaaaaaaaaaaaaaaaaaaaaaaaaaaaaaaaaaaaaa"
  plan declaredSizeBytes chunkSizeBytes :=
    if declaredSizeBytes = 65536 ∧ chunkSizeBytes = 65536 then some ⟨fun index => if index < 1 then some 65536 else none,1⟩ else none
  counted declaredSizeBytes chunkSizeBytes uploadPlan planned index := by
    split at planned
    · cases planned
      by_cases first : index < 1 <;> simp [first]
    · cases planned

def sampleDigest : String := "aaaaaaaaaaaaaaaaaaaaaaaaaaaaaaaaaaaaaaaaaaaaaaaaaaaaaaaaaaaaaaaa"

def sampleOperations : Db
  | .archiveAcceptance 1 => some (⟨1,1,"chatgpt",sampleDigest,65536,0⟩ : AiArchiveAcceptance)
  | _ => none

def sampleOpen : OpenTransfer := ⟨"chatgpt",1,⟨1,some 1,.device⟩,some ⟨65536,65536,archiveMediaType,sampleDigest⟩⟩

/-- A reopen up to its lookup of the session -/
def looks (number : Nat) : List Action :=
  [.begin_ number (.open_ sampleOpen),.resume number (.looked true),.resume number (.statement .done),
    .resume number (.statement .done)]

def inserts (number : Nat) (token : Token) : List Action := [.resume number (.minted token .done),.resume number (.file true)]

/-- Two reopens find the expired session; the second one deletes what the first one was answered. -/
def racingReopens : List Action :=
  looks 0 ++ inserts 0 "rst_00000000000000000000000000000000" ++ [.outside (.tick (dayLater 0))] ++ looks 1 ++ looks 2 ++
    [.resume 1 (.statement .done),.resume 1 (.file true)] ++ inserts 1 "rst_00000000000000000000000000000001" ++
    [.resume 2 (.statement .done)]

theorem racing_reopen_deletes_live : ¬ ∀ library operations clock actions,
    StateMachine.Throughout (step library) Reopened (initial operations clock) actions := by
  intro all
  have ended : ((StateMachine.run (step sampleLibrary) (initial sampleOperations 0) racingReopens).map fun system =>
      system.world.replaced.all fun row => !Tables.isLive system.world.now row) = some false := by decide +kernel
  obtain ⟨final,ran,live⟩ := Option.map_eq_some_iff.mp ended
  have spared := (StateMachine.throughout_run _ _ _ _ _ (all sampleLibrary sampleOperations 0 racingReopens) ran).spared
  rw [List.all_eq_false] at live
  obtain ⟨row,deleted,alive⟩ := live
  exact alive (by rw [spared row deleted]; rfl)

end Sample

end Ratatoskr.Archives
