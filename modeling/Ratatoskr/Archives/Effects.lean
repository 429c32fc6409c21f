import Ratatoskr.Archives.System

/-! What a task can do to the database and the staging root between two awaited operations. -/
namespace Ratatoskr.Archives

open Operations PublicApi

/-- Removes the directory of the token, or part of it. -/
def Task.Clears (token : Token) : Task → Prop
  | .opening _ (.clearing _ _ _ old) => old = token
  | .finalizing _ (.clearing binding) | .finalizing _ (.discarding binding _) => binding.token = token
  | .sweeping _ (.reaping old _ _ _) => old = token
  | .sweeping _ (.removing orphan _ _) => orphan.name = token
  | _ => False

/-- Makes the directory of the token. -/
def Task.Enters (token : Token) : Task → Prop
  | .opening _ (.creating _ own _) => own = token
  | .putting _ (.entering binding) => binding.token = token
  | _ => False

/-- Opens the name in the directory of the token for writing. -/
def Task.Creates (number : Nat) (token : Token) (name : FileName) : Task → Prop
  | .putting call (.creating binding) => binding.token = token ∧ name = call.temporary number
  | .finalizing _ (.creating binding _) => binding.token = token ∧ name = .assembling
  | _ => False

/-- Writes to the file. -/
def Task.Writes (file : StagedFile) (offset : Nat) (bytes : List UInt8) : Task → Prop
  | .putting call (.writing _ own) => own = file ∧ offset = 0 ∧ bytes = call.body
  | .finalizing _ (.appending assembly chunk) =>
    assembly.file = file ∧ offset = assembly.assembled.length ∧ bytes = chunk
  | _ => False

/-- Moves a name in the directory of the token. -/
def Task.Renames (number : Nat) (token : Token) (old new : FileName) : Task → Prop
  | .putting call (.publishing binding) => binding.token = token ∧ old = call.temporary number ∧ new = .chunk call.index
  | .finalizing _ (.renaming binding _) => binding.token = token ∧ old = .assembling ∧ new = .verified
  | _ => False

def Task.Unlinks (number : Nat) (token : Token) (name : FileName) : Task → Prop
  | .putting call .discarding => call.token = token ∧ name = call.temporary number
  | .finalizing _ (.dropping binding _) => binding.token = token ∧ name = .assembling
  | _ => False

/-- Ends the session of the token. -/
def Task.Fails (token : Token) : Task → Prop
  | .finalizing _ (.failing binding _) | .finalizing _ (.refusing binding _) => binding.token = token
  | _ => False

variable (library : Library) (number : Nat) (task : Task) (world : World)

/-- What a task did to the world. -/
inductive Effect : World → Prop where
  | nothing : Effect world
  | minted (token : Token) (fresh : token ∉ world.minted) : Effect { world with minted := token :: world.minted }
  | inserted (call : OpenTransfer) (request : UploadSessionRequest) (expectedChunks : Nat) (now : Timestamp)
      (token : Token) (later : Tables) (own : task = .opening call (.inserting request expectedChunks now))
      (fresh : token ∉ world.minted)
      (made : world.tables.insertTransfer (call.row request expectedChunks now token) = some later) :
      Effect { world with minted := token :: world.minted, tables := later }
  | replaced (call : OpenTransfer) (request : UploadSessionRequest) (expectedChunks : Nat) (now : Timestamp)
      (old : Token) (own : task = .opening call (.deleting request expectedChunks now old)) :
      Effect { world with
        tables := world.tables.deleteTransfers (·.operationId == call.operationId)
        replaced := (world.tables.transfers.filter (·.operationId == call.operationId)) ++ world.replaced }
  | reaped (sweep : Sweep) (token : Token) (reason : Reason) (rest : List (Token × Reason)) (report : SweepReport)
      (own : task = .sweeping sweep (.deleting token reason rest report)) :
      Effect { world with
        tables := world.tables.deleteTransfers (·.resumptionToken == token)
        reaped := (world.tables.transfers.filter (·.resumptionToken == token)) ++ world.reaped }
  | recorded (call : PutChunk) (binding : TransferBinding) (later : Tables)
      (own : task = .putting call (.recording binding))
      (made : world.tables.insertChunk binding.token call.index (call.chunk library) = some later) :
      Effect { world with
        tables := later, recorded := (binding.token,call.index,call.chunk library) :: world.recorded }
  | finalized (call : FinalizeTransfer) (binding : TransferBinding)
      (own : task = .finalizing call (.recording binding)) :
      Effect { world with tables := world.tables.endTransfer binding.token .finalized }
  | failed (token : Token) (own : task.Fails token) :
      Effect { world with tables := world.tables.endTransfer token .failed }
  | deliveryFailed (call : FinalizeTransfer) (binding : TransferBinding) (status : Nat)
      (own : task = .finalizing call (.ending binding status)) :
      Effect { world with tables := world.tables.failDelivery call.operationId world.clock }
  | entered (token : Token) (own : task.Enters token) :
      Effect { world with staging := world.staging.makeFolder token world.clock }
  | cleared (token : Token) (own : task.Clears token) :
      Effect { world with staging := world.staging.removeFolder token }
  | thinned (token : Token) (kept : FileName → Bool) (own : task.Clears token) :
      Effect { world with staging := world.staging.thinFolder token kept world.clock }
  | created (token : Token) (name : FileName) (staging : Staging) (file : StagedFile)
      (own : task.Creates number token name)
      (made : world.staging.create token name world.clock = some (staging,file)) :
      Effect { world with staging := staging }
  | wrote (file : StagedFile) (offset : Nat) (bytes : List UInt8) (own : task.Writes file offset bytes) :
      Effect { world with staging := world.staging.write 0 file offset bytes }
  | renamed (token : Token) (old new : FileName) (staging : Staging) (own : task.Renames number token old new)
      (moved : world.staging.rename token old new world.clock = some staging) :
      Effect { world with staging := staging }
  | unlinked (token : Token) (name : FileName) (staging : Staging) (own : task.Unlinks number token name)
      (gone : world.staging.unlink token name world.clock = some staging) :
      Effect { world with staging := staging }
  | forwarded (call : FinalizeTransfer) (binding : TransferBinding) (rows : List (Nat × Chunk)) (file : StagedFile)
      (sent : List UInt8) (own : task = .finalizing call (.streaming binding rows file sent))
      (ended : (world.staging.contents file).drop sent.length = []) :
      Effect { world with forwarded := ⟨number,binding,rows,sent⟩ :: world.forwarded }
  | responded (call : FinalizeTransfer) (binding : TransferBinding) (status : Nat)
      (own : (∃ rows file sent, task = .finalizing call (.streaming binding rows file sent)) ∨
        task = .finalizing call (.awaiting binding)) :
      Effect (world.responded call number binding status)

variable {world} {later : World}

theorem openTransfer_effect (call : OpenTransfer) (at_ next : Opening) (event : Event)
    (stepped : openTransfer library call world at_ event = some (later,next)) :
    Effect library number (.opening call at_) world later := by
  cases at_ <;> cases event <;> simp only [openTransfer,reduceCtorEq] at stepped
  case authorizing.looked | accepting.statement | looking.statement =>
    repeat' split at stepped
    all_goals cases stepped
    all_goals exact .nothing
  case deleting.statement request expectedChunks now old fate =>
    cases fate <;> cases stepped
    · exact .replaced call request expectedChunks now old rfl
    · exact .nothing
    · exact .replaced call request expectedChunks now old rfl
  case clearing.file request expectedChunks now old succeeds =>
    cases succeeds <;> cases stepped
    · exact .nothing
    · exact .cleared old rfl
  case clearing.partly request expectedChunks now old kept =>
    cases stepped
    exact .thinned old kept rfl
  case inserting.minted request expectedChunks now token fate =>
    split at stepped
    · rename_i drawn
      have fresh : token ∉ world.minted := by simp_all
      split at stepped
      · cases stepped
        exact .minted token fresh
      · rename_i later_ made
        cases fate <;> cases stepped
        · exact .inserted call request expectedChunks now token later_ rfl fresh made
        · exact .minted token fresh
        · exact .inserted call request expectedChunks now token later_ rfl fresh made
    · cases stepped
  case creating.file request token expiresAt succeeds =>
    cases succeeds <;> cases stepped
    · exact .nothing
    · exact .entered token rfl

theorem putChunk_effect (call : PutChunk) (at_ next : Putting) (event : Event)
    (stepped : putChunk library call number world at_ event = some (later,next)) :
    Effect library number (.putting call at_) world later := by
  cases at_ <;> cases event <;> simp only [putChunk,reduceCtorEq] at stepped
  case authorizing.looked | binding.statement | checking.statement | syncing.file | counting.statement =>
    repeat' split at stepped
    all_goals cases stepped
    all_goals exact .nothing
  case entering.file binding succeeds =>
    cases succeeds <;> cases stepped
    · exact .nothing
    · exact .entered binding.token rfl
  case creating.file binding succeeds =>
    split at stepped <;> cases stepped
    · rename_i staging file made
      exact .created binding.token _ staging file ⟨rfl,rfl⟩ (by simp_all)
    · exact .nothing
  case writing.file binding file succeeds =>
    cases succeeds <;> cases stepped
    · exact .nothing
    · exact .wrote file 0 call.body ⟨rfl,rfl,rfl⟩
  case publishing.file binding succeeds =>
    split at stepped <;> cases stepped
    · rename_i staging moved
      exact .renamed binding.token _ _ staging ⟨rfl,rfl,rfl⟩ (by simp_all)
    · exact .nothing
  case recording.statement binding fate =>
    split at stepped
    · cases stepped
      exact .nothing
    · rename_i later_ made
      cases fate <;> cases stepped
      · exact .recorded call binding later_ rfl made
      · exact .nothing
      · exact .recorded call binding later_ rfl made
  case discarding.file succeeds =>
    split at stepped <;> cases stepped
    · rename_i staging gone
      exact .unlinked call.token _ staging ⟨rfl,rfl⟩ (by simp_all)
    · exact .nothing

theorem finalizeTransfer_effect (call : FinalizeTransfer) (at_ next : Finalizing) (event : Event)
    (stepped : finalizeTransfer library call number world at_ event = some (later,next)) :
    Effect library number (.finalizing call at_) world later := by
  cases at_ <;> cases event <;> simp only [finalizeTransfer,reduceCtorEq] at stepped
  case authorizing.looked | binding.statement | listing.statement | reading.file | syncing.file | opening.file =>
    repeat' split at stepped
    all_goals cases stepped
    all_goals exact .nothing
  case creating.file binding rows succeeds =>
    split at stepped <;> cases stepped
    · rename_i staging file made
      exact .created binding.token _ staging file ⟨rfl,rfl⟩ (by simp_all)
    · exact .nothing
  case appending.file assembly chunk succeeds =>
    cases succeeds <;> cases stepped
    · exact .nothing
    · exact .wrote assembly.file _ chunk ⟨rfl,rfl,rfl⟩
  case dropping.file binding computed succeeds =>
    split at stepped <;> cases stepped
    · rename_i staging gone
      exact .unlinked binding.token _ staging ⟨rfl,rfl⟩ (by simp_all)
    · exact .nothing
  case failing.statement binding computed fate =>
    cases fate <;> cases stepped
    · exact .failed binding.token rfl
    · exact .nothing
    · exact .failed binding.token rfl
  case renaming.file binding rows succeeds =>
    split at stepped <;> cases stepped
    · rename_i staging moved
      exact .renamed binding.token _ _ staging ⟨rfl,rfl,rfl⟩ (by simp_all)
    · exact .nothing
  case streaming.read binding rows file sent most =>
    split at stepped
    · cases stepped
    · rename_i some_
      split at stepped <;> cases stepped
      · rename_i ended
        refine .forwarded call binding rows file sent rfl ?_
        rcases List.take_eq_nil_iff.mp ended with none_ | left
        · rw [frameBytes] at none_
          omega
        · exact left
      · exact .nothing
  case streaming.responded binding rows file sent status =>
    cases stepped
    exact .responded call binding status (Or.inl ⟨rows,file,sent,rfl⟩)
  case awaiting.responded binding status =>
    cases stepped
    exact .responded call binding status (Or.inr rfl)
  case recording.statement binding fate =>
    cases fate <;> cases stepped
    · exact .finalized call binding rfl
    · exact .nothing
    · exact .finalized call binding rfl
  case clearing.file binding succeeds =>
    cases succeeds <;> cases stepped
    · exact .nothing
    · exact .cleared binding.token rfl
  case clearing.partly binding kept =>
    cases stepped
    exact .thinned binding.token kept rfl
  case refusing.statement binding status fate =>
    cases fate <;> cases stepped
    · exact .failed binding.token rfl
    · exact .nothing
    · exact .failed binding.token rfl
  case ending.statement binding status fate =>
    cases fate <;> cases stepped
    · exact .deliveryFailed call binding status rfl
    · exact .nothing
    · exact .deliveryFailed call binding status rfl
  case discarding.file binding status succeeds =>
    cases succeeds <;> cases stepped
    · exact .nothing
    · exact .cleared binding.token rfl
  case discarding.partly binding status kept =>
    cases stepped
    exact .thinned binding.token kept rfl

theorem sweepOnce_effect (sweep : Sweep) (at_ next : Sweeping) (event : Event)
    (stepped : sweepOnce sweep world at_ event = some (later,next)) :
    Effect library number (.sweeping sweep at_) world later := by
  cases at_ <;> cases event <;> simp only [sweepOnce,reduceCtorEq] at stepped
  case selecting.statement | scanning.scanned | owning.statement =>
    repeat' split at stepped
    all_goals cases stepped
    all_goals exact .nothing
  case reaping.file token reason rest report succeeds =>
    cases succeeds <;> cases stepped
    · exact .nothing
    · exact .cleared token rfl
  case reaping.partly token reason rest report kept =>
    cases stepped
    exact .thinned token kept rfl
  case deleting.statement token reason rest report fate =>
    cases fate <;> cases stepped
    · exact .reaped sweep token reason rest report rfl
    · exact .nothing
    · exact .reaped sweep token reason rest report rfl
  case removing.file orphan rest report succeeds =>
    cases succeeds <;> cases stepped
    · exact .nothing
    · exact .cleared orphan.name rfl
  case removing.partly orphan rest report kept =>
    cases stepped
    exact .thinned orphan.name kept rfl

theorem Task.resume_effect {next : Task} (event : Event) (stepped : task.resume library number world event = some (later,next)) :
    Effect library number task world later := by
  cases task with
  | opening call at_ =>
    obtain ⟨⟨world,after⟩,turn,same⟩ := Option.map_eq_some_iff.mp stepped
    obtain ⟨rfl,rfl⟩ := Prod.mk.inj same
    exact openTransfer_effect library number call at_ after event turn
  | putting call at_ =>
    obtain ⟨⟨world,after⟩,turn,same⟩ := Option.map_eq_some_iff.mp stepped
    obtain ⟨rfl,rfl⟩ := Prod.mk.inj same
    exact putChunk_effect library number call at_ after event turn
  | finalizing call at_ =>
    obtain ⟨⟨world,after⟩,turn,same⟩ := Option.map_eq_some_iff.mp stepped
    obtain ⟨rfl,rfl⟩ := Prod.mk.inj same
    exact finalizeTransfer_effect library number call at_ after event turn
  | sweeping sweep at_ =>
    obtain ⟨⟨world,after⟩,turn,same⟩ := Option.map_eq_some_iff.mp stepped
    obtain ⟨rfl,rfl⟩ := Prod.mk.inj same
    exact sweepOnce_effect library number sweep at_ after event turn
  | dropped => cases stepped

end Ratatoskr.Archives
