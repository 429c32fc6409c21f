import Ratatoskr.Archives.Sessions

/-! The chunks of a transfer session over any turns of requests and sweeps: what was recorded for an index stands while the
session has its row, a second upload that is answered is the same chunk, and what is forwarded was assembled from all of them. -/
namespace Ratatoskr.Archives

open Operations PublicApi

/-- What holds of the recorded chunks. -/
structure Uploaded (world : World) : Prop where
  once : ∀ token index a b, (token,index,a) ∈ world.recorded → (token,index,b) ∈ world.recorded → a = b
  minted : ∀ token index chunk, (token,index,chunk) ∈ world.recorded → token ∈ world.minted
  told : ∀ token index chunk, world.tables.chunks token index = some chunk → (token,index,chunk) ∈ world.recorded
  stands : ∀ row ∈ world.tables.transfers, ∀ index chunk, (row.resumptionToken,index,chunk) ∈ world.recorded →
    world.tables.chunks row.resumptionToken index = some chunk

/-- What was recorded stays so. -/
def Onward (before after : World) : Prop := ∀ entry ∈ before.recorded, entry ∈ after.recorded

section Effects

variable {library : Library} {number : Nat} {task : Task} {world later : World}

theorem Uploaded.same (recorded : Uploaded world) (known : later.recorded = world.recorded)
    (minted : ∀ token ∈ world.minted, token ∈ later.minted) (chunks : later.tables.chunks = world.tables.chunks)
    (tokens : ∀ row ∈ later.tables.transfers, row.resumptionToken ∈ world.minted →
      ∃ old ∈ world.tables.transfers, old.resumptionToken = row.resumptionToken) : Uploaded later := by
  refine ⟨?_,?_,?_,?_⟩
  · rw [known]
    exact recorded.once
  · rw [known]
    exact fun token index chunk there => minted token (recorded.minted token index chunk there)
  · rw [known,chunks]
    exact recorded.told
  · rw [known,chunks]
    intro row stored index chunk there
    obtain ⟨old,known,same⟩ := tokens row stored (recorded.minted _ index chunk there)
    rw [← same] at there ⊢
    exact recorded.stands old known index chunk there

/-- Deleted sessions lose their chunks, the others keep theirs. -/
theorem Uploaded.deleted (recorded : Uploaded world) (sessions : Sessions world) (goes : Transfer → Bool)
    (known : later.recorded = world.recorded) (minted : later.minted = world.minted)
    (tables : later.tables = world.tables.deleteTransfers goes) : Uploaded later := by
  refine ⟨?_,?_,?_,?_⟩
  · rw [known]
    exact recorded.once
  · rw [known,minted]
    exact recorded.minted
  · intro token index chunk there
    rw [tables,Tables.deleteTransfers] at there
    dsimp only at there
    split at there
    · cases there
    · exact known ▸ recorded.told token index chunk there
  · intro row stored index chunk there
    rw [tables] at stored ⊢
    obtain ⟨was,stays⟩ := Tables.mem_deleteTransfers.mp stored
    have alone : (world.tables.transfers.any fun other => goes other && other.resumptionToken == row.resumptionToken) = false := by
      rw [List.any_eq_false]
      intro other known same
      obtain ⟨goes_,same⟩ := Bool.and_eq_true_iff.mp same
      obtain rfl := eq_of_token sessions known was (beq_iff_eq.mp same)
      rw [stays] at goes_
      cases goes_
    rw [Tables.deleteTransfers]
    dsimp only
    rw [alone]
    exact recorded.stands row was index chunk (known ▸ there)

theorem Uploaded.inserted {token : Token} {index : Nat} {chunk : Chunk} {tables : Tables} (recorded : Uploaded world)
    (sessions : Sessions world) (made : Tables.Recorded world.tables token index chunk tables) :
    Uploaded { world with tables := tables, recorded := (token,index,chunk) :: world.recorded } := by
  obtain ⟨row,there⟩ := Option.isSome_iff_exists.mp made.session
  obtain ⟨stored,rfl⟩ := Tables.session_eq_some there
  have unrecorded (other : Chunk) (known : (row.resumptionToken,index,other) ∈ world.recorded) : False := by
    have stands := recorded.stands row stored index other known
    rw [made.absent] at stands
    cases stands
  have chunks (token : Token) (place : Nat) : tables.chunks token place =
      if token = row.resumptionToken ∧ place = index then some chunk else world.tables.chunks token place := by
    rw [made.chunks]
    by_cases same : token = row.resumptionToken
    · subst same
      by_cases at_ : place = index
      · subst at_
        simp
      · simp [at_]
    · simp [same]
  refine ⟨fun token place a b first second => ?_,fun token place other there => ?_,fun token place other there => ?_,
    fun other known place found there => ?_⟩
  · rcases List.mem_cons.mp first with same | old <;> rcases List.mem_cons.mp second with equal | known
    · simp only [Prod.mk.injEq] at same equal
      exact same.2.2.trans equal.2.2.symm
    · simp only [Prod.mk.injEq] at same
      obtain ⟨rfl,rfl,rfl⟩ := same
      exact absurd known (unrecorded b)
    · simp only [Prod.mk.injEq] at equal
      obtain ⟨rfl,rfl,rfl⟩ := equal
      exact absurd old (unrecorded a)
    · exact recorded.once token place a b old known
  · rcases List.mem_cons.mp there with same | known
    · simp only [Prod.mk.injEq] at same
      exact same.1 ▸ sessions.minted row stored
    · exact recorded.minted token place other known
  · rw [chunks] at there
    split at there
    · rename_i same
      obtain ⟨rfl,rfl⟩ := same
      cases there
      exact List.mem_cons_self
    · exact List.mem_cons_of_mem _ (recorded.told token place other there)
  · rw [chunks]
    rcases List.mem_cons.mp there with same | old
    · simp only [Prod.mk.injEq] at same
      rw [if_pos ⟨same.1,same.2.1⟩,same.2.2]
    · rw [made.transfers] at known
      split
      · rename_i same
        rw [same.1,same.2] at old
        exact absurd old (unrecorded found)
      · exact recorded.stands other known place found old

/-- What a task does to the recorded chunks -/
theorem recorded_effect (recorded : Uploaded world) (sessions : Sessions world) (effect : Effect library number task world later) :
    Uploaded later ∧ Onward world later := by
  have still (same : later.recorded = world.recorded) : Onward world later := fun entry there => same ▸ there
  cases effect with
  | inserted call request expectedChunks now token tables own fresh made =>
    have inserted := Tables.insertTransfer_eq_some made
    refine ⟨recorded.same rfl (fun _ => List.mem_cons_of_mem _) inserted.chunks fun row stored known => ?_,still rfl⟩
    rcases List.mem_append.mp (inserted.transfers ▸ stored) with old | last
    · exact ⟨row,old,rfl⟩
    · rw [List.mem_singleton.mp last] at known
      exact absurd known fresh
  | replaced => exact ⟨recorded.deleted sessions _ rfl rfl rfl,still rfl⟩
  | reaped => exact ⟨recorded.deleted sessions _ rfl rfl rfl,still rfl⟩
  | recorded call binding tables own made =>
    exact ⟨recorded.inserted sessions (Tables.insertChunk_eq_some made),fun entry there => List.mem_cons_of_mem _ there⟩
  | finalized | failed =>
    refine ⟨recorded.same rfl (fun _ => id) rfl fun row stored _ => ?_,still rfl⟩
    obtain ⟨old,known,rfl⟩ := Tables.mem_endTransfer.mp stored
    exact ⟨old,known,(Tables.ended_token ..).symm⟩
  | deliveryFailed call binding status own =>
    have same : (world.tables.failDelivery call.operationId world.clock).transfers = world.tables.transfers ∧
        (world.tables.failDelivery call.operationId world.clock).chunks = world.tables.chunks := by
      rcases Tables.failDelivery_cases world.tables call.operationId world.clock with same | ⟨_,_,_,_,_,same⟩ <;>
        rw [same] <;> exact ⟨rfl,rfl⟩
    exact ⟨recorded.same rfl (fun _ => id) same.2 fun row stored _ => ⟨row,same.1 ▸ stored,rfl⟩,still rfl⟩
  | minted => exact ⟨recorded.same rfl (fun _ => List.mem_cons_of_mem _) rfl fun row stored _ => ⟨row,stored,rfl⟩,still rfl⟩
  | nothing => exact ⟨recorded,still rfl⟩
  | entered | cleared | thinned | created | wrote | renamed | unlinked | forwarded | responded =>
    exact ⟨recorded.same rfl (fun _ => id) rfl fun row stored _ => ⟨row,stored,rfl⟩,still rfl⟩

theorem recorded_outside (recorded : Uploaded world) (move : Outside) (moved : world.outside move = some later) :
    Uploaded later ∧ Onward world later := by
  cases move with
  | tick clock =>
    simp only [World.outside] at moved
    split at moved <;> cases moved
    exact ⟨recorded.same rfl (fun _ => id) rfl fun row stored _ => ⟨row,stored,rfl⟩,fun _ => id⟩
  | report operationId status stage percent message =>
    cases moved
    have same : (world.tables.recordStatus operationId status stage percent message world.clock).transfers = world.tables.transfers ∧
        (world.tables.recordStatus operationId status stage percent message world.clock).chunks = world.tables.chunks := by
      rcases Tables.recordStatus_cases world.tables operationId status stage percent message world.clock with
        same | ⟨_,_,_,_,_,_,same⟩ <;> rw [same] <;> exact ⟨rfl,rfl⟩
    exact ⟨recorded.same rfl (fun _ => id) same.2 fun row stored _ => ⟨row,same.1 ▸ stored,rfl⟩,fun _ => id⟩

end Effects

section Forwards

variable {library : Library} {number : Nat} {task : Task} {world later : World}

/-- Only a finalize forwards. -/
theorem effect_forwarded (effect : Effect library number task world later) (other : ∀ call at_, task ≠ .finalizing call at_) :
    later.forwarded = world.forwarded := by
  cases effect with
  | forwarded call binding rows file sent own => exact absurd own (other call _)
  | _ => rfl

theorem outside_forwarded (move : Outside) (moved : world.outside move = some later) : later.forwarded = world.forwarded := by
  cases move with
  | tick clock =>
    simp only [World.outside] at moved
    split at moved <;> cases moved
    rfl
  | report =>
    cases moved
    rfl

end Forwards

section Puts

/-- What a put knows where it awaits: it goes by the session of its token, and its chunk is recorded once it counts. -/
def PutHolds (library : Library) (call : PutChunk) (world : World) : Putting → Prop
  | .checking binding | .entering binding | .creating binding | .writing binding _ | .syncing binding _ | .publishing binding
  | .recording binding => binding.token = call.token
  | .counting binding _ => binding.token = call.token ∧ (call.token,call.index,call.chunk library) ∈ world.recorded
  | .answered (.received token index _ _) =>
    token = call.token ∧ index = call.index ∧ (call.token,call.index,call.chunk library) ∈ world.recorded
  | _ => True

variable {library : Library} {call : PutChunk} {world later : World} {at_ next : Putting}

theorem PutHolds.onward (holds : PutHolds library call world at_) (onward : Onward world later) : PutHolds library call later at_ := by
  cases at_ with
  | counting => exact ⟨holds.1,onward _ holds.2⟩
  | answered answer =>
    cases answer with
    | received => exact ⟨holds.1,holds.2.1,onward _ holds.2.2⟩
    | _ => trivial
  | _ => exact holds

theorem binding_token_eq {principal : Principal} {provider : String} {operationId : OperationId} {token : Token} {binding : TransferBinding}
    (bound : world.binding principal provider operationId token = some binding) : binding.token = token := by
  simp only [World.binding,Tables.transferBinding,Option.bind_eq_bind,Option.bind_eq_some_iff] at bound
  obtain ⟨row,found,acceptance,_,bound⟩ := bound
  split at bound
  · cases bound
    rfl
  · cases bound

theorem putChunk_holds {number : Nat} {event : Event} (uploaded : Uploaded world) (holds : PutHolds library call world at_)
    (stepped : putChunk library call number world at_ event = some (later,next)) : PutHolds library call later next := by
  cases at_ <;> cases event <;> simp only [putChunk,reduceCtorEq] at stepped
  case binding.statement fate =>
    split at stepped
    · split at stepped <;> cases stepped
      · trivial
      · rename_i binding bound
        have token := binding_token_eq bound
        rw [PutChunk.admitted]
        repeat' split
        · trivial
        · trivial
        · exact token
        · trivial
    · cases stepped
      trivial
  case checking.statement binding fate =>
    split at stepped
    · split at stepped
      · rename_i row found
        split at stepped <;> cases stepped
        · rename_i same
          refine ⟨holds,?_⟩
          rw [← same,← (show binding.token = call.token from holds)]
          exact uploaded.told binding.token call.index row found
        · trivial
      · cases stepped
        exact holds
    · cases stepped
      trivial
  case entering.file binding succeeds | writing.file binding file succeeds | syncing.file binding file succeeds =>
    cases succeeds <;> cases stepped
    · trivial
    · exact holds
  case creating.file binding succeeds | publishing.file binding succeeds =>
    split at stepped <;> cases stepped
    · exact holds
    · trivial
  case recording.statement binding fate =>
    split at stepped
    · cases stepped
      trivial
    · cases fate <;> cases stepped
      · exact ⟨holds,(show binding.token = call.token from holds) ▸ List.mem_cons_self⟩
      · trivial
      · trivial
  case counting.statement binding replay fate =>
    cases stepped
    exact ⟨holds.1,rfl,holds.2⟩
  all_goals
    split at stepped <;> cases stepped <;> trivial

end Puts

section Assemblies

/-- The rows with the staged bytes that were read for them: each has the digest and the size of its bytes, and they stand in
the order of their indices from 0. -/
structure Verifies (library : Library) (rows : List (Nat × Chunk)) (parts : List (List UInt8)) : Prop where
  held : List.Forall₂ (fun row part => row.2.sha256 = library.sha256 part ∧ row.2.byteSize = part.length) rows parts
  indices : rows.map (·.1) = List.range rows.length

/-- The rows are as many as the plan has, and were all recorded for the session. -/
structure Listed (world : World) (binding : TransferBinding) (rows : List (Nat × Chunk)) : Prop where
  count : rows.length = binding.expectedChunks
  recorded : ∀ row ∈ rows, (binding.token,row.1,row.2) ∈ world.recorded

/-- The rows were read whole, and their bytes have the digest and the length that were declared. -/
structure Whole (library : Library) (world : World) (binding : TransferBinding) (rows : List (Nat × Chunk)) : Prop where
  listed : Listed world binding rows
  verified : ∃ parts, Verifies library rows parts ∧ library.sha256 parts.flatten = binding.digestSha256 ∧
    min parts.flatten.length 18446744073709551615 = binding.declaredSizeBytes

/-- The assembly has read the rows before those that are left. -/
structure Assembles (library : Library) (world : World) (assembly : Assembly) : Prop where
  listed : Listed world assembly.binding assembly.rows
  done : ∃ rows parts, assembly.rows = rows ++ assembly.rest ∧ Verifies library rows parts ∧ assembly.expectedIndex = rows.length ∧
    assembly.assembled = parts.flatten ∧ assembly.assembledSize = min parts.flatten.length 18446744073709551615

/-- What a finalize knows of the chunks where it awaits. -/
def FinalizeHolds (library : Library) (world : World) : Finalizing → Prop
  | .creating binding rows => Listed world binding rows
  | .reading assembly row => Assembles library world assembly ∧ ∃ rest, assembly.rest = row :: rest ∧ row.1 = assembly.expectedIndex
  | .appending assembly chunk => Assembles library world assembly ∧
      ∃ row rest, assembly.rest = row :: rest ∧ row.1 = assembly.expectedIndex ∧ row.2.holds library chunk = true
  | .syncing assembly => Assembles library world assembly ∧ assembly.rest = []
  | .renaming binding rows | .opening binding rows | .streaming binding rows _ _ => Whole library world binding rows
  | _ => True

/-- Every body that was streamed to its end was assembled from all chunks. -/
def Delivered (library : Library) (world : World) : Prop :=
  ∀ forwarded ∈ world.forwarded, Whole library world forwarded.binding forwarded.rows

variable {library : Library} {world later : World} {binding : TransferBinding} {rows : List (Nat × Chunk)} {assembly : Assembly}

theorem Listed.onward (listed : Listed world binding rows) (onward : Onward world later) : Listed later binding rows :=
  ⟨listed.count,fun row member => onward _ (listed.recorded row member)⟩

theorem Whole.onward (whole : Whole library world binding rows) (onward : Onward world later) : Whole library later binding rows :=
  ⟨whole.listed.onward onward,whole.verified⟩

theorem Assembles.onward (assembles : Assembles library world assembly) (onward : Onward world later) : Assembles library later assembly :=
  ⟨assembles.listed.onward onward,assembles.done⟩

theorem FinalizeHolds.onward (onward : Onward world later) :
    ∀ {at_ : Finalizing}, FinalizeHolds library world at_ → FinalizeHolds library later at_
  | .creating _ _,holds => Listed.onward holds onward
  | .reading _ _,holds | .appending _ _,holds | .syncing _,holds => ⟨holds.1.onward onward,holds.2⟩
  | .renaming _ _,holds | .opening _ _,holds | .streaming _ _ _ _,holds => Whole.onward holds onward
  | .authorizing,_ | .binding,_ | .listing _,_ | .dropping _ _,_ | .failing _ _,_ | .awaiting _,_ | .recording _,_ | .clearing _,_
  | .refusing _ _,_ | .ending _ _,_ | .discarding _ _,_ | .answered _,_ => trivial

/-- A row more that holds its bytes -/
theorem Verifies.snoc {parts : List (List UInt8)} (verifies : Verifies library rows parts) {row : Nat × Chunk} {chunk : List UInt8}
    (index : row.1 = rows.length) (holds : row.2.holds library chunk = true) : Verifies library (rows ++ [row]) (parts ++ [chunk]) := by
  simp only [Chunk.holds,Bool.and_eq_true,beq_iff_eq] at holds
  refine ⟨List.rel_append verifies.held (.cons holds .nil),?_⟩
  rw [List.map_append,verifies.indices,List.length_append,List.length_singleton,List.range_succ]
  exact congrArg (List.range rows.length ++ [·]) index

theorem saturating_add_min (a b : Nat) : saturatingAdd (min a 18446744073709551615) b = min (a + b) 18446744073709551615 := by
  rw [saturatingAdd]
  omega

theorem Assembles.append (assembles : Assembles library world assembly) {row : Nat × Chunk} {rest : List (Nat × Chunk)}
    {chunk : List UInt8} (next : assembly.rest = row :: rest) (index : row.1 = assembly.expectedIndex)
    (holds : row.2.holds library chunk = true) : Assembles library world (assembly.append chunk) := by
  obtain ⟨listed,rows,parts,split,verifies,expected,assembled,size⟩ := assembles
  refine ⟨listed,rows ++ [row],parts ++ [chunk],?_,verifies.snoc (index.trans expected) holds,?_,?_,?_⟩
  · simp [Assembly.append,split,next]
  · simp [Assembly.append,expected]
  · simp [Assembly.append,assembled]
  · simp only [Assembly.append,size,saturating_add_min,List.flatten_append,List.flatten_singleton,List.length_append]

theorem Assembles.next (assembles : Assembles library world assembly) : FinalizeHolds library world assembly.next := by
  rw [Assembly.next]
  split
  · exact ⟨assembles,‹_›⟩
  · split
    · exact ⟨assembles,_,‹_›,‹_›⟩
    · trivial

/-- Where no row is left and the whole has the declared digest and size, all chunks were read. -/
theorem Assembles.whole (assembles : Assembles library world assembly) (ended : assembly.rest = [])
    (verified : assembly.verified library = true) : Whole library world assembly.binding assembly.rows := by
  obtain ⟨listed,rows,parts,split,verifies,_,assembled,size⟩ := assembles
  simp only [Assembly.verified,Bool.and_eq_true,beq_iff_eq] at verified
  rw [ended,List.append_nil] at split
  refine ⟨listed,parts,split ▸ verifies,?_,?_⟩
  · rw [← assembled]
    exact verified.1
  · rw [← size]
    exact verified.2

theorem finalizeTransfer_holds {call : FinalizeTransfer} {number : Nat} {at_ next : Finalizing} {event : Event} (uploaded : Uploaded world)
    (delivered : Delivered library world) (holds : FinalizeHolds library world at_) (onward : Onward world later)
    (stepped : finalizeTransfer library call number world at_ event = some (later,next)) :
    Delivered library later ∧ FinalizeHolds library later next := by
  have still (same : later.forwarded = world.forwarded) : Delivered library later := fun forwarded there =>
    (delivered forwarded (same ▸ there)).onward onward
  have stays := FinalizeHolds.onward onward holds
  cases at_ <;> cases event <;> simp only [finalizeTransfer,reduceCtorEq] at stepped
  case listing.statement binding fate =>
    split at stepped
    · split at stepped <;> cases stepped
      · rename_i count
        exact ⟨still rfl,count,fun row member => uploaded.told _ _ _ (Tables.mem_chunkRows.mp member).2⟩
      · exact ⟨still rfl,trivial⟩
    · cases stepped
      exact ⟨still rfl,trivial⟩
  case creating.file binding rows succeeds =>
    split at stepped <;> cases stepped
    · refine ⟨still rfl,Assembles.next ⟨stays,[],[],rfl,⟨.nil,rfl⟩,rfl,rfl,rfl⟩⟩
    · exact ⟨still rfl,trivial⟩
  case reading.file assembly row succeeds =>
    obtain ⟨assembles,rest,ahead,index⟩ := holds
    split at stepped
    · split at stepped <;> cases stepped
      · rename_i held
        exact ⟨still rfl,assembles,row,rest,ahead,index,held⟩
      · exact ⟨still rfl,trivial⟩
    · cases stepped
      exact ⟨still rfl,trivial⟩
  case appending.file assembly chunk succeeds =>
    obtain ⟨assembles,row,rest,ahead,index,held⟩ := stays
    cases succeeds <;> cases stepped
    · exact ⟨still rfl,trivial⟩
    · exact ⟨still rfl,(assembles.append ahead index held).next⟩
  case syncing.file assembly succeeds =>
    obtain ⟨assembles,ended⟩ := stays
    split at stepped
    · split at stepped <;> cases stepped
      · rename_i verified
        exact ⟨still rfl,assembles.whole ended verified⟩
      · exact ⟨still rfl,trivial⟩
    · cases stepped
      exact ⟨still rfl,trivial⟩
  case renaming.file binding rows succeeds | opening.file binding rows succeeds =>
    split at stepped <;> cases stepped
    · exact ⟨still rfl,stays⟩
    · exact ⟨still rfl,trivial⟩
  case streaming.read binding rows file sent most =>
    split at stepped
    · cases stepped
    · split at stepped <;> cases stepped
      · refine ⟨fun forwarded there => ?_,trivial⟩
        rcases List.mem_cons.mp there with rfl | old
        · exact stays
        · exact (delivered forwarded old).onward onward
      · exact ⟨still rfl,stays⟩
  case streaming.responded binding rows file sent status | awaiting.responded binding status =>
    cases stepped
    refine ⟨still rfl,?_⟩
    rw [Archives.delivered]
    repeat' split
    all_goals trivial
  all_goals
    repeat' split at stepped
    all_goals cases stepped
    all_goals exact ⟨still rfl,trivial⟩

end Assemblies

section Runs

variable (library : Library)

def Task.Knowing (world : World) (_ : Nat) : Task → Prop
  | .putting call at_ => PutHolds library call world at_
  | .finalizing _ at_ => FinalizeHolds library world at_
  | _ => True

/-- The sessions, their recorded chunks and what was forwarded of them -/
structure Staged (world : World) : Prop where
  sessions : Sessions world
  uploaded : Uploaded world
  delivered : Delivered library world

theorem chunks_keep : (machine library).Keeps (fun _ _ => True) (Staged library) (fun _ => Onward) (Task.Knowing library) where
  begins world number call _ := by cases call <;> trivial
  drops _ _ _ := trivial
  stays world later number task _ onward knows := by
    cases task with
    | putting call at_ => exact PutHolds.onward knows onward
    | finalizing call at_ => exact FinalizeHolds.onward onward knows
    | opening | sweeping | dropped => trivial
  resumes system number event task later after _ stored holds turn := by
    have effect := Task.resume_effect library number task event turn
    obtain ⟨sessions,uploaded,delivered⟩ := holds.world
    have knows := holds.tasks number task stored
    obtain ⟨kept,-⟩ := sessions_effect sessions effect
    obtain ⟨stands,onward⟩ := recorded_effect uploaded sessions effect
    have still (same : later.forwarded = system.world.forwarded) : Delivered library later := fun forwarded there =>
      (delivered forwarded (same ▸ there)).onward onward
    cases task with
    | opening call at_ =>
      obtain ⟨_,_,same⟩ := Option.map_eq_some_iff.mp turn
      exact ⟨⟨kept,stands,still (effect_forwarded effect (by rintro _ _ ⟨⟩))⟩,(Prod.mk.inj same).2 ▸ trivial,fun _ _ => onward⟩
    | putting call at_ =>
      obtain ⟨⟨world,next⟩,stepped,same⟩ := Option.map_eq_some_iff.mp turn
      obtain ⟨rfl,rfl⟩ := Prod.mk.inj same
      exact ⟨⟨kept,stands,still (effect_forwarded effect (by rintro _ _ ⟨⟩))⟩,putChunk_holds uploaded knows stepped,fun _ _ => onward⟩
    | finalizing call at_ =>
      obtain ⟨⟨world,next⟩,stepped,same⟩ := Option.map_eq_some_iff.mp turn
      obtain ⟨rfl,rfl⟩ := Prod.mk.inj same
      obtain ⟨whole,own⟩ := finalizeTransfer_holds uploaded delivered knows onward stepped
      exact ⟨⟨kept,stands,whole⟩,own,fun _ _ => onward⟩
    | sweeping sweep at_ =>
      obtain ⟨_,_,same⟩ := Option.map_eq_some_iff.mp turn
      exact ⟨⟨kept,stands,still (effect_forwarded effect (by rintro _ _ ⟨⟩))⟩,(Prod.mk.inj same).2 ▸ trivial,fun _ _ => onward⟩
    | dropped => cases turn
  outside world move later staged moved := by
    obtain ⟨sessions,-⟩ := sessions_outside staged.sessions move moved
    obtain ⟨stands,onward⟩ := recorded_outside staged.uploaded move moved
    refine ⟨⟨sessions,stands,fun forwarded there => ?_⟩,fun _ => onward⟩
    exact (staged.delivered forwarded (outside_forwarded move moved ▸ there)).onward onward

theorem chunks_hold {Property : System → Prop} (implied : ∀ system, Tasks.Holds (Staged library) (Task.Knowing library) system → Property system)
    (operations : Db) (clock : Timestamp) (actions : List Action) :
    StateMachine.Throughout (step library) Property (initial operations clock) actions := by
  refine (chunks_keep library).throughout implied actions (StateMachine.along_of_forall _ _ _ _ fun _ _ _ => trivial) ⟨⟨?_,?_,?_⟩,?_⟩
  · exact ⟨List.nodup_nil,List.nodup_nil,fun _ stored => absurd stored List.not_mem_nil⟩
  · exact ⟨fun _ _ _ _ there => absurd there List.not_mem_nil,fun _ _ _ there => absurd there List.not_mem_nil,fun _ _ _ => nofun,
      fun _ stored => absurd stored List.not_mem_nil⟩
  · exact fun _ there => absurd there List.not_mem_nil
  · exact fun _ _ => nofun

/-- Uploads that were answered as received: two of one chunk are the same chunk, and it is recorded while the session has its row. -/
structure UploadsStand (system : System) : Prop where
  agree : ∀ first second call other token index count replay token_ index_ count_ replay_,
    system.tasks first = some (.putting call (.answered (.received token index count replay))) →
    system.tasks second = some (.putting other (.answered (.received token_ index_ count_ replay_))) →
    call.token = other.token → call.index = other.index →
      library.sha256 call.body = library.sha256 other.body ∧ call.body.length = other.body.length
  stands : ∀ number call token index count replay,
    system.tasks number = some (.putting call (.answered (.received token index count replay))) →
    token = call.token ∧ index = call.index ∧ ∀ row ∈ system.world.tables.transfers, row.resumptionToken = call.token →
      system.world.tables.chunks call.token call.index = some (call.chunk library)

theorem uploads_stand (operations : Db) (clock : Timestamp) (actions : List Action) :
    StateMachine.Throughout (step library) (UploadsStand library) (initial operations clock) actions := by
  refine chunks_hold library (fun system holds => ⟨?_,?_⟩) operations clock actions
  · intro first second call other token index count replay token_ index_ count_ replay_ one two sameToken sameIndex
    obtain ⟨_,_,recorded⟩ := holds.tasks first _ one
    obtain ⟨_,_,known⟩ := holds.tasks second _ two
    rw [← sameToken,← sameIndex] at known
    have same := holds.world.uploaded.once _ _ _ _ recorded known
    exact ⟨congrArg Chunk.sha256 same,congrArg Chunk.byteSize same⟩
  · intro number call token index count replay stored
    obtain ⟨ownToken,ownIndex,recorded⟩ := holds.tasks number _ stored
    refine ⟨ownToken,ownIndex,fun row there same => ?_⟩
    rw [← same] at recorded ⊢
    exact holds.world.uploaded.stands row there _ _ recorded

end Runs

end Ratatoskr.Archives
