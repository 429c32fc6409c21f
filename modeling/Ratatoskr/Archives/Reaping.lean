import Ratatoskr.Archives.Reopening

/-! What a sweep removes. It judges a session in its candidate query and removes its directory and its row later, with
requests on other sessions in between. -/
namespace Ratatoskr.Archives

open Operations PublicApi

/-- A session that is open and not expired, with an operation that has not ended or only within the grace -/
structure InUse (limits : SweepLimits) (world : World) (row : Transfer) : Prop where
  opened : row.sessionState = .open_
  unexpired : world.now < row.expiresAt
  running : ∀ record : OperationRecord, world.tables.operations (.operation row.operationId) = some record →
    isTerminal record.operation.status = false ∨
      ∃ ended, record.operation.terminatedAt = some ended ∧ toOffset (world.clock - limits.terminalGrace) < ended

/-- A session that the candidate query may find. -/
def Doomed (limits : SweepLimits) (world : World) (row : Transfer) : Prop :=
  row.sessionState = .failed ∨ row.sessionState = .finalized ∨ row.expiresAt ≤ world.now ∨
    ∃ record : OperationRecord, world.tables.operations (.operation row.operationId) = some record ∧
      ∃ ended, record.operation.terminatedAt = some ended ∧ ended ≤ toOffset (world.clock - limits.terminalGrace)

/-- What holds of the tables and the staging root. -/
structure Kept (world : World) : Prop where
  sessions : Sessions world
  folders : ∀ token, (world.staging.folders token).isSome → token ∈ world.minted
  checked : ∀ operationId record, world.tables.operations (.operation operationId) = some record →
    OperationRecord.checks record = true

section Doom

variable {limits : SweepLimits} {world later : World} {row new : Transfer}

theorem terminal_of_ended (kept : Kept world) {operationId : OperationId} {record : OperationRecord}
    (stored : world.tables.operations (.operation operationId) = some record) :
    isTerminal record.operation.status = record.operation.terminatedAt.isSome := by
  have checks := kept.checked operationId record stored
  simp only [OperationRecord.checks,Operation.checks,Bool.and_eq_true,beq_iff_eq] at checks
  rw [← status_is_terminal_str]
  exact checks.1.1.1.1.2

/-- What a sweep may remove is not in use. -/
theorem Doomed.not_inUse (kept : Kept world) (doomed : Doomed limits world row) : ¬InUse limits world row := by
  rintro ⟨opened,unexpired,running⟩
  rcases doomed with failed | finalized | expired | ⟨record,stored,ended,at_,past⟩
  · rw [failed] at opened
    cases opened
  · rw [finalized] at opened
    cases opened
  · omega
  · rcases running record stored with live | ⟨other,same,within⟩
    · rw [terminal_of_ended kept stored,at_] at live
      cases live
    · rw [at_] at same
      obtain rfl := Option.some.inj same
      omega

theorem Doomed.moved (kept : Kept world) (doomed : Doomed limits world row) (moved : Moved world later) (ages : Ages row new) :
    Doomed limits later new := by
  have state := ages.sessionState
  rcases doomed with failed | finalized | expired | ⟨record,stored,ended,at_,past⟩
  · rw [failed] at state
    exact Or.inl (state.resolve_right nofun)
  · rw [finalized] at state
    exact Or.inr (Or.inl (state.resolve_right nofun))
  · have onward := to_offset_mono moved.clock
    have expires := ages.expiresAt
    exact Or.inr (Or.inr (Or.inl (by rw [World.now] at expired ⊢; omega)))
  · have terminal : isTerminal record.operation.status = true := by rw [terminal_of_ended kept stored,at_]; rfl
    have still := moved.operations.still row.operationId record stored terminal
    have onward : toOffset (world.clock - limits.terminalGrace) ≤ toOffset (later.clock - limits.terminalGrace) :=
      to_offset_mono (Int.sub_le_sub_right moved.clock _)
    exact Or.inr (Or.inr (Or.inr ⟨record,ages.operationId ▸ still,ended,at_,past.trans onward⟩))

end Doom

/-- Every session of the token may be removed. -/
def Fated (limits : SweepLimits) (world : World) (token : Token) : Prop :=
  token ∈ world.minted ∧ ∀ row ∈ world.tables.transfers, row.resumptionToken = token → Doomed limits world row

/-- No session of the token is there or can come. -/
def Unowned (world : World) (token : Token) : Prop :=
  token ∈ world.minted ∧ ∀ row ∈ world.tables.transfers, row.resumptionToken ≠ token

/-- What a sweep knows of the sessions where it awaits. -/
def SweepHolds (sweep : Sweep) (world : World) : Sweeping → Prop
  | .selecting | .scanning _ | .finished _ | .aborted => True
  | .reaping token _ rest _ | .deleting token _ rest _ =>
    Fated sweep.limits world token ∧ ∀ entry ∈ rest, Fated sweep.limits world entry.1
  | .owning found _ => ∀ orphan ∈ found, orphan.name ∈ world.minted
  | .removing orphan rest _ => Unowned world orphan.name ∧ ∀ other ∈ rest, Unowned world other.name

/-- What a task knows of the tokens it names. -/
def Task.Names (world : World) (_ : Nat) : Task → Prop
  | .opening _ (.creating _ token _) => token ∈ world.minted
  | .putting _ (.checking binding) | .putting _ (.entering binding) => binding.token ∈ world.minted
  | .sweeping sweep at_ => sweep.now ≤ world.clock ∧ SweepHolds sweep world at_
  | _ => True

section Moves

variable {limits : SweepLimits} {world later : World} {token : Token}

theorem Fated.moved (kept : Kept world) (fated : Fated limits world token) (moved : Moved world later) : Fated limits later token := by
  refine ⟨moved.minted _ fated.1,fun new stored same => ?_⟩
  rcases moved.came new stored with ⟨row,old,ages⟩ | fresh
  · exact (fated.2 row old (ages.token.symm.trans same)).moved kept moved ages
  · exact absurd (same ▸ fated.1) fresh

theorem Unowned.moved (unowned : Unowned world token) (moved : Moved world later) : Unowned later token := by
  refine ⟨moved.minted _ unowned.1,fun new stored same => ?_⟩
  rcases moved.came new stored with ⟨row,old,ages⟩ | fresh
  · exact unowned.2 row old (ages.token.symm.trans same)
  · exact absurd (same ▸ unowned.1) fresh

theorem SweepHolds.moved {sweep : Sweep} {at_ : Sweeping} (kept : Kept world) (holds : SweepHolds sweep world at_)
    (moved : Moved world later) : SweepHolds sweep later at_ := by
  cases at_ with
  | selecting | scanning | finished | aborted => trivial
  | reaping | deleting => exact ⟨holds.1.moved kept moved,fun entry member => (holds.2 entry member).moved kept moved⟩
  | owning => exact fun orphan member => moved.minted _ (holds orphan member)
  | removing => exact ⟨holds.1.moved moved,fun orphan member => (holds.2 orphan member).moved moved⟩

theorem Task.Names.moved {number : Nat} {task : Task} (kept : Kept world) (names : task.Names world number)
    (moved : Moved world later) : task.Names later number := by
  cases task with
  | opening call at_ =>
    cases at_ with
    | creating => exact moved.minted _ names
    | _ => trivial
  | putting call at_ =>
    cases at_ with
    | checking | entering => exact moved.minted _ names
    | _ => trivial
  | sweeping sweep at_ => exact ⟨names.1.trans moved.clock,names.2.moved kept moved⟩
  | finalizing | dropped => trivial

end Moves

section Queries

variable {sweep : Sweep} {world : World}

theorem doomed_of_reason (began : sweep.now ≤ world.clock) {row : Transfer} {reason : Reason}
    (found : sweep.reason world row = some reason) : Doomed sweep.limits world row := by
  rw [Sweep.reason] at found
  split at found
  · cases found
  · rename_i record stored
    simp only at found
    split at found
    · exact Or.inl ‹_›
    · split at found
      · exact Or.inr (Or.inl ‹_›)
      · split at found
        · rename_i expired
          exact Or.inr (Or.inr (Or.inl (expired.trans (to_offset_mono began))))
        · split at found
          · rename_i past
            obtain ⟨ended,at_,past⟩ := (Option.any_eq_true _ _).mp past
            have onward : toOffset (sweep.now - sweep.limits.terminalGrace) ≤ toOffset (world.clock - sweep.limits.terminalGrace) :=
              to_offset_mono (Int.sub_le_sub_right began _)
            exact Or.inr (Or.inr (Or.inr ⟨record,stored,ended,at_,(of_decide_eq_true past).trans onward⟩))
          · cases found

/-- A row of the candidate query -/
theorem mem_candidates {entry : Token × Reason} (member : entry ∈ sweep.candidates world) :
    ∃ row ∈ world.tables.transfers, row.resumptionToken = entry.1 ∧ sweep.reason world row = some entry.2 := by
  obtain ⟨found,taken,rfl⟩ := List.mem_map.mp member
  obtain ⟨row,stored,reasoned⟩ := List.mem_filterMap.mp (List.mem_insertionSort _ |>.mp (List.mem_of_mem_take taken))
  obtain ⟨reason,judged,rfl⟩ := Option.map_eq_some_iff.mp reasoned
  exact ⟨row,stored,rfl,judged⟩

theorem candidates_fated (sessions : Sessions world) (began : sweep.now ≤ world.clock) {entry : Token × Reason}
    (member : entry ∈ sweep.candidates world) : Fated sweep.limits world entry.1 := by
  obtain ⟨row,stored,same,judged⟩ := mem_candidates member
  refine ⟨same ▸ sessions.minted row stored,fun other there equal => ?_⟩
  obtain rfl := eq_of_token sessions there stored (equal.trans same.symm)
  exact doomed_of_reason began judged

/-- A directory that the scan takes -/
theorem mem_orphanCandidates {names : List Token} {orphan : Orphan} (member : orphan ∈ sweep.orphanCandidates world names) :
    ∃ folder, world.staging.folders orphan.name = some folder ∧ modified folder < sweep.now - sweep.limits.orphanAge := by
  obtain ⟨name,_,found⟩ := List.mem_filterMap.mp (List.mem_insertionSort _ |>.mp member)
  obtain ⟨folder,there,found⟩ := Option.bind_eq_some_iff.mp found
  split at found
  · rename_i old
    cases found
    exact ⟨folder,there,by simpa using (Bool.and_eq_true_iff.mp old).2⟩
  · cases found

end Queries

section Turns

theorem outside_staging {world later : World} (move : Outside) (moved : world.outside move = some later) : later.staging = world.staging := by
  cases move with
  | tick clock =>
    simp only [World.outside] at moved
    split at moved <;> cases moved
    rfl
  | report =>
    cases moved
    rfl

variable {library : Library} {number : Nat} {task : Task} {world later : World}

/-- A directory is only made for a token that the task names. -/
theorem folders_effect (effect : Effect library number task world later) {token : Token} (found : (later.staging.folders token).isSome) :
    task.Enters token ∨ (world.staging.folders token).isSome := by
  cases effect with
  | entered other own =>
    rcases Files.Tree.folder_makeFolder found with rfl | there
    · exact Or.inl own
    · exact Or.inr there
  | cleared => exact Or.inr (Files.Tree.folder_removeFolder found)
  | thinned => exact Or.inr (Files.Tree.folder_thinFolder found)
  | created _ _ _ _ _ made => exact Or.inr (Files.Tree.folder_create made found)
  | renamed _ _ _ _ _ moved => exact Or.inr (Files.Tree.folder_rename moved found)
  | unlinked _ _ _ _ gone => exact Or.inr (Files.Tree.folder_unlink gone found)
  | _ => exact Or.inr found

theorem kept_effect (kept : Kept world) (names : task.Names world number) (effect : Effect library number task world later) :
    Kept later ∧ Moved world later := by
  obtain ⟨sessions,moved⟩ := sessions_effect kept.sessions effect
  refine ⟨⟨sessions,fun token found => ?_,moved.operations.checked kept.checked⟩,moved⟩
  rcases folders_effect effect found with enters | there
  · refine moved.minted token ?_
    cases task with
    | opening call at_ =>
      cases at_ with
      | creating => exact enters ▸ names
      | _ => cases enters
    | putting call at_ =>
      cases at_ with
      | entering => exact enters ▸ names
      | _ => cases enters
    | finalizing | sweeping | dropped => cases enters
  · exact moved.minted token (kept.folders token there)

theorem openTransfer_names {call : OpenTransfer} {at_ next : Opening} {event : Event}
    (stepped : openTransfer library call world at_ event = some (later,next)) : (Task.opening call next).Names later number := by
  cases at_ <;> cases event <;> simp only [openTransfer,reduceCtorEq] at stepped
  case inserting.minted request expectedChunks now token fate =>
    split at stepped
    · split at stepped
      · cases stepped
        trivial
      · cases fate <;> cases stepped
        · exact List.mem_cons_self
        · trivial
        · trivial
    · cases stepped
  case looking.statement request expectedChunks now fate =>
    rw [OpenTransfer.found] at stepped
    repeat' split at stepped
    all_goals cases stepped
    all_goals trivial
  all_goals
    repeat' split at stepped
    all_goals cases stepped
    all_goals trivial

/-- The session of a binding was there. -/
theorem binding_token {principal : Principal} {provider : String} {operationId : OperationId} {token : Token} {binding : TransferBinding}
    (bound : world.binding principal provider operationId token = some binding) :
    ∃ row ∈ world.tables.transfers, row.resumptionToken = binding.token := by
  simp only [World.binding,Tables.transferBinding,Option.bind_eq_bind,Option.bind_eq_some_iff] at bound
  obtain ⟨row,found,acceptance,_,bound⟩ := bound
  split at bound
  · cases bound
    exact ⟨row,Tables.session_eq_some found⟩
  · cases bound

theorem putChunk_names {call : PutChunk} {at_ next : Putting} {event : Event} (sessions : Sessions world)
    (names : (Task.putting call at_).Names world number)
    (stepped : putChunk library call number world at_ event = some (later,next)) : (Task.putting call next).Names later number := by
  cases at_ <;> cases event <;> simp only [putChunk,reduceCtorEq] at stepped
  case binding.statement fate =>
    split at stepped
    · split at stepped <;> cases stepped
      · trivial
      · rename_i binding bound
        obtain ⟨row,stored,same⟩ := binding_token bound
        have minted := same ▸ sessions.minted row stored
        rw [PutChunk.admitted]
        repeat' split
        · trivial
        · trivial
        · exact minted
        · trivial
    · cases stepped
      trivial
  case checking.statement binding fate =>
    repeat' split at stepped
    all_goals cases stepped
    · trivial
    · trivial
    · exact names
    · trivial
  all_goals
    repeat' split at stepped
    all_goals cases stepped
    all_goals trivial

variable {sweep : Sweep}

theorem reap_holds {rest : List (Token × Reason)} {report : SweepReport}
    (fated : ∀ entry ∈ rest, Fated sweep.limits world entry.1) : SweepHolds sweep world (.reap rest report) := by
  cases rest with
  | nil => trivial
  | cons first rest => exact ⟨fated first List.mem_cons_self,fun entry member => fated entry (List.mem_cons_of_mem _ member)⟩

theorem remove_holds {rest : List Orphan} {report : SweepReport}
    (unowned : ∀ orphan ∈ rest, Unowned world orphan.name) : SweepHolds sweep world (.remove rest report) := by
  cases rest with
  | nil => trivial
  | cons first rest => exact ⟨unowned first List.mem_cons_self,fun orphan member => unowned orphan (List.mem_cons_of_mem _ member)⟩

theorem sweepOnce_holds {at_ next : Sweeping} {event : Event} (kept : Kept world) (began : sweep.now ≤ world.clock)
    (holds : SweepHolds sweep world at_) (moved : Moved world later)
    (stepped : sweepOnce sweep world at_ event = some (later,next)) : SweepHolds sweep later next := by
  have onward := holds.moved kept moved
  cases at_ <;> cases event <;> simp only [sweepOnce,reduceCtorEq] at stepped
  case selecting.statement fate =>
    split at stepped <;> cases stepped
    · exact reap_holds fun entry member => candidates_fated kept.sessions began member
    · trivial
  case reaping.file token reason rest report succeeds =>
    cases succeeds <;> cases stepped
    · exact reap_holds onward.2
    · exact onward
  case reaping.partly token reason rest report partly_ =>
    cases stepped
    exact reap_holds onward.2
  case deleting.statement token reason rest report fate =>
    split at stepped <;> cases stepped
    · exact reap_holds onward.2
    · trivial
  case scanning.scanned report names =>
    split at stepped <;> cases stepped
    · trivial
    · intro orphan member
      obtain ⟨folder,there,_⟩ := mem_orphanCandidates member
      exact kept.folders orphan.name (there ▸ rfl)
  case owning.statement found report fate =>
    split at stepped <;> cases stepped
    · refine remove_holds fun orphan member => ?_
      obtain ⟨scanned,absent⟩ := List.mem_filter.mp (List.mem_of_mem_take member)
      refine ⟨holds orphan scanned,fun row stored same => ?_⟩
      rw [← same,Option.isNone_iff_eq_none] at absent
      exact absurd (Tables.session_isSome stored) (by simp [absent])
    · trivial
  case removing.file orphan rest report succeeds =>
    cases succeeds <;> cases stepped <;> exact remove_holds onward.2
  case removing.partly orphan rest report partly_ =>
    cases stepped
    exact remove_holds onward.2

variable (library)

theorem staging_keeps : (machine library).Keeps (fun _ _ => True) Kept (fun _ => Moved) Task.Names where
  begins world number call _ := by
    cases call with
    | sweep => exact ⟨le_rfl,trivial⟩
    | open_ | put | finalize => trivial
  drops _ _ _ := trivial
  stays world later number task kept moved names := names.moved kept moved
  resumes system number event task later after _ stored holds turn := by
    have names := holds.tasks number task stored
    obtain ⟨kept,moved⟩ := kept_effect holds.world names (Task.resume_effect library number task event turn)
    refine ⟨kept,?_,fun _ _ => moved⟩
    cases task with
    | opening call at_ =>
      obtain ⟨⟨world,next⟩,stepped,same⟩ := Option.map_eq_some_iff.mp turn
      obtain ⟨rfl,rfl⟩ := Prod.mk.inj same
      exact openTransfer_names stepped
    | putting call at_ =>
      obtain ⟨⟨world,next⟩,stepped,same⟩ := Option.map_eq_some_iff.mp turn
      obtain ⟨rfl,rfl⟩ := Prod.mk.inj same
      exact putChunk_names holds.world.sessions names stepped
    | finalizing =>
      obtain ⟨_,_,same⟩ := Option.map_eq_some_iff.mp turn
      exact (Prod.mk.inj same).2 ▸ trivial
    | sweeping sweep at_ =>
      obtain ⟨⟨world,next⟩,stepped,same⟩ := Option.map_eq_some_iff.mp turn
      obtain ⟨rfl,rfl⟩ := Prod.mk.inj same
      exact ⟨names.1.trans moved.clock,sweepOnce_holds holds.world names.1 names.2 moved stepped⟩
    | dropped => cases turn
  outside world move later kept moved := by
    obtain ⟨sessions,onward⟩ := sessions_outside kept.sessions move moved
    refine ⟨⟨sessions,fun token found => ?_,onward.operations.checked kept.checked⟩,fun _ => onward⟩
    refine onward.minted token (kept.folders token ?_)
    rwa [← outside_staging move moved]

end Turns

section History

variable (library : Library) (start : System)

/-- A session of the token was there when the sweep made its candidate query. -/
def Queried (before : List Action) (number : Nat) (sweep : Sweep) (token : Token) : Prop :=
  ∃ first later middle, before = first ++ .resume number (.statement .done) :: later ∧
    StateMachine.run (step library) start first = some middle ∧ middle.tasks number = some (.sweeping sweep .selecting) ∧
    ∃ row ∈ middle.world.tables.transfers, row.resumptionToken = token

/-- The last turn of the sweep was the removal of the token's directory, which succeeded. -/
def Emptied (before : List Action) (number : Nat) (sweep : Sweep) (token : Token) : Prop :=
  ∃ first later middle after reason rest report, before = first ++ .resume number (.file true) :: later ∧
    StateMachine.run (step library) start first = some middle ∧
    middle.tasks number = some (.sweeping sweep (.reaping token reason rest report)) ∧
    step library middle (.resume number (.file true)) = some after ∧ after.world.staging.folders token = none ∧
    ∀ action ∈ later, action.number ≠ some number

/-- The directory was old enough when the sweep scanned the root. -/
def Scanned (before : List Action) (number : Nat) (sweep : Sweep) (name : Token) : Prop :=
  ∃ first names later middle report folder, before = first ++ .resume number (.scanned names) :: later ∧
    StateMachine.run (step library) start first = some middle ∧ middle.tasks number = some (.sweeping sweep (.scanning report)) ∧
    middle.world.staging.folders name = some folder ∧ modified folder < sweep.now - sweep.limits.orphanAge

/-- What a sweep has done before it removes something. -/
def SweepRemembers (before : List Action) (number : Nat) (sweep : Sweep) : Sweeping → Prop
  | .reaping token _ rest _ =>
    Queried library start before number sweep token ∧ ∀ entry ∈ rest, Queried library start before number sweep entry.1
  | .deleting token _ rest _ =>
    Queried library start before number sweep token ∧ Emptied library start before number sweep token ∧
      ∀ entry ∈ rest, Queried library start before number sweep entry.1
  | .owning found _ => ∀ orphan ∈ found, Scanned library start before number sweep orphan.name
  | .removing orphan rest _ =>
    Scanned library start before number sweep orphan.name ∧ ∀ other ∈ rest, Scanned library start before number sweep other.name
  | _ => True

def Task.Remembers (before : List Action) (number : Nat) : Task → Prop
  | .sweeping sweep at_ => SweepRemembers library start before number sweep at_
  | _ => True

variable {library start} {before : List Action} {number : Nat} {sweep : Sweep} {token : Token}

theorem Queried.append (queried : Queried library start before number sweep token) (action : Action) :
    Queried library start (before ++ [action]) number sweep token := by
  obtain ⟨first,later,middle,rfl,rest⟩ := queried
  exact ⟨first,later ++ [action],middle,by simp,rest⟩

theorem Scanned.append (scanned : Scanned library start before number sweep token) (action : Action) :
    Scanned library start (before ++ [action]) number sweep token := by
  obtain ⟨first,names,later,middle,report,folder,rfl,rest⟩ := scanned
  exact ⟨first,names,later ++ [action],middle,report,folder,by simp,rest⟩

theorem Emptied.append (emptied : Emptied library start before number sweep token) {action : Action} (other : action.number ≠ some number) :
    Emptied library start (before ++ [action]) number sweep token := by
  obtain ⟨first,later,middle,after,reason,rest,report,rfl,ran,at_,stepped,gone,apart⟩ := emptied
  refine ⟨first,later ++ [action],middle,after,reason,rest,report,by simp,ran,at_,stepped,gone,fun between member => ?_⟩
  rcases List.mem_append.mp member with known | last
  · exact apart between known
  · exact List.mem_singleton.mp last ▸ other

theorem reap_remembers {rest : List (Token × Reason)} {report : SweepReport}
    (queried : ∀ entry ∈ rest, Queried library start before number sweep entry.1) :
    SweepRemembers library start before number sweep (.reap rest report) := by
  cases rest with
  | nil => trivial
  | cons first rest => exact ⟨queried first List.mem_cons_self,fun entry member => queried entry (List.mem_cons_of_mem _ member)⟩

theorem remove_remembers {rest : List Orphan} {report : SweepReport}
    (scanned : ∀ orphan ∈ rest, Scanned library start before number sweep orphan.name) :
    SweepRemembers library start before number sweep (.remove rest report) := by
  cases rest with
  | nil => trivial
  | cons first rest => exact ⟨scanned first List.mem_cons_self,fun orphan member => scanned orphan (List.mem_cons_of_mem _ member)⟩

/-- A turn of the sweep adds what it did to what it remembers. -/
theorem sweepOnce_remembers {system : System} {at_ next : Sweeping} {event : Event} {later : World}
    (ran : StateMachine.run (step library) start before = some system) (stored : system.tasks number = some (.sweeping sweep at_))
    (past : SweepRemembers library start before number sweep at_)
    (stepped : sweepOnce sweep system.world at_ event = some (later,next)) :
    SweepRemembers library start (before ++ [.resume number event]) number sweep next := by
  have turn : step library system (.resume number event) = some (system.put number later (.sweeping sweep next)) :=
    Tasks.step_resume stored (Option.map_eq_some_iff.mpr ⟨_,stepped,rfl⟩)
  cases at_ <;> cases event <;> simp only [sweepOnce,reduceCtorEq] at stepped
  case selecting.statement fate =>
    split at stepped <;> cases stepped
    · rename_i done
      subst done
      refine reap_remembers fun entry member => ?_
      obtain ⟨row,there,same,_⟩ := mem_candidates member
      exact ⟨before,[],system,rfl,ran,stored,row,there,same⟩
    · trivial
  case reaping.file token reason rest report succeeds =>
    cases succeeds <;> cases stepped
    · exact reap_remembers fun entry member => (past.2 entry member).append _
    · refine ⟨past.1.append _,?_,fun entry member => (past.2 entry member).append _⟩
      exact ⟨before,[],system,_,reason,rest,report,rfl,ran,stored,turn,Function.update_self ..,
        fun _ member _ => absurd member List.not_mem_nil⟩
  case reaping.partly token reason rest report partly_ =>
    cases stepped
    exact reap_remembers fun entry member => (past.2 entry member).append _
  case deleting.statement token reason rest report fate =>
    split at stepped <;> cases stepped
    · exact reap_remembers fun entry member => (past.2.2 entry member).append _
    · trivial
  case scanning.scanned report names =>
    split at stepped <;> cases stepped
    · trivial
    · intro orphan member
      obtain ⟨folder,there,old⟩ := mem_orphanCandidates member
      exact ⟨before,names,[],system,report,folder,rfl,ran,stored,there,old⟩
  case owning.statement found report fate =>
    split at stepped <;> cases stepped
    · exact remove_remembers fun orphan member => (past orphan (List.mem_filter.mp (List.mem_of_mem_take member)).1).append _
    · trivial
  case removing.file orphan rest report succeeds =>
    cases succeeds <;> cases stepped <;> exact remove_remembers fun other member => (past.2 other member).append _
  case removing.partly orphan rest report partly_ =>
    cases stepped
    exact remove_remembers fun other member => (past.2 other member).append _

theorem sweeps_remember : (machine library).Remembers start (Task.Remembers library start) where
  begins before number world call := by cases call <;> trivial
  drops _ _ := trivial
  stays before action number task other past := by
    cases task with
    | sweeping sweep at_ =>
      cases at_ with
      | reaping => exact ⟨past.1.append _,fun entry member => (past.2 entry member).append _⟩
      | deleting => exact ⟨past.1.append _,past.2.1.append other,fun entry member => (past.2.2 entry member).append _⟩
      | owning => exact fun orphan member => (past orphan member).append _
      | removing => exact ⟨past.1.append _,fun orphan member => (past.2 orphan member).append _⟩
      | selecting | scanning | finished | aborted => trivial
    | opening | putting | finalizing | dropped => trivial
  resumes before system number event task later after ran stored past turn := by
    cases task with
    | sweeping sweep at_ =>
      obtain ⟨⟨world,next⟩,stepped,same⟩ := Option.map_eq_some_iff.mp turn
      obtain ⟨rfl,rfl⟩ := Prod.mk.inj same
      exact sweepOnce_remembers ran stored past stepped
    | opening | putting | finalizing =>
      obtain ⟨_,_,same⟩ := Option.map_eq_some_iff.mp turn
      exact (Prod.mk.inj same).2 ▸ trivial
    | dropped => cases turn

end History

section Swept

variable {library : Library} {number : Nat} {sweep : Sweep} {at_ : Sweeping} {world later : World}

/-- A sweep deletes a row where it is about to. -/
theorem sweep_rows (effect : Effect library number (.sweeping sweep at_) world later) {row : Transfer}
    (stored : row ∈ world.tables.transfers) (gone : row ∉ later.tables.transfers) :
    ∃ reason rest report, at_ = .deleting row.resumptionToken reason rest report := by
  cases effect with
  | reaped sweep token reason rest report own =>
    obtain ⟨_,rfl⟩ := Task.sweeping.inj own
    cases same : row.resumptionToken == token with
    | true => exact ⟨reason,rest,report,by rw [beq_iff_eq.mp same]⟩
    | false => exact absurd (Tables.mem_deleteTransfers.mpr ⟨stored,same⟩) gone
  | inserted _ _ _ _ _ _ own | replaced _ _ _ _ _ own | recorded _ _ _ own | finalized _ _ own | deliveryFailed _ _ _ own => cases own
  | failed _ own => cases own
  | _ => exact absurd stored gone

/-- A sweep touches a directory where it is about to remove it. -/
theorem sweep_folders (effect : Effect library number (.sweeping sweep at_) world later) {token : Token}
    (changed : later.staging.folders token ≠ world.staging.folders token) : (Task.sweeping sweep at_).Clears token := by
  cases effect with
  | cleared other own =>
    by_cases same : token = other
    · exact same ▸ own
    · exact absurd (Function.update_of_ne same ..) changed
  | thinned other kept own =>
    by_cases same : token = other
    · exact same ▸ own
    · exact absurd (Function.update_of_ne same ..) changed
  | entered _ own => cases own
  | created _ _ _ _ own | renamed _ _ _ _ own | unlinked _ _ _ own => cases own
  | wrote _ _ _ own => cases own
  | _ => exact absurd rfl changed

/-- What a turn of a sweep may remove: rows of sessions that are not in use, which its candidate query has seen, after their
directories; directories of such sessions; and as orphans, directories that no session has and that were old when it scanned. -/
structure Swept (library : Library) (start : System) (before : List Action) (number : Nat) (sweep : Sweep) (at_ : Sweeping)
    (system next : System) : Prop where
  rows : ∀ row ∈ system.world.tables.transfers, row ∉ next.world.tables.transfers →
    ¬InUse sweep.limits system.world row ∧ Queried library start before number sweep row.resumptionToken ∧
      Emptied library start before number sweep row.resumptionToken
  folders : ∀ token, next.world.staging.folders token ≠ system.world.staging.folders token →
    ∀ row ∈ system.world.tables.transfers, row.resumptionToken = token →
      ¬InUse sweep.limits system.world row ∧ Queried library start before number sweep token
  orphans : ∀ orphan rest report token, at_ = .removing orphan rest report →
    next.world.staging.folders token ≠ system.world.staging.folders token →
      system.world.tables.session token = none ∧ Scanned library start before number sweep token

theorem sweep_removes (library : Library) (operations : Db) (clock : Timestamp)
    (checked : ∀ operationId record, operations (.operation operationId) = some record → OperationRecord.checks record = true)
    (before : List Action) (system next : System) (number : Nat) (sweep : Sweep) (at_ : Sweeping) (event : Event)
    (ran : StateMachine.run (step library) (initial operations clock) before = some system)
    (stored : system.tasks number = some (.sweeping sweep at_))
    (stepped : step library system (.resume number event) = some next) :
    Swept library (initial operations clock) before number sweep at_ system next := by
  have start : Tasks.Holds Kept Task.Names (initial operations clock) :=
    ⟨⟨⟨List.nodup_nil,List.nodup_nil,fun _ stored => absurd stored List.not_mem_nil⟩,fun _ found => absurd found (by simp [initial,Files.Tree.empty]),checked⟩,
      fun _ _ stored => by cases stored⟩
  have holds := (staging_keeps library).run before (StateMachine.along_of_forall _ _ _ _ fun _ _ _ => trivial) start ran
  have past := sweeps_remember.run (fun _ => rfl) before ran number _ stored
  obtain ⟨began,knows⟩ := holds.tasks number _ stored
  obtain ⟨task,found,turned⟩ := Option.bind_eq_some_iff.mp stepped
  obtain rfl := Option.some.inj (stored.symm.trans found)
  obtain ⟨⟨later,after⟩,turn,rfl⟩ := Option.map_eq_some_iff.mp turned
  have effect := Task.resume_effect library number (.sweeping sweep at_) event turn
  refine ⟨fun row there gone => ?_,fun token changed row there same => ?_,fun orphan rest report token place changed => ?_⟩
  · obtain ⟨reason,rest,report,rfl⟩ := sweep_rows effect there gone
    exact ⟨(knows.1.2 row there rfl).not_inUse holds.world,past.1,past.2.1⟩
  · have clears := sweep_folders effect changed
    cases at_ with
    | reaping =>
      obtain rfl : _ = token := clears
      exact ⟨(knows.1.2 row there same).not_inUse holds.world,past.1⟩
    | removing =>
      obtain rfl : _ = token := clears
      exact absurd same (knows.1.2 row there)
    | _ => cases clears
  · subst place
    obtain rfl : orphan.name = token := sweep_folders effect changed
    refine ⟨Option.eq_none_iff_forall_not_mem.mpr fun row found => ?_,past.1⟩
    obtain ⟨there,same⟩ := Tables.session_eq_some found
    exact knows.1.2 row there same

/-- The sweep of the number, and where it awaits -/
def sweepOf (number : Nat) (system : System) : Option (Sweep × Sweeping) :=
  (system.tasks number).bind fun task => match task with
    | .sweeping sweep at_ => some (sweep,at_)
    | _ => none

/-- The operation of the sample -/
def sampleRecord : OperationRecord :=
  newRecord ⟨1,"ai_archive.import",.accepted,none,none,"request:1",none,none,true,none,0,0,none⟩

def recordedOperations : Db := Function.update sampleOperations (.operation 1) (some sampleRecord)

theorem recordedOperations_checks (operationId : OperationId) (record : TableRow (.operation operationId))
    (stored : recordedOperations (.operation operationId) = some record) : OperationRecord.checks record = true := by
  by_cases same : operationId = 1
  · subst same
    rw [recordedOperations,Function.update_self] at stored
    cases stored
    decide
  · rw [recordedOperations,Function.update_of_ne fun equal => same (Table.operation.inj equal)] at stored
    cases stored

/-- A session expires, and a sweep comes to its row. -/
def sweptExpired : List Action :=
  looks 0 ++ inserts 0 "rst_00000000000000000000000000000000" ++
    [.outside (.tick (dayLater 0)),.begin_ 1 (.sweep .default),.resume 1 (.statement .done),.resume 1 (.file true)]

theorem sweep_removes_expired : ∃ system next sweep at_,
    StateMachine.run (step sampleLibrary) (initial recordedOperations 0) sweptExpired = some system ∧
      Swept sampleLibrary (initial recordedOperations 0) sweptExpired 1 sweep at_ system next := by
  have reached : ((StateMachine.run (step sampleLibrary) (initial recordedOperations 0) sweptExpired).bind fun system =>
      (sweepOf 1 system).bind fun _ => step sampleLibrary system (.resume 1 (.statement .done))).isSome = true := by decide +kernel
  obtain ⟨next,reached⟩ := Option.isSome_iff_exists.mp reached
  obtain ⟨system,ran,reached⟩ := Option.bind_eq_some_iff.mp reached
  obtain ⟨⟨sweep,at_⟩,found,stepped⟩ := Option.bind_eq_some_iff.mp reached
  obtain ⟨task,stored,same⟩ := Option.bind_eq_some_iff.mp found
  cases task <;> cases same
  exact ⟨system,next,sweep,at_,ran,
    sweep_removes sampleLibrary recordedOperations 0 recordedOperations_checks sweptExpired system next 1 sweep at_ _ ran stored stepped⟩

end Swept

end Ratatoskr.Archives
