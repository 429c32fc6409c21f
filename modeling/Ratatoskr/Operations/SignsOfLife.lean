import Mathlib.Data.List.Dedup
import Ratatoskr.Operations.Service

/-! What keeps an operation out of the reaper's reach. -/
namespace Ratatoskr.Operations

open Transaction

/-- The newest fact about a consistent operation is its last change of status. -/
theorem liveness_eq (record : OperationRecord) (consistent : Consistent record) :
    liveness record = record.operation.statusChangedAt := by
  refine max_eq_left ?_
  cases newest : (record.progress.map ProgressEntry.observedAt).max? with
  | none => exact le_rfl
  | some at_ =>
    obtain ⟨entry,member,rfl⟩ := List.mem_map.mp (List.max?_mem newest)
    exact consistent.observed entry member

theorem isStale_iff (cutoff : Int) (record : OperationRecord) (consistent : Consistent record) :
    isStale cutoff record = true ↔
      isTerminal record.operation.status = false ∧ record.operation.statusChangedAt < cutoff := by
  constructor
  · intro stale
    have old := live_of_stale cutoff record stale
    rwa [liveness_eq record consistent] at old
  · rintro ⟨live,old⟩
    have unended : record.operation.terminatedAt.isNone = true := by
      have ended := terminated_iff record consistent.checks
      rw [live] at ended
      simpa [Option.isSome_eq_false_iff] using ended
    have running : statusStr record.operation.status ∈ ["accepted","queued","running"] := by
      revert live
      cases record.operation.status <;> decide
    simp [isStale,unended,running,liveness_eq record consistent,old]

section Pass

variable (cutoff : Int) (now : Timestamp)

/-- The reaper leaves every operation but its candidate as it was. -/
theorem reconcileOne_other (operationId other : OperationId) (rows later : Db) (value : Bool)
    (different : other ≠ operationId)
    (ended : exec schema (reconcileOne operationId cutoff now) rows = .done value later) :
    later (.operation other) = rows (.operation other) :=
  exec_within _ _ _ _ (within_reconcileOne operationId cutoff now) _ _ ended _
    fun own => different (Table.operation.inj own)

/-- A pass leaves an operation that is not stale as it was. -/
theorem reconcileAll_alive (operationIds : List OperationId) (report : Report) (rows : Db)
    (operationId : OperationId) (record : OperationRecord) (found : rows (.operation operationId) = some record)
    (alive : isStale cutoff record = false) :
    (reconcileAll cutoff now report operationIds rows).1 (.operation operationId) = some record := by
  induction operationIds generalizing rows report with
  | nil => exact found
  | cons candidate operationIds ih =>
    simp only [reconcileAll]
    cases outcome : exec schema (reconcileOne candidate cutoff now) rows with
    | done value later =>
      have different : operationId ≠ candidate := by
        rintro rfl
        rw [exec_reconcileOne_skip rows operationId now cutoff (by simp [found,alive])] at outcome
        cases outcome
      exact ih _ later ((reconcileOne_other cutoff now candidate operationId rows later value different outcome).trans found)
    | abandoned answer =>
      cases answer with
      | ok => exact ih _ rows found
      | error => exact found
    | refused => exact found

/-- Along a clock that has not gone back, the reaper ends a stale operation and passes over the others. -/
theorem reconcileOne_ends (operationId : OperationId) (rows : Db) (valid : Valid rows) (past : Past now rows) :
    (exec schema (reconcileOne operationId cutoff now) rows = .abandoned (.ok false) ∧
      ∀ record, rows (.operation operationId) = some record → isStale cutoff record = false) ∨
    ∃ final, exec schema (reconcileOne operationId cutoff now) rows =
        .done true (Function.update rows (.operation operationId) (some final)) ∧
      isTerminal final.operation.status = true := by
  rcases found : (rows (.operation operationId)).filter (isStale cutoff) with _ | record
  · refine Or.inl ⟨exec_reconcileOne_skip rows operationId now cutoff found,fun record stored => ?_⟩
    rw [stored] at found
    exact Bool.eq_false_iff.mpr fun stale => by simp [stale] at found
  · obtain ⟨stored,stale⟩ := Option.filter_eq_some_iff.mp found
    have consistent := valid operationId record stored
    have live := ((isStale_iff cutoff record consistent).mp stale).1
    obtain ⟨final,applied⟩ := failChanges_ok record none now staleMessage staleError consistent.checks live
      (past operationId record stored) rfl staleMessage_short staleMessage_short
    refine Or.inr ⟨final,?_,?_⟩
    · rw [exec_reconcileOne rows operationId now record stored cutoff stale,applied]
    · have above : rank record.operation.status < rank .failed :=
        ((apply_advance_iff _ _ _).mp (apply_failed _ live)).2
      have reached := (advanced record final consistent now _ _ _ _ _ (errorChanges_annotate staleError now) above
        rfl applied).2.1
      rw [reached]
      rfl

/-- Such a pass ends every stale operation among its candidates. -/
theorem reconcileAll_ends (operationIds : List OperationId) (report : Report) (rows : Db) (valid : Valid rows)
    (past : Past now rows) (operationId : OperationId) (member : operationId ∈ operationIds)
    (record : OperationRecord) (found : rows (.operation operationId) = some record)
    (stale : isStale cutoff record = true) :
    ∃ final, (reconcileAll cutoff now report operationIds rows).1 (.operation operationId) = some final ∧
      isTerminal final.operation.status = true := by
  induction operationIds generalizing rows report with
  | nil => cases member
  | cons candidate operationIds ih =>
    simp only [reconcileAll]
    have kept := writer_kept (.reconcile candidate cutoff now) rows valid
    simp only [Writer.program,exec_adapt] at kept
    rcases reconcileOne_ends cutoff now candidate rows valid past with ⟨skipped,alive⟩ | ⟨final,ended,terminal⟩
    · have different : operationId ≠ candidate := by
        rintro rfl
        rw [alive record found] at stale
        cases stale
      rw [skipped]
      exact ih _ rows valid past ((List.mem_cons.mp member).resolve_left different) found
    · rw [ended] at kept ⊢
      have moves : Moves now rows (Function.update rows (.operation candidate) (some final)) := kept
      by_cases same : operationId = candidate
      · subst same
        refine ⟨final,reconcileAll_alive cutoff now _ _ _ operationId final (Function.update_self _ _ _) ?_,terminal⟩
        refine Bool.eq_false_iff.mpr fun old => ?_
        rw [(live_of_stale cutoff final old).1] at terminal
        cases terminal
      · refine ih _ _ moves.valid (past.moves now le_rfl moves) ((List.mem_cons.mp member).resolve_left same) ?_
        rwa [Function.update_of_ne fun equal => same (Table.operation.inj equal)]

end Pass

/-- The rows of the table in some order of a scan. -/
def Scans (table : List OperationId) (rows : Db) : Prop :=
  table.Nodup ∧ ∀ operationId, operationId ∈ table ↔ (rows (.operation operationId)).isSome

theorem mem_candidates (rows : Db) (table : List OperationId) (cutoff : Int) (operationId : OperationId)
    (record : OperationRecord) (listed : operationId ∈ table) (found : rows (.operation operationId) = some record)
    (stale : isStale cutoff record = true) : operationId ∈ candidates rows table cutoff table.length := by
  refine List.mem_map.mpr ⟨(record.operation.statusChangedAt,operationId),?_,rfl⟩
  rw [List.take_of_length_le]
  · refine (List.mem_insertionSort _).mpr (List.mem_filterMap.mpr ⟨operationId,listed,?_⟩)
    simp [found,stale]
  · rw [List.length_insertionSort]
    exact List.length_filterMap_le _ _

/-- A pass whose batch takes in the table ends every stale operation. -/
theorem pass_ends (rows : Db) (valid : Valid rows) (table : List OperationId) (scans : Scans table rows)
    (staleAfter : Int) (now : Timestamp) (past : Past now rows) (operationId : OperationId) (record : OperationRecord)
    (found : rows (.operation operationId) = some record)
    (stale : isStale (toOffset (now - staleAfter)) record = true) :
    ∃ final, step rows (.pass table staleAfter table.length now) (.operation operationId) = some final ∧
      isTerminal final.operation.status = true := by
  have listed := (scans.2 operationId).mpr (by rw [found]; rfl)
  have candidate := mem_candidates rows table _ operationId record listed found stale
  exact reconcileAll_ends _ now _ ⟨0,0⟩ rows valid past operationId candidate record found stale

section Listing

/-- Only finitely many operations have been minted. -/
def Listed (rows : Db) : Prop :=
  ∃ table : List OperationId, ∀ operationId, (rows (.operation operationId)).isSome → operationId ∈ table

theorem listed_of_other (rows later : Db) (operationId : OperationId) (listed : Listed rows)
    (others : ∀ other, other ≠ operationId → later (.operation other) = rows (.operation other)) : Listed later := by
  obtain ⟨table,complete⟩ := listed
  refine ⟨operationId :: table,fun other found => ?_⟩
  by_cases same : other = operationId
  · exact same ▸ List.mem_cons_self
  · exact List.mem_cons_of_mem _ (complete other (others other same ▸ found))

theorem reconcileAll_listed (cutoff : Int) (now : Timestamp) (operationIds : List OperationId) (report : Report)
    (rows : Db) (listed : Listed rows) : Listed (reconcileAll cutoff now report operationIds rows).1 := by
  induction operationIds generalizing rows report with
  | nil => exact listed
  | cons candidate operationIds ih =>
    simp only [reconcileAll]
    cases outcome : exec schema (reconcileOne candidate cutoff now) rows with
    | done value later =>
      exact ih _ later (listed_of_other rows later candidate listed fun other different =>
        reconcileOne_other cutoff now candidate other rows later value different outcome)
    | abandoned answer =>
      cases answer with
      | ok => exact ih _ rows listed
      | error => exact listed
    | refused => exact listed

/-- What a writer commits leaves the operations it does not touch. -/
theorem write_other (writer : Writer) (operationId : OperationId) (within : Within (Alone operationId) writer.program)
    (rows : Db) (other : OperationId) (different : other ≠ operationId) :
    step rows (.write writer) (.operation other) = rows (.operation other) := by
  simp only [step]
  cases outcome : exec schema writer.program rows with
  | done value later => exact exec_within _ _ _ _ within _ _ outcome _ fun own => different (own other rfl)
  | abandoned | refused => rfl

theorem step_listed (rows : Db) (action : Action) (listed : Listed rows) : Listed (step rows action) := by
  cases action with
  | pass table staleAfter batch now => exact reconcileAll_listed _ now _ _ rows listed
  | write writer =>
    obtain ⟨operationId,within⟩ := within_writer writer
    exact listed_of_other rows _ operationId listed (write_other writer operationId within rows)

theorem scan_exists (rows : Db) (listed : Listed rows) : ∃ table, Scans table rows := by
  obtain ⟨table,complete⟩ := listed
  refine ⟨(table.dedup).filter fun operationId => (rows (.operation operationId)).isSome,
    (List.nodup_dedup table).filter _,fun operationId => ?_⟩
  simp only [List.mem_filter,List.mem_dedup]
  exact ⟨fun both => both.2,fun found => ⟨complete operationId found,found⟩⟩

theorem Reachable.listed {rows : Db} (reached : Reachable rows) : Listed rows := by
  obtain ⟨actions,ran⟩ := reached
  refine StateMachine.run_invariant serve Listed ?_ noRows actions rows ⟨[],nofun⟩ ran
  rintro before action _ listed ⟨⟩
  exact step_listed before action listed

end Listing

/-- Whatever else is handled after instant `handled`, no pass that comes less than `staleAfter` later
moves the operation to a terminal status. -/
def KeptAlive (rows : Db) (handled : Timestamp) (staleAfter : Int) (operationId : OperationId) : Prop :=
  ∀ actions later, Clocked handled actions → StateMachine.run serve rows actions = some later →
    ∀ table batch now, Scans table later → (∀ action ∈ actions, action.now ≤ now) → handled ≤ now →
      now - handled < staleAfter → ∀ record final, later (.operation operationId) = some record →
        isTerminal record.operation.status = false →
        step later (.pass table staleAfter batch now) (.operation operationId) = some final →
        isTerminal final.operation.status = false

/-- The state before a report in which handling it will count as a sign of life: the operation has
ended, the report advances it, or its last advance is as recent as the report. -/
def CountsAsLife (record : OperationRecord) (report : OperationReported) (now : Timestamp) : Prop :=
  isTerminal record.operation.status = true ∨ rank record.operation.status < rank report.status ∨
    toOffset (now - 1) ≤ record.operation.statusChangedAt

section Handling

variable {rows later : Db} {message : Eventing.Incoming Envelope} {report : OperationReported}
  {outcome : Eventing.Outcome} {now : Timestamp}

/-- A report that was handled left the record that `handled` describes. -/
theorem handle_done (read : ProgressReport.read message.payload = some report) (record : OperationRecord)
    (found : rows (.operation report.operationId) = some record)
    (bound : boundAt rows message report.operationId = true)
    (done : exec schema (handle (ε := Unit) message now) rows = .done outcome later) :
    ∃ final, handled record report now = .ok (outcome,final) ∧
      later = Function.update rows (.operation report.operationId) (some final) := by
  rw [exec_handle_bound rows message now report read bound,exec_project rows now report record found] at done
  split at done
  · rename_i outcome final applied
    obtain ⟨rfl,rfl⟩ := Outcome.done.inj done
    exact ⟨final,applied,rfl⟩
  · cases done

theorem found_of_bound {operationId : OperationId} (bound : boundAt rows message operationId = true) :
    ∃ record, rows (.operation operationId) = some record := by
  cases found : rows (.operation operationId) with
  | none => simp [boundAt,found] at bound
  | some record => exact ⟨record,rfl⟩

/-- An advance is dated with the report; anything else leaves the status and its date. -/
theorem handled_status (record final : OperationRecord) (consistent : Consistent record)
    (applied : handled record report now = .ok (outcome,final)) :
    (rank record.operation.status < rank report.status ∧ final.operation.status = report.status ∧
      final.operation.statusChangedAt = toOffset now) ∨
    (¬rank record.operation.status < rank report.status ∧ Annotates record final) := by
  have annotate := attachments_annotate report now
  simp only [handled] at applied
  split at applied
  · rename_i conflict
    obtain ⟨_,ended,_⟩ := (apply_conflict_iff _ _).mp conflict
    have top := (is_terminal_iff _).mp ended
    have bound := rank_le_terminal report.status
    obtain ⟨_,rfl⟩ := Prod.mk.inj (Except.ok.inj applied)
    exact Or.inr ⟨by omega,Annotates.refl record⟩
  · rename_i duplicate
    obtain ⟨made,produced,same⟩ := ok_of_map applied
    obtain ⟨_,rfl⟩ := Prod.mk.inj same
    refine Or.inr ⟨?_,applyChanges_annotates record made _ annotate produced⟩
    rw [(apply_duplicate_iff _ _).mp duplicate]
    exact lt_irrefl _
  · rename_i stale
    obtain ⟨made,produced,same⟩ := ok_of_map applied
    obtain ⟨_,rfl⟩ := Prod.mk.inj same
    exact Or.inr ⟨((apply_stale_iff _ _).mp stale).not_gt,applyChanges_annotates record made _ annotate produced⟩
  · rename_i status advances
    obtain ⟨made,produced,same⟩ := ok_of_map applied
    obtain ⟨_,rfl⟩ := Prod.mk.inj same
    obtain ⟨rfl,above⟩ := (apply_advance_iff _ _ _).mp advances
    exact Or.inl ⟨above,(advanced record made consistent now _ _ _ _ _ annotate above
      (report_stage_named report) produced).2⟩

end Handling

/-- Every pass in reach has its cutoff before the report. -/
theorem cutoff_le {now handled staleAfter : Int} (soon : now - handled < staleAfter) :
    now - staleAfter ≤ handled - 1 := by omega

/-- The last instant in reach has its cutoff just before the report. -/
theorem last_instant (handled : Int) {staleAfter : Int} (positive : 0 < staleAfter) :
    handled ≤ handled + staleAfter - 1 ∧ handled + staleAfter - 1 - handled < staleAfter ∧
      handled + staleAfter - 1 - staleAfter = handled - 1 := by omega

/-- A status that changed since the cutoff of every pass in reach keeps the operation alive. -/
theorem kept_alive_of_recent (rows : Db) (handled : Timestamp) (staleAfter : Int) (operationId : OperationId)
    (valid : Valid rows) (record : OperationRecord) (found : rows (.operation operationId) = some record)
    (recent : isTerminal record.operation.status = true ∨ toOffset (handled - 1) ≤ record.operation.statusChangedAt) :
    KeptAlive rows handled staleAfter operationId := by
  intro actions later _ ran table batch now _ _ _ soon middle final stored live passed
  obtain ⟨new,kept,onward⟩ := run_grows rows actions later valid ran operationId record found
  obtain rfl : new = middle := Option.some.inj (kept.symm.trans stored)
  have consistent := run_valid rows actions later valid ran operationId new stored
  have alive : isStale (toOffset (now - staleAfter)) new = false := by
    refine Bool.eq_false_iff.mpr fun stale => ?_
    obtain ⟨_,old⟩ := (isStale_iff _ new consistent).mp stale
    rcases recent with ended | late
    · rw [onward.terminal ended,ended] at live
      cases live
    · have cutoff : toOffset (now - staleAfter) ≤ toOffset (handled - 1) := to_offset_mono (cutoff_le soon)
      have grown := onward.changedAt
      omega
  have same := reconcileAll_alive (toOffset (now - staleAfter)) now (candidates later table (toOffset (now - staleAfter)) batch)
    ⟨0,0⟩ later operationId new stored alive
  obtain rfl : new = final := Option.some.inj (same.symm.trans passed)
  exact live

/-- After a valid, authorised report was handled, the reaper spares the operation for `staleAfter`
exactly when the report found the operation in a state where it counts as a sign of life. -/
theorem handled_report_keeps_alive (staleAfter : Int) (positive : 0 < staleAfter) (rows later : Db)
    (actions : List Action) (ran : StateMachine.run serve noRows actions = some rows)
    (ordered : (actions.map Action.now).Pairwise (· ≤ ·)) (handled : Timestamp)
    (before : ∀ action ∈ actions, action.now ≤ handled) (message : Eventing.Incoming Envelope)
    (report : OperationReported) (read : ProgressReport.read message.payload = some report)
    (bound : boundAt rows message report.operationId = true) (outcome : Eventing.Outcome)
    (done : exec schema (handle (ε := Unit) message handled) rows = .done outcome later) :
    KeptAlive later handled staleAfter report.operationId ↔
      ∀ record, rows (.operation report.operationId) = some record → CountsAsLife record report handled := by
  have reached : Reachable rows := ⟨actions,ran⟩
  obtain ⟨record,found⟩ := found_of_bound bound
  obtain ⟨final,applied,rfl⟩ := handle_done read record found bound done
  have consistent := reached.valid _ record found
  have kept := (writer_kept (.report message handled) rows reached.valid)
  simp only [Writer.program,exec_adapt,done] at kept
  have moves : Moves handled rows (Function.update rows (.operation report.operationId) (some final)) := kept
  have stored := Function.update_self (Table.operation report.operationId) (some final : Option OperationRecord) rows
  have status := handled_status record final consistent applied
  constructor
  · intro alive other same
    obtain rfl : record = other := Option.some.inj (found.symm.trans same)
    rcases status with ⟨above,_⟩ | ⟨below,annotates⟩
    · exact Or.inr (Or.inl above)
    by_contra uncounted
    obtain ⟨live,_,old⟩ : isTerminal record.operation.status = false ∧ _ ∧
        record.operation.statusChangedAt < toOffset (handled - 1) := by
      simpa [CountsAsLife,not_or] using uncounted
    have past : Past handled rows := by
      cases actions with
      | nil =>
        obtain rfl := Option.some.inj ran
        exact noRows_past handled
      | cons action actions =>
        have above := (List.pairwise_cons.mp ordered).1
        refine run_past action.now handled noRows (action :: actions) rows noRows_valid (noRows_past _)
          ⟨ordered,fun other member => ?_⟩ before (before action List.mem_cons_self) ran
        rcases List.mem_cons.mp member with rfl | inside
        · exact le_rfl
        · exact above _ (List.mem_map_of_mem inside)
    have listed : Listed (Function.update rows (.operation report.operationId) (some final)) :=
      listed_of_other rows _ report.operationId reached.listed fun other different =>
        Function.update_of_ne (fun equal => different (Table.operation.inj equal)) _ _
    obtain ⟨table,scans⟩ := scan_exists _ listed
    obtain ⟨later,soon,cutoff⟩ := last_instant handled positive
    have stale : isStale (toOffset (handled + staleAfter - 1 - staleAfter)) final = true := by
      rw [cutoff,isStale_iff _ final (moves.valid _ final stored),annotates.status,annotates.changedAt]
      exact ⟨live,old⟩
    have pastNow : Past (handled + staleAfter - 1) (Function.update rows (.operation report.operationId) (some final)) :=
      fun id record at_ => (past.moves handled le_rfl moves id record at_).trans (to_offset_mono later)
    obtain ⟨ended,passed,terminal⟩ := pass_ends _ moves.valid table scans staleAfter (handled + staleAfter - 1) pastNow
      report.operationId final stored stale
    have spared := alive [] _ ⟨List.Pairwise.nil,List.forall_mem_nil _⟩ rfl table table.length (handled + staleAfter - 1) scans
      (List.forall_mem_nil _)
      later soon final ended stored (annotates.status ▸ live) passed
    rw [spared] at terminal
    cases terminal
  · intro counts
    refine kept_alive_of_recent _ handled staleAfter _ moves.valid final stored ?_
    rcases status with ⟨_,_,dated⟩ | ⟨below,annotates⟩
    · exact Or.inr (dated ▸ to_offset_mono (Int.sub_le_self handled (by decide)))
    · rcases counts record found with ended | above | late
      · exact Or.inl (annotates.status ▸ ended)
      · exact absurd above below
      · exact Or.inr (annotates.changedAt ▸ late)

section Repeated

def captureMint : Writer :=
  .mint 0 1 "content.capture.submit" "request:1" (some "key") (some "ratatoskr-extractor") none 0

def runningReport : OperationReported := ⟨0,.running,none,none,[],none,[]⟩

/-- An accepted capture whose extractor has reported that it runs. -/
def runningActions : List Action := [.write captureMint,.write (.report (reportFrom runningReport) 1000)]

def runningRows : Db := step (step noRows (.write captureMint)) (.write (.report (reportFrom runningReport) 1000))

def runningRecord : OperationRecord :=
  let accepted := newRecord
    (newOperation 1 "content.capture.submit" "request:1" (some "key") (some "ratatoskr-extractor") 0)
  (accepted.withStatus .running none none 1000).withProgress (progressEntry .running none none none 1000)

theorem runningRows_other (other : OperationId) (different : other ≠ 0) : runningRows (.operation other) = none := by
  refine (write_other (.report (reportFrom runningReport) 1000) 0 ?_ _ other different).trans
    (write_other captureMint 0 ?_ noRows other different)
  · exact within_mono _ _ _ (bound_alone runningReport.operationId)
      (within_adapt _ _ _ _ (within_handle (reportFrom runningReport) 1000 runningReport rfl))
  · exact within_mint 0 1 "content.capture.submit" "request:1" (some "key") (some "ratatoskr-extractor") none 0

theorem runningActions_run : StateMachine.run serve noRows runningActions = some runningRows := by
  simp only [StateMachine.run,runningActions,serve,Option.bind_some,runningRows]

theorem runningRows_found : runningRows (.operation 0) = some runningRecord := rfl

theorem runningReport_bound : boundAt runningRows (reportFrom runningReport) 0 = true := by
  have unbound : runningRows (.archiveAcceptance 0) = none := rfl
  rw [boundAt,runningRows_found,unbound]
  decide

theorem repeated_report_handled (now : Timestamp) :
    exec schema (handle (ε := Unit) (reportFrom runningReport) now) runningRows = .done .duplicate runningRows := by
  rw [exec_handle_bound _ _ _ runningReport rfl runningReport_bound,exec_project _ _ runningReport runningRecord runningRows_found]
  exact congrArg (Outcome.done Eventing.Outcome.duplicate) (Function.update_eq_self _ _)

/-- The extractor reports again that it runs; twelve microseconds later a pass whose interval is a
hundred ends the operation. -/
theorem repeated_report_is_no_sign_of_life :
    StateMachine.run serve noRows runningActions = some runningRows ∧
    boundAt runningRows (reportFrom runningReport) 0 = true ∧
    exec schema (handle (ε := Unit) (reportFrom runningReport) 90000) runningRows = .done .duplicate runningRows ∧
    ¬KeptAlive runningRows 90000 100000 0 := by
  refine ⟨runningActions_run,runningReport_bound,repeated_report_handled 90000,fun alive => ?_⟩
  · have scans : Scans [0] runningRows := by
      refine ⟨List.nodup_singleton 0,fun operationId => ?_⟩
      by_cases same : operationId = 0
      · subst same
        exact iff_of_true List.mem_cons_self (by rw [runningRows_found]; rfl)
      · rw [runningRows_other operationId same]
        exact iff_of_false (by simpa using same) nofun
    have valid : Valid runningRows := run_valid noRows runningActions runningRows noRows_valid runningActions_run
    have past : Past 102000 runningRows :=
      run_past 0 102000 noRows runningActions runningRows noRows_valid (noRows_past 0) ⟨by decide,by decide⟩
        (by decide) (by decide) runningActions_run
    obtain ⟨ended,passed,terminal⟩ :=
      pass_ends runningRows valid [0] scans 100000 102000 past 0 runningRecord runningRows_found (by decide)
    have spared := alive [] runningRows ⟨List.Pairwise.nil,List.forall_mem_nil _⟩ rfl [0] [0].length 102000 scans
      (List.forall_mem_nil _)
      (by decide) (by decide) runningRecord ended runningRows_found rfl passed
    rw [spared] at terminal
    cases terminal

/-- Within a microsecond of the first report the repeated one changes nothing about that. -/
theorem prompt_report_keeps_alive : KeptAlive runningRows 1500 100000 0 := by
  refine (handled_report_keeps_alive 100000 (by decide) runningRows runningRows runningActions runningActions_run (by decide) 1500
    (by decide) (reportFrom runningReport) runningReport rfl runningReport_bound .duplicate
    (repeated_report_handled 1500)).mpr fun record found => ?_
  obtain rfl : runningRecord = record := Option.some.inj (runningRows_found.symm.trans found)
  exact Or.inr (Or.inr (by decide))

end Repeated

end Ratatoskr.Operations
