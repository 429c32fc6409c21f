import Ratatoskr.Operations.Service

/-! The conflict events of the notes service as results of the write operations. The check that a reference is not
stored yet and the insert of its row are two statements, and no lock or unique index holds them together. -/
namespace Ratatoskr.Operations

open Eventing (Incoming Outcome)

/-- What the payload of a message parses to: the envelope's tenant text and the body as either event. -/
structure ConflictEnvelope where
  tenantId : Option String
  raised : Option (OperationId × Nat)
  resolved : Option (OperationId × Nat)

/-- A row of `operations.operation_results` without its drawn id -/
structure ResultRow where
  operationId : OperationId
  result : OperationResult
deriving DecidableEq

/-- What one result reference is: the operation, the kind and the target. -/
abbrev Reference := OperationId × String × String

def ResultRow.reference (row : ResultRow) : Reference := (row.operationId,row.result.resultKind,row.result.target)

def conflictRaised : OperationResultKind := ⟨"notes.conflict.raised",by decide⟩
def conflictResolved : OperationResultKind := ⟨"notes.conflict.resolved",by decide⟩

section Reading

variable (entityRef : Nat → EntityRef) (message : Incoming ConflictEnvelope)

/-- `read`: the operation of a conflict event and the result it is to have; `entityRef` is `notes_conflict:<id>`. -/
def readConflict : Option (OperationId × OperationResultRef) :=
  if message.subject = "evt.notes.conflict.raised.v1" then
    message.payload.raised.map fun event => (event.1,⟨conflictRaised,entityRef event.2⟩)
  else if message.subject = "evt.notes.conflict.resolved.v1" then
    message.payload.resolved.map fun event => (event.1,⟨conflictResolved,entityRef event.2⟩)
  else none

/-- Whether a conflict event may say something about the operation. -/
def concernsWrite (operation : Operation) : Bool :=
  operation.kind == "notes.file.write" &&
    authorize operation.kind message.producer message.payload.tenantId operation.ownerUserId operation.reporter false

def conflictReference (event : OperationId × OperationResultRef) : Reference :=
  (event.1,event.2.resultKind.val,event.2.target.val)

/-- The row of `record_result` -/
def conflictRow (event : OperationId × OperationResultRef) (now : Timestamp) : ResultRow :=
  ⟨event.1,⟨event.2.resultKind.val,event.2.target.val,event.2,toOffset now⟩⟩

end Reading

/-- How far the transaction of a message has come. `mark` counts the rows that were committed when it looked for its
own; `seen` is the operation that it read. -/
inductive ConflictPhase where
  | idle
  /-- The inbox row is inserted. -/
  | begun
  | found (event : OperationId × OperationResultRef) (seen : Option Operation)
  | absent (event : OperationId × OperationResultRef) (seen : Operation) (mark : Nat)
  | recording (row : ResultRow) (seen : Operation) (mark : Nat)
  | leaving (seen : Option Operation) (outcome : Outcome)
  | finished (seen : Option Operation) (outcome : Outcome)

/-- The operations with the results that reports attach, the committed rows of the projection in the order of their
commits, and the transaction of each message. -/
structure ConflictState (τ : Type) where
  operations : Db
  projected : List ResultRow
  phase : τ → ConflictPhase

inductive ConflictEvent (τ : Type) where
  /-- The next statement of the transaction, or its commit -/
  | advance (t : τ) (now : Timestamp)
  /-- The transaction fails; its message is delivered again. -/
  | abort (t : τ)
  | other (action : Action)

namespace ConflictState

variable {τ : Type} (entityRef : Nat → EntityRef) (message : τ → Incoming ConflictEnvelope)

/-- `select exists`, over what is committed -/
def recorded (s : ConflictState τ) (reference : Reference) : Bool :=
  ((s.operations (.operation reference.1)).any fun record =>
    (OperationRecord.results record).any fun result => (result.resultKind,result.target) == reference.2) ||
  s.projected.any fun row => row.reference == reference

section Steps

variable [DecidableEq τ]

def enter (s : ConflictState τ) (t : τ) (phase : ConflictPhase) : ConflictState τ :=
  { s with phase := Function.update s.phase t phase }

/-- `handle` and the commit, statement by statement -/
def advance (s : ConflictState τ) (t : τ) (now : Timestamp) : ConflictState τ :=
  match s.phase t with
  | .idle => s.enter t .begun
  | .begun =>
    match readConflict entityRef (message t) with
    | none => s.enter t (.leaving none .rejected)
    | some event => s.enter t (.found event ((s.operations (.operation event.1)).map OperationRecord.operation))
  | .found _ none => s.enter t (.leaving none .rejected)
  | .found event (some seen) =>
    if concernsWrite (message t) seen then
      if s.recorded (conflictReference event) then s.enter t (.leaving (some seen) .duplicate)
      else s.enter t (.absent event seen s.projected.length)
    else s.enter t (.leaving (some seen) .rejected)
  | .absent event seen mark => s.enter t (.recording (conflictRow event now) seen mark)
  | .recording row seen _ => { s.enter t (.finished (some seen) .applied) with projected := s.projected ++ [row] }
  | .leaving seen outcome => s.enter t (.finished seen outcome)
  | .finished _ _ => s

def step (s : ConflictState τ) : ConflictEvent τ → ConflictState τ
  | .advance t now => s.advance entityRef message t now
  | .abort t =>
    match s.phase t with
    | .finished _ _ => s
    | _ => s.enter t .idle
  | .other action => { s with operations := Operations.step s.operations action }

end Steps

def start (operations : Db) : ConflictState τ := ⟨operations,[],fun _ => .idle⟩

/-- No two rows of the projection are one reference, and what a handled message says of an operation that it found
is on that operation. -/
structure Projected (s : ConflictState τ) : Prop where
  unique : (s.projected.map ResultRow.reference).Nodup
  present : ∀ t seen outcome event, s.phase t = .finished (some seen) outcome →
    readConflict entityRef (message t) = some event → concernsWrite (message t) seen = true →
    s.recorded (conflictReference event) = true

/-- Nobody has committed the row that a transaction is about to commit since that transaction looked for it. -/
def Undisturbed (s : ConflictState τ) : ConflictEvent τ → Prop
  | .advance t _ => ∀ row seen mark, s.phase t = .recording row seen mark →
      row.reference ∉ (s.projected.drop mark).map ResultRow.reference
  | _ => True

section Moving

variable {entityRef message} {s next : ConflictState τ}

/-- Operations only move on, and committed rows stay. -/
structure Further (s next : ConflictState τ) : Prop where
  operations : Grows s.operations next.operations
  projected : s.projected <+: next.projected

theorem recorded_further (further : s.Further next) (reference : Reference) (recorded : s.recorded reference = true) :
    next.recorded reference = true := by
  rcases (Bool.or_eq_true _ _).mp recorded with attached | stored
  · obtain ⟨record,found,listed⟩ := (Option.any_eq_true _ _).mp attached
    obtain ⟨result,member,same⟩ := List.any_eq_true.mp listed
    obtain ⟨new,kept,extends_⟩ := further.operations _ record found
    exact (Bool.or_eq_true _ _).mpr (Or.inl ((Option.any_eq_true _ _).mpr
      ⟨new,kept,List.any_eq_true.mpr ⟨result,extends_.results.subset member,same⟩⟩))
  · obtain ⟨row,member,same⟩ := List.any_eq_true.mp stored
    exact (Bool.or_eq_true _ _).mpr (Or.inr (List.any_eq_true.mpr ⟨row,further.projected.subset member,same⟩))

theorem recorded_of_mem (row : ResultRow) (member : row ∈ s.projected) : s.recorded row.reference = true :=
  (Bool.or_eq_true _ _).mpr (Or.inr (List.any_eq_true.mpr ⟨row,member,beq_self_eq_true _⟩))

theorem not_mem_of_unrecorded (reference : Reference) (unrecorded : s.recorded reference = false) :
    reference ∉ s.projected.map ResultRow.reference := by
  rintro member
  obtain ⟨row,stored,rfl⟩ := List.mem_map.mp member
  rw [recorded_of_mem row stored] at unrecorded
  cases unrecorded

variable (entityRef message) in
/-- The reference was not there when the transaction looked for it. -/
def Looked (s : ConflictState τ) (t : τ) (reference : Reference) (seen : Operation) (mark : Nat) : Prop :=
  (∃ event, readConflict entityRef (message t) = some event ∧ conflictReference event = reference) ∧
    concernsWrite (message t) seen = true ∧ mark ≤ s.projected.length ∧
    reference ∉ (s.projected.take mark).map ResultRow.reference

variable (entityRef message) in
/-- What the phase of a transaction says about its message and about what is committed -/
def Fits (s : ConflictState τ) (t : τ) : ConflictPhase → Prop
  | .idle | .begun => True
  | .found event _ => readConflict entityRef (message t) = some event
  | .absent event seen mark => s.Looked entityRef message t (conflictReference event) seen mark
  | .recording row seen mark => s.Looked entityRef message t row.reference seen mark
  | .leaving seen _ | .finished seen _ => ∀ event operation, readConflict entityRef (message t) = some event →
      seen = some operation → concernsWrite (message t) operation = true → s.recorded (conflictReference event) = true

variable (entityRef message) in
structure Kept (s : ConflictState τ) : Prop where
  valid : Valid s.operations
  phases : ∀ t, s.Fits entityRef message t (s.phase t)

theorem Looked.further {t : τ} {reference : Reference} {seen : Operation} {mark : Nat}
    (looked : s.Looked entityRef message t reference seen mark) (further : s.Further next) :
    next.Looked entityRef message t reference seen mark := by
  obtain ⟨read,concerned,below,free⟩ := looked
  refine ⟨read,concerned,below.trans further.projected.length_le,?_⟩
  obtain ⟨rest,same⟩ := further.projected
  rwa [← same,List.take_append_of_le_length below]

theorem Fits.further {t : τ} {phase : ConflictPhase} (fits : s.Fits entityRef message t phase) (further : s.Further next) :
    next.Fits entityRef message t phase := by
  cases phase with
  | idle | begun => trivial
  | found => exact fits
  | absent | recording => exact Looked.further fits further
  | leaving | finished =>
    exact fun event operation read found concerned => recorded_further further _ (fits event operation read found concerned)

variable [DecidableEq τ]

/-- One transaction goes on to a phase that fits, and the others stay where they are. -/
theorem Kept.enter (kept : s.Kept entityRef message) (further : s.Further next) (valid : Valid next.operations) (t : τ)
    (phase : ConflictPhase) (entered : next.phase = Function.update s.phase t phase)
    (fits : next.Fits entityRef message t phase) : next.Kept entityRef message := by
  refine ⟨valid,fun other => ?_⟩
  rw [entered]
  by_cases same : other = t
  · subst same
    rwa [Function.update_self]
  · rw [Function.update_of_ne same]
    exact (kept.phases other).further further

theorem Kept.advance (kept : s.Kept entityRef message) (t : τ) (now : Timestamp) :
    (s.advance entityRef message t now).Kept entityRef message := by
  have here := kept.phases t
  have stays (phase : ConflictPhase) (fits : s.Fits entityRef message t phase) : (s.enter t phase).Kept entityRef message :=
    kept.enter ⟨Grows.refl _,List.prefix_rfl⟩ kept.valid t phase rfl fits
  unfold ConflictState.advance
  split
  · exact stays _ trivial
  · split
    · rename_i unread
      exact stays _ fun event operation read => by simp [unread] at read
    · rename_i event read
      exact stays _ read
  · exact stays _ fun _ _ _ found => by cases found
  · rename_i event seen at_
    rw [at_] at here
    split
    · rename_i concerned
      split
      · rename_i recorded
        exact stays _ fun other _ read _ _ => by rwa [← Option.some.inj (here.symm.trans read)]
      · rename_i unrecorded
        refine stays _ ⟨⟨event,here,rfl⟩,concerned,le_rfl,?_⟩
        rw [List.take_length]
        exact not_mem_of_unrecorded _ (by simpa using unrecorded)
    · rename_i unconcerned
      exact stays _ fun _ operation _ found concerned => absurd (Option.some.inj found ▸ concerned) unconcerned
  · rename_i event seen mark at_
    rw [at_] at here
    exact stays _ here
  · rename_i row seen mark at_
    rw [at_] at here
    obtain ⟨⟨event,read,same⟩,_⟩ := here
    refine kept.enter ⟨Grows.refl _,List.prefix_append _ _⟩ kept.valid t _ rfl fun other _ other_read _ _ => ?_
    obtain rfl := Option.some.inj (read.symm.trans other_read)
    rw [same]
    exact recorded_of_mem row (List.mem_append_right _ (List.mem_singleton.mpr rfl))
  · rename_i seen outcome at_
    rw [at_] at here
    exact stays _ here
  · exact kept

theorem Kept.step (kept : s.Kept entityRef message) (event : ConflictEvent τ) :
    (s.step entityRef message event).Kept entityRef message := by
  cases event with
  | advance t now => exact kept.advance t now
  | abort t =>
    simp only [ConflictState.step]
    split
    · exact kept
    · exact kept.enter ⟨Grows.refl _,List.prefix_rfl⟩ kept.valid t .idle rfl trivial
  | other action =>
    have moves := step_moves s.operations action kept.valid
    exact ⟨moves.valid,fun t => (kept.phases t).further ⟨moves.grows,List.prefix_rfl⟩⟩

variable (entityRef message) in
/-- A commit of a row is the only step that changes what is committed. -/
theorem step_projected (s : ConflictState τ) (event : ConflictEvent τ) :
    (∃ t now row seen mark, event = .advance t now ∧ s.phase t = .recording row seen mark ∧
      (s.step entityRef message event).projected = s.projected ++ [row]) ∨
    ((∀ t now, event = .advance t now → ∀ row seen mark, s.phase t ≠ .recording row seen mark) ∧
      (s.step entityRef message event).projected = s.projected) := by
  cases event with
  | advance t now =>
    cases at_ : s.phase t with
    | recording row seen mark =>
      exact Or.inl ⟨t,now,row,seen,mark,rfl,at_,by simp [ConflictState.step,ConflictState.advance,at_]⟩
    | idle | absent | leaving | finished =>
      refine Or.inr ⟨?_,by simp [ConflictState.step,ConflictState.advance,at_,enter]⟩
      rintro _ _ ⟨⟩ _ _ _ other
      simp [at_] at other
    | begun =>
      refine Or.inr ⟨?_,?_⟩
      · rintro _ _ ⟨⟩ _ _ _ other
        simp [at_] at other
      · simp only [ConflictState.step,ConflictState.advance,at_]
        split <;> rfl
    | found read seen =>
      refine Or.inr ⟨?_,?_⟩
      · rintro _ _ ⟨⟩ _ _ _ other
        simp [at_] at other
      · cases seen with
        | none => simp [ConflictState.step,ConflictState.advance,at_,enter]
        | some seen =>
          simp only [ConflictState.step,ConflictState.advance,at_]
          split
          · split <;> rfl
          · rfl
  | abort t =>
    refine Or.inr ⟨nofun,?_⟩
    simp only [ConflictState.step]
    split <;> rfl
  | other action => exact Or.inr ⟨nofun,rfl⟩

/-- What is committed stays unique exactly when nobody was in between. -/
theorem unique_step {s : ConflictState τ} (kept : s.Kept entityRef message)
    (unique : (s.projected.map ResultRow.reference).Nodup) (event : ConflictEvent τ) :
    ((s.step entityRef message event).projected.map ResultRow.reference).Nodup ↔ s.Undisturbed event := by
  rcases step_projected entityRef message s event with
    ⟨t,now,row,seen,mark,rfl,at_,made⟩ | ⟨other,same⟩
  · have looked := kept.phases t
    rw [at_] at looked
    obtain ⟨_,_,_,free⟩ := looked
    have split : s.projected.map ResultRow.reference =
        (s.projected.take mark).map ResultRow.reference ++ (s.projected.drop mark).map ResultRow.reference := by
      rw [← List.map_append,List.take_append_drop]
    have added : (s.projected.map ResultRow.reference ++ [row.reference]).Nodup ↔
        row.reference ∉ s.projected.map ResultRow.reference := by
      rw [List.nodup_append]
      constructor
      · exact fun parts member => parts.2.2 _ member _ (List.mem_singleton.mpr rfl) rfl
      · exact fun absent => ⟨unique,List.nodup_singleton _,fun first member second last equal =>
          absent (List.mem_singleton.mp last ▸ equal ▸ member)⟩
    rw [made,List.map_append,List.map_singleton,added,split,List.mem_append]
    constructor
    · intro absent stored _ _ at_again
      obtain ⟨rfl,_,rfl⟩ := ConflictPhase.recording.inj (at_.symm.trans at_again)
      exact fun later => absent (Or.inr later)
    · intro undisturbed member
      exact member.elim free (undisturbed row seen mark at_)
  · rw [same]
    refine iff_of_true unique ?_
    cases event with
    | advance t now => exact fun row seen mark at_ => absurd at_ (other t now rfl row seen mark)
    | abort | other => trivial

omit [DecidableEq τ] in
theorem Kept.projected {s : ConflictState τ} (kept : s.Kept entityRef message)
    (unique : (s.projected.map ResultRow.reference).Nodup) : s.Projected entityRef message := by
  refine ⟨unique,fun t seen outcome event at_ read concerned => ?_⟩
  have fits := kept.phases t
  rw [at_] at fits
  exact fits event seen read rfl concerned

end Moving

end ConflictState

/-- The transactions of the messages, interleaved -/
def projecting {τ : Type} [DecidableEq τ] (entityRef : Nat → EntityRef) (message : τ → Incoming ConflictEnvelope)
    (s : ConflictState τ) (event : ConflictEvent τ) : Option (ConflictState τ) := some (s.step entityRef message event)

/-- However the transactions overlap, no reference is stored twice and none that was handled is missing, exactly when
no transaction commits a row that another has committed since it looked. -/
theorem conflicts_projected_iff {τ : Type} [DecidableEq τ] (entityRef : Nat → EntityRef)
    (message : τ → Incoming ConflictEnvelope) (operations : Db) (valid : Valid operations) (events : List (ConflictEvent τ)) :
    StateMachine.Throughout (projecting entityRef message) (ConflictState.Projected entityRef message)
        (ConflictState.start operations) events ↔
      StateMachine.Along (projecting entityRef message) ConflictState.Undisturbed (ConflictState.start operations) events := by
  refine StateMachine.throughout_iff_along (projecting entityRef message) (ConflictState.Kept entityRef message) _ _ ?_
    (fun _ _ => rfl) ?_ _ events ⟨valid,fun _ => trivial⟩ ⟨List.nodup_nil,fun _ _ _ _ at_ => by cases at_⟩
  · rintro s event _ kept ⟨⟩
    exact kept.step event
  · rintro s event _ kept projected ⟨⟩
    rw [← ConflictState.unique_step kept projected.unique event]
    exact ⟨ConflictState.Projected.unique,(kept.step event).projected⟩

section Overlap

def writeMint : Writer := .mint 0 1 "notes.file.write" "request:1" (some "key") (some "ratatoskr-notes") none 0

def writeRows : Db := step noRows (.write writeMint)

theorem writeRows_valid : Valid writeRows := (step_moves noRows (.write writeMint) noRows_valid).valid

/-- The one conflict of the two messages -/
def toldConflict (_ : Nat) : EntityRef := ⟨"notes_conflict:00000000-0000-0000-0000-000000000007",by decide⟩

/-- Two messages that tell of the same conflict -/
def toldTwice (second : Bool) : Incoming ConflictEnvelope :=
  ⟨if second then 2 else 1,"evt.notes.conflict.raised.v1","ratatoskr-notes",
    some "user:00000000-0000-0000-0000-000000000001",some (0,7),none⟩

/-- Both transactions look for the reference before either of them commits it. -/
theorem overlapping_conflicts_are_stored_twice : ∃ final, StateMachine.run (projecting toldConflict toldTwice)
      (ConflictState.start writeRows)
      ((List.replicate 4 (ConflictEvent.advance false 1000)) ++ List.replicate 4 (ConflictEvent.advance true 2000) ++
        [.advance false 3000,.advance true 4000]) = some final ∧
    ¬final.Projected toldConflict toldTwice := by
  refine ⟨_,rfl,fun projected => ?_⟩
  have unique := projected.unique
  revert unique
  decide +kernel

/-- One after the other, the second finds what the first has stored. -/
theorem conflicts_in_turn_are_stored_once :
    StateMachine.Throughout (projecting toldConflict toldTwice) (ConflictState.Projected toldConflict toldTwice)
      (ConflictState.start writeRows)
      (List.replicate 5 (ConflictEvent.advance false 1000) ++ List.replicate 4 (ConflictEvent.advance true 2000)) := by
  refine (conflicts_projected_iff toldConflict toldTwice writeRows writeRows_valid _).mpr ?_
  iterate 4
    refine ⟨fun _ _ _ at_ => (by cases at_),?_⟩
    rintro _ ⟨⟩
  refine ⟨fun row _ mark at_ => ?_,?_⟩
  · obtain ⟨rfl,_,rfl⟩ := ConflictPhase.recording.inj at_
    exact List.not_mem_nil
  rintro _ ⟨⟩
  iterate 4
    refine ⟨fun _ _ _ at_ => (by cases at_),?_⟩
    rintro _ ⟨⟩
  trivial

end Overlap

end Ratatoskr.Operations
